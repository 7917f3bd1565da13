import SchemaGraph.Discovery.Catalog

/-! Discovery of all types that the seeds lead to.
References are taken from a queue. One that denotes no registered type is described by the
catalogue, and what the new type mentions joins the queue. Discovery ends because each step
registers one more descriptor of the catalogue or leaves the queue shorter.
-/

namespace SchemaGraph

/-- What a discovery comes to. -/
structure Discovery where
  registry : Registry
  /-- The references that the catalogue was asked to describe, in order. -/
  asked : List Reference
  /-- The errors of the catalogue, in the order in which they arose. -/
  errors : List SchemaError

/-- The same, after the catalogue was asked to describe a reference. -/
def Discovery.afterAsking (later : Discovery) (reference : Reference) : Discovery :=
  { later with asked := reference :: later.asked }

/-- The same, after the catalogue was asked in vain. -/
def Discovery.afterRefusal (later : Discovery) (reference : Reference) : Discovery :=
  { later.afterAsking reference with
    errors := (Problem.undescribed reference).toError :: later.errors }

namespace Registry

/-- Whether the reference denotes a registered type that can be used in its position. -/
def denotesUsable (registry : Registry) (reference : Reference) : Bool :=
  match (registry.find reference).bind registry.get? with
  | some record => record.kind.fits reference.position
  | none => false

/-- The descriptors whose canonical reference leads nowhere yet. -/
def unregistered (registry : Registry) (catalog : Catalog) : Catalog :=
  catalog.filter fun descriptor =>
    (registry.findKey descriptor.schemaReference).isNone

/-- Registering a record never brings a descriptor back.
Witness: induction on the catalogue; a reference that led somewhere does so still.
-/
theorem length_unregistered_register_le (registry : Registry) (record : TypeRecord)
    (catalog : Catalog)
    : ((registry.register record).1.unregistered catalog).length
      ≤ (registry.unregistered catalog).length := by
  induction catalog with
  | nil => exact Nat.le_refl _
  | cons descriptor rest ih =>
      unfold unregistered at ih ⊢
      simp only [List.filter_cons]
      cases h : registry.findKey descriptor.schemaReference with
      | some slot =>
          have known : (registry.findKey descriptor.schemaReference).isSome = true := by rw [h]; rfl
          obtain ⟨holder, leads⟩ :=
            Option.isSome_iff_exists.mp (@isSome_findKey_register registry record _ known)
          simpa [leads] using ih
      | none =>
          split
          · simpa using ih
          · simp only [Option.isNone_none, if_true, List.length_cons]
            exact Nat.le_succ_of_le ih

/-- Registering a described type leaves fewer descriptors unregistered. -/
theorem length_unregistered_toRecord_lt {registry : Registry} {catalog : Catalog}
    {descriptor : Descriptor} (foundBy : Reference) (hm : descriptor ∈ catalog)
    (hn : registry.findKey descriptor.schemaReference = none)
    : ((registry.register (descriptor.toRecord foundBy)).1.unregistered catalog).length
      < (registry.unregistered catalog).length := by
  obtain ⟨before, after, rfl⟩ := List.append_of_mem hm
  have hkey := @isSome_findKey_register_primary registry (descriptor.toRecord foundBy)
    (by rw [descriptor.primary_toRecord]; rfl)
  rw [descriptor.primary_toRecord] at hkey
  have hb := length_unregistered_register_le registry (descriptor.toRecord foundBy) before
  have ha := length_unregistered_register_le registry (descriptor.toRecord foundBy) after
  unfold unregistered at ha hb ⊢
  simp only [List.filter_append, List.filter_cons, hn, Option.isNone_none, if_true,
    List.length_append, List.length_cons]
  rw [if_neg (by rw [Option.isNone_iff_eq_none]; intro he; rw [he] at hkey; cases hkey)]
  omega

theorem lex_of_le_of_lt {left right : Nat} {shorter longer : Nat} (hl : left ≤ right)
    (hs : shorter < longer)
    : Prod.Lex (· < ·) (· < ·) (left, shorter) (right, longer) := by
  rcases Nat.lt_or_eq_of_le hl with h | rfl
  · exact Prod.Lex.left _ _ h
  · exact Prod.Lex.right _ hs

/-- Works off the queue; `seen` holds the references that were taken from it before. -/
def discoverFrom (catalog : Catalog) (registry : Registry) (seen queue : List Reference)
    : Discovery :=
  match queue with
  | [] => ⟨registry, [], []⟩
  | reference :: rest =>
      if reference.isName || reference ∈ seen then
        discoverFrom catalog registry seen rest
      else if registry.denotesUsable reference then
        discoverFrom catalog registry (reference :: seen) rest
      else
        match _hd : catalog.describe reference with
        | none =>
            (discoverFrom catalog registry (reference :: seen) rest).afterRefusal reference
        | some descriptor =>
            match _hf : registry.findKey descriptor.schemaReference with
            | some slot =>
                match registry.get? slot with
                | some record =>
                    (discoverFrom catalog (registry.register (record.withReference reference)).1
                      (reference :: seen) rest).afterAsking reference
                | none =>
                    (discoverFrom catalog registry (reference :: seen) rest).afterAsking reference
            | none =>
                (discoverFrom catalog (registry.register (descriptor.toRecord reference)).1
                  (reference :: seen) (rest ++ descriptor.mentions)).afterAsking reference
termination_by ((registry.unregistered catalog).length, queue.length)
decreasing_by
  · exact lex_of_le_of_lt (Nat.le_refl _) (Nat.lt_succ_self _)
  · exact lex_of_le_of_lt (Nat.le_refl _) (Nat.lt_succ_self _)
  · exact lex_of_le_of_lt (Nat.le_refl _) (Nat.lt_succ_self _)
  · exact lex_of_le_of_lt (length_unregistered_register_le _ _ _) (Nat.lt_succ_self _)
  · exact lex_of_le_of_lt (Nat.le_refl _) (Nat.lt_succ_self _)
  · exact Prod.Lex.left _ _
      (length_unregistered_toRecord_lt reference (List.mem_of_find?_eq_some _hd) _hf)

/-- Registers everything that the seeds lead to. -/
def discover (registry : Registry) (catalog : Catalog) (seeds : List Reference)
    : Discovery :=
  discoverFrom catalog registry [] seeds

end Registry
end SchemaGraph
