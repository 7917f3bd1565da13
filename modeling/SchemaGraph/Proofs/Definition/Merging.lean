import SchemaGraph.Definition.Merge
import SchemaGraph.Proofs.Data.Insertion
import SchemaGraph.Proofs.Definition.Outline
import SchemaGraph.Proofs.Reference.Agreement

/-! What bodies add to the definition that they are merged into.
A merge works on some parts of a definition, each part by itself. So several bodies come to a fold
for each part, and merging them a second time changes nothing.
-/

namespace SchemaGraph

/-- What merging changes in a definition. The references are the interfaces or the members. -/
structure Parts where
  description : Option String
  fields : List Field
  references : List Reference
  values : List String
  isOfType : Option (Value → Bool)

namespace Parts

/-- The parts of a definition without a structure. -/
def described (description : Option String) : Parts :=
  ⟨description, [], [], [], none⟩

/-- Merges the additions into the parts. -/
def add (parts additions : Parts) : Parts where
  description := parts.description.or additions.description
  fields := Definition.mergeFields parts.fields additions.fields
  references := Reference.addAll parts.references additions.references
  values := additions.values.foldl Definition.addValue parts.values
  isOfType := parts.isOfType.or additions.isOfType

/-- A description is added to the description alone. -/
@[simp] theorem add_described (parts : Parts) (description : Option String)
    : parts.add (.described description)
      = { parts with description := parts.description.or description } := by
  simp [add, described, Definition.mergeFields, Reference.addAll]

end Parts

namespace Definition

def parts : Definition → Parts
  | object type =>
      ⟨type.header.description, type.fields, type.interfaces, [], type.isOfType⟩
  | interface type => ⟨type.header.description, type.fields, type.interfaces, [], none⟩
  | union type => ⟨type.header.description, [], type.members, [], none⟩
  | inputObject type => ⟨type.header.description, type.fields, [], [], none⟩
  | enum type => ⟨type.header.description, [], [], type.values, none⟩
  | scalar type => .described type.header.description
  | directive type => .described type.header.description
  | extension body => .described body.header.description

/-- The definition with the parts, as far as it has such. -/
def withParts (definition : Definition) (parts : Parts) : Definition :=
  let described : Header → Header := fun header =>
    { header with description := parts.description }
  match definition with
  | object type =>
      object {
        type with
        header := described type.header
        fields := parts.fields
        interfaces := parts.references
        isOfType := parts.isOfType
      }
  | interface type =>
      interface {
        type with
        header := described type.header
        fields := parts.fields
        interfaces := parts.references
      }
  | union type =>
      union { type with header := described type.header, members := parts.references }
  | inputObject type =>
      inputObject { type with header := described type.header, fields := parts.fields }
  | enum type => enum { type with header := described type.header, values := parts.values }
  | definition => definition.mapHeader described

/-- The parts of the body that merging adds to the base: a body of another kind, as well as an
extension, adds its description alone.
-/
def additionsFor (base body : Definition) : Parts :=
  match base, body with
  | object _, object _ | interface _, interface _ | union _, union _
  | inputObject _, inputObject _ | enum _, enum _ => body.parts
  | _, _ => .described body.header.description

-----------------------------------------------------------------------------------------
-- A merge, part by part
-----------------------------------------------------------------------------------------

variable (base body : Definition) (parts other : Parts)

/-- A change of the header depends on what it does to the header of the definition. -/
theorem mapHeader_congr {definition : Definition} {change other : Header → Header}
    (same : change definition.header = other definition.header)
    : definition.mapHeader change = definition.mapHeader other := by
  induction definition with
  | extension body ih => exact congrArg extension (ih same)
  | _ =>
      simp only [header] at same
      simp only [mapHeader, same]

/-- A header that stays leaves the definition. -/
theorem mapHeader_self (definition : Definition)
    : (definition.mapHeader fun header => header) = definition := by
  induction definition with
  | extension body ih => exact congrArg extension ih
  | _ => rfl

@[simp] theorem withParts_parts : base.withParts base.parts = base := by
  cases base with
  | extension body =>
      have same
          : (extension body).withParts (extension body).parts
            = (extension body).mapHeader fun header => header :=
        mapHeader_congr rfl
      rw [same, mapHeader_self]
  | _ => rfl

@[simp] theorem withParts_withParts
    : (base.withParts parts).withParts other = base.withParts other := by
  cases base with
  | extension body => exact congrArg extension (mapHeader_mapHeader _ _ body)
  | _ => rfl

@[simp] theorem additionsFor_withParts
    : (base.withParts parts).additionsFor body = base.additionsFor body := by
  cases base <;> cases body <;> rfl

/-- A merge adds parts of the body to the parts of the base, and leaves the rest. -/
theorem merge_eq
    : base.merge body = base.withParts (base.parts.add (base.additionsFor body)) := by
  cases base with
  | extension inner => exact mapHeader_congr rfl
  | _ =>
      cases body <;> first
        | rfl
        | simp only [additionsFor, Parts.add_described]
          rfl

@[simp] theorem additionsFor_merge
    : (base.merge body).additionsFor = base.additionsFor := by
  funext other
  rw [merge_eq, additionsFor_withParts]

@[simp] theorem parts_merge
    : (base.merge body).parts = base.parts.add (base.additionsFor body) := by
  rw [merge_eq]
  cases base with
  | extension inner =>
      simp only [additionsFor, Parts.add_described, withParts, mapHeader, Definition.parts,
        header_mapHeader]
      rfl
  | _ => cases body <;> rfl

/-- The parts of several bodies are added one after the other. -/
theorem parts_foldl_merge (bodies : List Definition)
    : (bodies.foldl merge base).parts
      = (bodies.map base.additionsFor).foldl Parts.add base.parts := by
  induction bodies generalizing base with
  | nil => rfl
  | cons body rest ih =>
      rw [List.foldl_cons, ih, additionsFor_merge, parts_merge, List.map_cons, List.foldl_cons]

/-- Merging several bodies adds what each of them adds to the base. -/
theorem foldl_merge (bodies : List Definition)
    : bodies.foldl merge base
      = base.withParts ((bodies.map base.additionsFor).foldl Parts.add base.parts) := by
  induction bodies generalizing base with
  | nil => simp
  | cons body rest ih =>
      rw [List.foldl_cons, ih, additionsFor_merge, parts_merge, merge_eq, withParts_withParts,
        List.map_cons, List.foldl_cons]

-----------------------------------------------------------------------------------------
-- Merging twice
-----------------------------------------------------------------------------------------

/-- Replacing a field is storing it under its name. -/
theorem map_replaceField (fields : List Field) (field : Field)
    : (replaceField fields field).map (fun field => (field.name, field))
      = Entries.insert (fields.map fun field => (field.name, field)) field.name field := by
  induction fields with
  | nil => rfl
  | cons first rest ih =>
      by_cases same : first.name = field.name
      · simp [replaceField, Entries.insert, same]
      · simp [replaceField, Entries.insert, same, ih]

/-- Merged fields are stored by their names. -/
theorem map_mergeFields (fields additions : List Field)
    : (mergeFields fields additions).map (fun field => (field.name, field))
      = Entries.insertAll (fields.map fun field => (field.name, field))
          (additions.map fun field => (field.name, field)) := by
  induction additions generalizing fields with
  | nil => rfl
  | cons addition rest ih =>
      rw [mergeFields, List.foldl_cons, ← mergeFields, ih, map_replaceField]
      rfl

/-- Merging the same fields again changes nothing. -/
theorem mergeFields_twice (fields additions : List Field)
    : mergeFields (mergeFields fields additions) additions = mergeFields fields additions := by
  have injective (left right : Field) (same : (left.name, left) = (right.name, right))
      : left = right :=
    congrArg Prod.snd same
  rw [← List.map_inj_right injective]
  simp only [map_mergeFields, Entries.insertAll_twice]

end Definition

/-- Adding the same parts again, one after the other, changes nothing.
Witness: part by part; descriptions stay the first ones, fields are stored by name, and references,
members and values are there already.
-/
theorem Parts.foldl_add_twice (parts : Parts) (additions : List Parts)
    : additions.foldl add (additions.foldl add parts) = additions.foldl add parts := by
  have description (parts : Parts)
      : (additions.foldl add parts).description
        = (additions.map Parts.description).foldl Option.or parts.description := by
    rw [List.foldl_map]
    exact (List.foldl_hom Parts.description fun _ _ => rfl).symm
  have fields (parts : Parts)
      : (additions.foldl add parts).fields
        = Definition.mergeFields parts.fields (additions.flatMap Parts.fields) := by
    rw [Definition.mergeFields, List.foldl_flatMap]
    exact (List.foldl_hom Parts.fields fun _ _ => rfl).symm
  have references (parts : Parts)
      : (additions.foldl add parts).references
        = Reference.addAll parts.references (additions.flatMap Parts.references) := by
    rw [Reference.addAll, List.foldl_flatMap]
    exact (List.foldl_hom Parts.references fun _ _ => rfl).symm
  have values (parts : Parts)
      : (additions.foldl add parts).values
        = (additions.flatMap Parts.values).foldl Definition.addValue parts.values := by
    rw [List.foldl_flatMap]
    exact (List.foldl_hom Parts.values fun _ _ => rfl).symm
  have isOfType (parts : Parts)
      : (additions.foldl add parts).isOfType
        = (additions.map Parts.isOfType).foldl Option.or parts.isOfType := by
    rw [List.foldl_map]
    exact (List.foldl_hom Parts.isOfType fun _ _ => rfl).symm
  have eta : ∀ parts : Parts, parts = ⟨_, _, _, _, _⟩ := fun _ => rfl
  rw [eta (additions.foldl add (additions.foldl add parts)), eta (additions.foldl add parts)]
  congr 1
  · rw [description, description, absorbing_or.foldl_twice]
  · rw [fields, fields, Definition.mergeFields_twice]
  · rw [references, references]
    exact Reference.absorbing_addTo.foldl_twice _ _
  · rw [values, values]
    exact absorbing_mem.foldl_twice _ _
  · rw [isOfType, isOfType, absorbing_or.foldl_twice]

/-- Bodies that were merged already change nothing when they are merged again, in the same order. -/
theorem Definition.foldl_merge_twice (base : Definition) (bodies : List Definition)
    : bodies.foldl merge (bodies.foldl merge base) = bodies.foldl merge base := by
  have fixed : (bodies.foldl merge base).additionsFor = base.additionsFor := by
    funext body
    rw [foldl_merge, additionsFor_withParts]
  rw [foldl_merge (bodies.foldl merge base), fixed, parts_foldl_merge, Parts.foldl_add_twice,
    foldl_merge, withParts_withParts]

end SchemaGraph
