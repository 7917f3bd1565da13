import SchemaGraph.Registry.KeyTable

/-! The registered types, and three indexes over them.
A type's position in the order of registration is its slot. Schema and name references lead to a
slot each; a host type leads to entries in the order of registration, so that the earliest match
wins; complete names lead to a slot, those of directives behind an `@`. Indexes only grow until they
are rebuilt from the records.
-/

namespace SchemaGraph

/-- A position and scope in which a slot can be found by a host type. -/
structure RuntimeEntry where
  runtime : RuntimeType
  position : Position
  scope : Option String
  slot : Slot
deriving DecidableEq

structure Registry where
  records : List TypeRecord
  byReference : KeyTable
  byRuntime : List RuntimeEntry
  byName : Entries String Slot

namespace Registry

def empty : Registry := ⟨[], .empty, [], []⟩

instance : Inhabited Registry := ⟨empty⟩

def size (registry : Registry) : Nat :=
  registry.records.length

def slots (registry : Registry) : List Slot :=
  List.range registry.size

def get? (registry : Registry) (slot : Slot) : Option TypeRecord :=
  registry.records[slot]?

/-- The errors that were found out about the types at their discovery, in slot order. -/
def discoveryErrors (registry : Registry) : List SchemaError :=
  registry.records.flatMap fun record => record.discovered.errors

/-- The slot that a schema or name reference leads to. -/
def findKey (registry : Registry) (reference : Reference) : Option Slot :=
  registry.byReference.find reference

def addEntry (entries : List RuntimeEntry) (entry : RuntimeEntry) : List RuntimeEntry :=
  if entry ∈ entries then entries else entries ++ [entry]

/-- The entry of a reference to a host type. Without a position it only stands for the position that
the kind lives in. -/
def entryFor (slot : Slot) (kind : Kind) (reference : Reference) : Option RuntimeEntry :=
  match reference.target with
  | .runtime type =>
      some
        {
          runtime := type
          position := if reference.position = .any then kind.position else reference.position
          scope := reference.scope
          slot
        }
  | _ => none

/-- Named types with a concrete host type are found by it, too. -/
def runtimeEntries (slot : Slot) (record : TypeRecord) : List RuntimeEntry :=
  record.references.filterMap (entryFor slot record.kind)
    ++ if record.isNamedType && !record.runtime.isObject then
        [⟨record.runtime, record.kind.position, record.discovered.scope, slot⟩]
      else []

def isKey (reference : Reference) : Bool :=
  match reference.target with
  | .runtime _ => false
  | _ => true

/-- Adds what the record can be found by. -/
def index (registry : Registry) (slot : Slot) (record : TypeRecord) : Registry :=
  { registry with
    byReference := (record.references.filter isKey).foldl (KeyTable.add slot) registry.byReference
    byRuntime := (runtimeEntries slot record).foldl addEntry registry.byRuntime }

/-- Stores the record over the one that its canonical reference leads to, or else behind all
others. -/
def register (registry : Registry) (record : TypeRecord) : Registry × Slot :=
  match registry.findKey record.primary with
  | some slot =>
      ({ registry with records := registry.records.set slot record }.index slot record, slot)
  | none =>
      ({ registry with records := registry.records ++ [record] }.index registry.size record,
        registry.size)

/-- The key of the name: extensions and unnamed types have none. -/
def nameKey (record : TypeRecord) : Option String :=
  record.name.bind fun name =>
    if record.isDirective then some ("@" ++ name)
    else if record.isNamedType then some name
    else none

/-- Records the name that the type has now, or gives the slot that holds the name already. -/
def registerName (registry : Registry) (slot : Slot) : Except Slot Registry :=
  match (registry.get? slot).bind nameKey with
  | none => .ok registry
  | some key =>
      match Entries.get? registry.byName key with
      | none => .ok { registry with byName := Entries.insert registry.byName key slot }
      | some holder => if holder = slot then .ok registry else .error holder

/-- Indexes every record anew, in the buckets that there are. Names stay where the slot still has
the name. -/
def rebuild (registry : Registry) : Registry :=
  let cleared := { registry with byReference := registry.byReference.cleared, byRuntime := [] }
  let indexed :=
    registry.records.zipIdx.foldl (fun sofar entry => sofar.index entry.2 entry.1) cleared
  { indexed with
    byName := registry.byName.filter fun entry =>
      (registry.get? entry.2).bind nameKey = some entry.1 }

/-- The earliest type of the host type in a compatible position and the same scope. -/
def findRuntime (registry : Registry) (type : RuntimeType) (position : Position)
    (scope : Option String) : Option Slot :=
  (registry.byRuntime.find? fun entry =>
      entry.runtime = type && entry.position.compatible position && entry.scope = scope).map
    RuntimeEntry.slot

def find (registry : Registry) (reference : Reference) : Option Slot :=
  match reference.target with
  | .runtime type => registry.findRuntime type reference.position reference.scope
  | _ => registry.findKey reference

def contains (registry : Registry) (reference : Reference) : Bool :=
  (registry.find reference).isSome

def findByName (registry : Registry) (name : String) : Option Slot :=
  Entries.get? registry.byName name

/-- The name is given without the `@`. -/
def findDirective (registry : Registry) (name : String) : Option Slot :=
  Entries.get? registry.byName ("@" ++ name)

def getByName (registry : Registry) (name : String) : Option TypeRecord :=
  (registry.findByName name).bind registry.get?

variable {registry : Registry} {slot : Slot} {record : TypeRecord} {reference : Reference}

theorem isSome_findKey_iff
    : (registry.findKey reference).isSome = true
      ↔ ∃ key ∈ registry.byReference.keys, key.1.agrees reference = true :=
  KeyTable.isSome_find_iff

/-- The keys that there are stay when a record is stored. -/
theorem mem_keys_register_of_mem {key : Reference × Slot}
    (member : key ∈ registry.byReference.keys)
    : key ∈ (registry.register record).1.byReference.keys := by
  unfold register
  split <;> exact KeyTable.mem_keys_foldl_add_of_mem _ member

/-- A schema or name reference that leads somewhere goes on doing so. -/
theorem isSome_findKey_register (found : (registry.findKey reference).isSome = true)
    : ((registry.register record).1.findKey reference).isSome = true := by
  obtain ⟨key, member, agrees⟩ := isSome_findKey_iff.mp found
  exact isSome_findKey_iff.mpr ⟨key, mem_keys_register_of_mem member, agrees⟩

/-- A canonical reference leads somewhere as soon as its record is stored. -/
theorem isSome_findKey_register_primary (keyed : isKey record.primary = true)
    : ((registry.register record).1.findKey record.primary).isSome = true := by
  have added (slot : Slot) (table : KeyTable)
      : (((record.references.filter isKey).foldl (KeyTable.add slot) table).find
          record.primary).isSome = true := by
    obtain ⟨key, member, agrees⟩ :=
      KeyTable.isSome_find_iff.mp (KeyTable.isSome_find_add_self slot table record.primary)
    simp only [TypeRecord.references, List.filter_cons, keyed, if_true, List.foldl_cons]
    exact KeyTable.isSome_find_iff.mpr
      ⟨key, KeyTable.mem_keys_foldl_add_of_mem _ member, agrees⟩
  unfold register
  split <;> exact added _ _

end Registry
end SchemaGraph
