import SchemaGraph.Proofs.Data.Distinct
import SchemaGraph.Proofs.Definition.Merging

/-! The union of a definition and a body of one structure.
What the definition has keeps its place, and what is new follows in the order in which it first
comes. Where both have a field of one name the last one of the body takes the place; references and
values stay as they are.
-/

namespace SchemaGraph

namespace Definition

/-- The interfaces or the members; those of an extension are its body's. -/
def related : Definition → List Reference
  | object type => type.interfaces
  | interface type => type.interfaces
  | union type => type.members
  | extension body => body.related
  | _ => []

/-- The values of an enum; those of an extension are its body's. -/
def values : Definition → List String
  | enum type => type.values
  | extension body => body.values
  | _ => []

@[simp] theorem fields_mapHeader (change : Header → Header) (definition : Definition)
    : (definition.mapHeader change).fields = definition.fields := by
  induction definition with
  | extension body ih => exact ih
  | _ => rfl

@[simp] theorem related_mapHeader (change : Header → Header) (definition : Definition)
    : (definition.mapHeader change).related = definition.related := by
  induction definition with
  | extension body ih => exact ih
  | _ => rfl

@[simp] theorem values_mapHeader (change : Header → Header) (definition : Definition)
    : (definition.mapHeader change).values = definition.values := by
  induction definition with
  | extension body ih => exact ih
  | _ => rfl

/-- What decides whether a value is of an object type; that of an extension is its body's. -/
def predicate? : Definition → Option (Value → Bool)
  | object type => type.isOfType
  | extension body => body.predicate?
  | _ => none

def fieldNames (definition : Definition) : List String :=
  definition.fields.map Field.name

/-- The last field of the name. -/
def lastField? (definition : Definition) (name : String) : Option Field :=
  definition.fields.reverse.find? fun field => field.name = name

/-- A definition and a body of the same variant, one of those that merging works on. -/
inductive Alike : Definition → Definition → Prop where
  | objects (base body : ObjectType) : Alike (object base) (object body)
  | interfaces (base body : InterfaceType) : Alike (interface base) (interface body)
  | unions (base body : UnionType) : Alike (union base) (union body)
  | inputObjects (base body : InputObjectType) : Alike (inputObject base) (inputObject body)
  | enums (base body : EnumType) : Alike (enum base) (enum body)

/-- The merged definition is the union of the base and the body. -/
structure Unites (base body merged : Definition) : Prop where
  id : merged.id = base.id
  name : merged.name = base.name
  runtime : merged.runtime = base.runtime
  kind : merged.kind = base.kind
  isExtension : merged.isExtension = base.isExtension
  description : merged.header.description = base.header.description.or body.header.description
  predicate : merged.predicate? = base.predicate?.or body.predicate?
  fieldNames : merged.fieldNames = base.fieldNames ++ newItems base.fieldNames body.fieldNames
  distinctFields : merged.fieldNames.Nodup
  /-- Each field is the last one of the body, or else that of the base. -/
  fields
    : ∀ field ∈ merged.fields,
        some field = (body.lastField? field.name).or (base.field? field.name)
  basePrefix : base.related <+: merged.related
  /-- Each reference of the body agrees with a merged one. -/
  taken : ∀ reference ∈ body.related, reference.isIn merged.related = true
  nothingElse : ∀ reference ∈ merged.related, reference ∈ base.related ∨ reference ∈ body.related
  values : merged.values = base.values ++ newItems base.values body.values
  distinctValues : merged.values.Nodup

-----------------------------------------------------------------------------------------
-- Fields and values
-----------------------------------------------------------------------------------------

theorem map_name_replaceField (fields : List Field) (field : Field)
    : (replaceField fields field).map Field.name
      = addValue (fields.map Field.name) field.name := by
  induction fields with
  | nil => rfl
  | cons first rest ih =>
      by_cases same : first.name = field.name
      · simp [replaceField, addValue, same]
      · simp only [replaceField, if_neg same, List.map_cons, ih]
        unfold addValue
        split <;> rename_i there <;> simp [there, Ne.symm same]

theorem map_name_mergeFields (fields additions : List Field)
    : (mergeFields fields additions).map Field.name
      = fields.map Field.name ++ newItems (fields.map Field.name) (additions.map Field.name) := by
  rw [← foldl_append_unless_mem, List.foldl_map]
  exact (List.foldl_hom (List.map Field.name) fun fields field =>
    (map_name_replaceField fields field).symm).symm

theorem get?_map_name (fields : List Field) (name : String)
    : Entries.get? (fields.map fun field => (field.name, field)) name
      = fields.find? fun field => field.name = name := by
  induction fields with
  | nil => rfl
  | cons first rest ih =>
      rw [List.map_cons, Entries.get?_cons, ih, List.find?_cons]
      by_cases same : first.name = name <;> simp [same]

/-- Of several fields of one name the last addition is found, or else a former field. -/
theorem find?_mergeFields (fields additions : List Field) (name : String)
    : (mergeFields fields additions).find? (fun field => field.name = name)
      = (additions.reverse.find? fun field => field.name = name).or
          (fields.find? fun field => field.name = name) := by
  rw [← get?_map_name, map_mergeFields, Entries.get?_insertAll, Entries.last?, ← List.map_reverse,
    get?_map_name, get?_map_name]

-----------------------------------------------------------------------------------------
-- The union
-----------------------------------------------------------------------------------------

theorem parts_of_direct {definition : Definition} (direct : definition.isExtension = false)
    : definition.parts
      = ⟨definition.header.description, definition.fields, definition.related,
          definition.values, definition.predicate?⟩ := by
  cases definition with
  | extension body => cases direct
  | _ => rfl

theorem isExtension_merge (base body : Definition)
    : (base.merge body).isExtension = base.isExtension :=
  isExtension_congr (outline_merge base body)

/-- A body of the same variant is merged part by part. -/
theorem Alike.parts_merge {base body : Definition} (alike : Alike base body)
    : let merged := base.merge body
      merged.header.description = base.header.description.or body.header.description
      ∧ merged.fields = mergeFields base.fields body.fields
      ∧ merged.related = Reference.addAll base.related body.related
      ∧ merged.values = base.values ++ newItems base.values body.values
      ∧ merged.predicate? = base.predicate?.or body.predicate? := by
  intro merged
  have direct : base.isExtension = false ∧ body.isExtension = false := by
    cases alike <;> exact ⟨rfl, rfl⟩
  have additions : base.additionsFor body = body.parts := by
    cases alike <;> rfl
  have same := Definition.parts_merge base body
  rw [additions, parts_of_direct direct.1, parts_of_direct direct.2,
    parts_of_direct ((isExtension_merge base body).trans direct.1)] at same
  obtain ⟨description, fields, related, values, predicate⟩ := (Parts.mk.injEq ..).mp same
  exact ⟨description, fields, related, values.trans (foldl_append_unless_mem _ _), predicate⟩

/-- Merging a body of the same variant gives the union of both.
Witness: the parts of the merge are given by the kind, and each field of the union states one of
them.
-/
theorem unites_merge {base body : Definition} (alike : Alike base body)
    (distinctFields : base.fieldNames.Nodup) (distinctValues : base.values.Nodup)
    : Unites base body (base.merge body) := by
  have same := outline_merge base body
  obtain ⟨description, fields, related, values, predicate⟩ := alike.parts_merge
  have names
      : (base.merge body).fieldNames
        = base.fieldNames ++ newItems base.fieldNames body.fieldNames := by
    rw [fieldNames, fields, map_name_mergeFields]
    rfl
  have distinct : (base.merge body).fieldNames.Nodup :=
    names ▸ nodup_append_newItems distinctFields _
  exact {
    id := congrArg Outline.id same
    name := name_congr same
    runtime := congrArg Outline.runtime same
    kind := congrArg Outline.kind same
    isExtension := isExtension_merge base body
    description
    predicate
    fieldNames := names
    distinctFields := distinct
    fields := by
      intro field member
      rw [← find?_of_nodup_map distinct member, fields, find?_mergeFields]
      rfl
    basePrefix := by
      rw [related]
      exact Reference.prefix_addAll _ _
    taken := by
      intro reference member
      rw [related]
      exact Reference.isIn_addAll_of_mem member
    nothingElse := by
      intro reference member
      exact Reference.mem_addAll (related ▸ member)
    values
    distinctValues := values ▸ nodup_append_newItems distinctValues _
  }

end Definition

namespace Concerts

def field (name : String) (type : Reference) : Field :=
  ⟨name, none, .bare type, [], none, none, none⟩

def object (id : String) (fields : List Field) (interfaces : List Reference) : Definition :=
  .object
    {
      header := ⟨⟨id⟩, some "Concert", none, .generic id []⟩
      fields
      interfaces
      implemented := []
      isOfType := none
      isQueryType := false
    }

def concert : Definition :=
  object "Concert" [field "hall" (.schema ⟨"Text"⟩), field "date" (.schema ⟨"Text"⟩)]
    [.runtime (.generic "Event" []) .any]

/-- Repeats two fields and an interface that the concert has in another position. -/
def booking : Definition :=
  object "Booking"
    [field "price" (.schema ⟨"Text"⟩), field "hall" (.schema ⟨"Text"⟩),
      field "price" (.schema ⟨"Number"⟩), field "hall" (.schema ⟨"Hall"⟩)]
    [.runtime (.generic "Event" []) .output, .schema ⟨"Offer"⟩]

end Concerts

namespace Definition

theorem concerts_unite
    : let merged := Concerts.concert.merge Concerts.booking
      Alike Concerts.concert Concerts.booking
      ∧ Concerts.concert.fieldNames.Nodup
      ∧ Concerts.concert.values.Nodup
      ∧ Unites Concerts.concert Concerts.booking merged
      ∧ merged.fieldNames = ["hall", "date", "price"]
      ∧ merged.fields.map (fun field => field.type.reference)
        = [.schema ⟨"Hall"⟩, .schema ⟨"Text"⟩, .schema ⟨"Number"⟩]
      ∧ merged.related = [.runtime (.generic "Event" []) .any, .schema ⟨"Offer"⟩] := by
  intro merged
  have alike : Alike Concerts.concert Concerts.booking := .objects _ _
  have fields : Concerts.concert.fieldNames.Nodup := by decide
  exact ⟨alike, fields, .nil, unites_merge alike fields .nil, rfl, rfl, rfl⟩

end Definition
end SchemaGraph
