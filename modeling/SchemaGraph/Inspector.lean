import SchemaGraph.Member

/-! What is known about host types: which can stand for which, and their members. -/

namespace SchemaGraph

structure Inspector where
  /-- Whether a value of the second type can be used where the first is expected. -/
  accepts : RuntimeType → RuntimeType → Bool
  /-- The members of a type in the order of their declaration. -/
  members : RuntimeType → List Member

/-- Declared supertypes and members. -/
structure RuntimeTable where
  /-- Pairs of a type and one of its supertypes. -/
  supertypes : List (RuntimeType × RuntimeType)
  members : List (RuntimeType × Member)

namespace RuntimeTable

def empty : RuntimeTable := ⟨[], []⟩

instance : Inhabited RuntimeTable := ⟨empty⟩

/-- Declares a supertype of the type. -/
def implement (table : RuntimeTable) (type supertype : RuntimeType) : RuntimeTable :=
  if (type, supertype) ∈ table.supertypes then table
  else { table with supertypes := table.supertypes ++ [(type, supertype)] }

def addMember (table : RuntimeTable) (type : RuntimeType) (member : Member) : RuntimeTable :=
  { table with members := table.members ++ [(type, member)] }

/-- The table of the given pairs, in their order. -/
def ofPairs (supertypes : List (RuntimeType × RuntimeType))
    (members : List (RuntimeType × Member)) : RuntimeTable :=
  members.foldl (fun sofar pair => sofar.addMember pair.1 pair.2)
    (supertypes.foldl (fun sofar pair => sofar.implement pair.1 pair.2) empty)

def supertypesOf (table : RuntimeTable) (type : RuntimeType) : List RuntimeType :=
  (table.supertypes.filter fun pair => pair.1 = type).map Prod.snd

def membersOf (table : RuntimeTable) (type : RuntimeType) : List Member :=
  (table.members.filter fun pair => pair.1 = type).map Prod.snd

/-- The declared pairs of types that have not been visited. -/
def unvisited (table : RuntimeTable) (visited : List RuntimeType)
    : List (RuntimeType × RuntimeType) :=
  table.supertypes.filter fun pair => pair.1 ∉ visited

/-- A visit takes away one pair for each supertype of the type. -/
theorem length_unvisited (table : RuntimeTable) {visited : List RuntimeType}
    {current : RuntimeType} (new : current ∉ visited)
    : (table.unvisited visited).length
      = (table.supertypesOf current).length + (table.unvisited (current :: visited)).length := by
  have own
      : (table.unvisited visited).countP (fun pair => pair.1 = current)
        = (table.supertypesOf current).length := by
    rw [unvisited, List.countP_filter, supertypesOf, List.length_map,
      ← List.countP_eq_length_filter]
    refine List.countP_congr fun pair _ => ?_
    simp +contextual [new]
  have others
      : (table.unvisited visited).countP (fun pair => ¬decide (pair.1 = current) = true)
        = (table.unvisited (current :: visited)).length := by
    rw [unvisited, List.countP_filter, unvisited, ← List.countP_eq_length_filter]
    refine List.countP_congr fun pair _ => ?_
    simp
  rw [List.length_eq_countP_add_countP fun pair => pair.1 = current, own, others]

/-- Looks for the target among the supertypes of the types on the stack, and of those that these
lead to. The supertypes of a visited type go on top of the stack, the last one uppermost, and the
search ends as soon as one of them is the target.
-/
def climbsTo (table : RuntimeTable) (target : RuntimeType) (visited stack : List RuntimeType)
    : Bool :=
  match stack with
  | [] => false
  | current :: rest =>
      if current ∈ visited then table.climbsTo target visited rest
      else if target ∈ table.supertypesOf current then true
      else
        table.climbsTo target (current :: visited) ((table.supertypesOf current).reverse ++ rest)
termination_by stack.length + (table.unvisited visited).length
decreasing_by
  · simp
  · rename_i new _
    simp only [List.length_append, List.length_reverse, List.length_cons,
      table.length_unvisited new]
    omega

/-- Every type is accepted where itself, one of its supertypes or the general `object` type is
expected. -/
def accepts (table : RuntimeTable) (target source : RuntimeType) : Bool :=
  target = source || target.isObject || table.climbsTo target [] [source]

def inspector (table : RuntimeTable) : Inspector :=
  ⟨table.accepts, table.membersOf⟩

end RuntimeTable
end SchemaGraph
