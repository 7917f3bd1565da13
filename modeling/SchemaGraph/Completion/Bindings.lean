import SchemaGraph.Error.Problem
import SchemaGraph.Inspector
import SchemaGraph.Naming
import SchemaGraph.Registry.Basic

/-! Collecting field bindings and compiling them.
Bindings come from what was discovered about the types, where the first one for a field wins, and
from providers, which override them. Compilation turns every bound member into a resolver.
-/

namespace SchemaGraph

/-- A host type whose members resolve fields of other types, its targets. -/
structure Provider where
  runtime : RuntimeType
  targets : List Target

/-- Adds the discovered bindings of all types, in the order of registration. -/
def Registry.collectBindings (registry : Registry) (bindings : Bindings) : Bindings :=
  (registry.records.flatMap fun record => record.discovered.bindings).foldl
    (fun sofar entry => Entries.insertNew sofar entry.1 entry.2) bindings

namespace Provider

/-- The slot of a target. Host types are looked up where fields return them. -/
def locateTarget (registry : Registry) (target : Target) : Option Slot :=
  match target with
  | .byName name => registry.findByName name
  | .runtime type => registry.findRuntime type .output none
  | .schema id => registry.find (Reference.schema id)

/-- Name and host type of a target that is an object. -/
def objectTarget? (registry : Registry) (target : Target) : Option (String × RuntimeType) :=
  ((locateTarget registry target).bind registry.get?).bind fun record =>
    if record.kind = .object then record.name.map fun name => (name, record.runtime) else none

/-- A member that takes no parent is relevant, and else one whose first parent parameter accepts the
target. -/
def isRelevant (inspector : Inspector) (target : RuntimeType) (member : Member) : Bool :=
  match member.parentParameters.head? with
  | some parent => inspector.accepts parent.type target
  | none => true

/-- The bindings of the relevant members to one target. -/
def targetBindings (provider : Provider) (registry : Registry) (inspector : Inspector)
    (naming : Naming) (target : Target) : List (FieldKey × Binding) :=
  match objectTarget? registry target with
  | none => []
  | some (typeName, type) =>
      ((inspector.members provider.runtime).filter (isRelevant inspector type)).map fun member =>
        let field : FieldKey := ⟨typeName, naming.memberName member.name⟩
        (field, ⟨some provider.runtime, type, .member ⟨field, member⟩⟩)

/-- The bindings of all providers, by provider, target and member. -/
def allBindings (providers : List Provider) (registry : Registry) (inspector : Inspector)
    (naming : Naming) : List (FieldKey × Binding) :=
  providers.flatMap fun provider =>
    provider.targets.flatMap (provider.targetBindings registry inspector naming)

/-- Stores the bindings over those of the same fields; also counts them. -/
def bindAll (providers : List Provider) (registry : Registry) (inspector : Inspector)
    (naming : Naming) (bindings : Bindings) : Bindings × Nat :=
  let additions := allBindings providers registry inspector naming
  (additions.foldl (fun sofar entry => Entries.insert sofar entry.1 entry.2) bindings,
    additions.length)

end Provider

namespace Binding

/-- The member must be declared where the binding says it is. -/
def originFault? (inspector : Inspector) (binding : Binding) (member : Member)
    : Option BindingFault :=
  match binding.provider, binding.isOwn with
  | some provider, false =>
      if member.declaringType = provider then none
      else some (.notDeclaredOnProvider member.name provider)
  | _, _ =>
      if inspector.accepts member.declaringType binding.source then none
      else some (.notOnSource member.name member.declaringType binding.source)

/-- There is at most one parent parameter, and it takes the parent. -/
def parentFault? (inspector : Inspector) (binding : Binding) (member : Member)
    : Option BindingFault :=
  match member.parentParameters with
  | [] => none
  | [parent] =>
      if inspector.accepts parent.type binding.source then none
      else some (.parentRejectsSource parent.name member.name binding.source)
  | _ :: _ :: _ => some (.severalParents member.name)

/-- What runs for the member: its invoker, or a read of the property. -/
def memberResolver (member : Member) : Except BindingFault Resolver :=
  match member.invoker, member.isProperty with
  | some invoker, _ => .ok invoker
  | none, true => .ok (parentProperty member.name)
  | none, false => .error (.noInvoker member.name)

def compileMember (inspector : Inspector) (binding : Binding) (member : Member)
    : Except BindingFault Resolver :=
  match originFault? inspector binding member with
  | some fault => .error fault
  | none =>
      match parentFault? inspector binding member with
      | some fault => .error fault
      | none => memberResolver member

/-- The resolver of a member binding; a compiled binding has none to come. -/
def compile? (inspector : Inspector) (binding : Binding) : Option (Except BindingFault Resolver) :=
  match binding.form with
  | .compiled _ => none
  | .member bound => some (compileMember inspector binding bound.member)

/-- The binding after compilation; one that is refused stays as it is. -/
def compiled (inspector : Inspector) (binding : Binding) : Binding :=
  match binding.compile? inspector with
  | some (.ok resolver) => { binding with form := .compiled resolver }
  | _ => binding

def fault? (inspector : Inspector) (binding : Binding) : Option BindingFault :=
  match binding.compile? inspector with
  | some (.error fault) => some fault
  | _ => none

/-- Whether compilation changes the binding. -/
def compiles (inspector : Inspector) (binding : Binding) : Bool :=
  match binding.compile? inspector with
  | some (.ok _) => true
  | _ => false

/-- Compiles every binding: the bindings afterwards, the problems in their order, and the number of
bindings that were compiled. -/
def compileAll (inspector : Inspector) (bindings : Bindings)
    : Bindings × List Problem × Nat :=
  (bindings.map fun entry => (entry.1, entry.2.compiled inspector),
    bindings.filterMap fun entry =>
      (entry.2.fault? inspector).map fun fault => Problem.uncompilable entry.1 fault,
    bindings.countP fun entry => entry.2.compiles inspector)

end Binding
end SchemaGraph
