import QueryScaffold.Container.Scope
import QueryScaffold.Schema.Basic

/-!
# Reading the schema of a container

The entities are the classes of the container's registry. The accessors are the attributes that its
class, or a class it inherits from, annotates as a collection of one class, if the name does not
start with an underscore. An attribute that is annotated again keeps its place and takes the new
annotation.

* `Scope.entities`, `Scope.accessors`: the two halves;
* `Scope.snapshot`: the schema.

Annotations are evaluated with the module that is loaded under the namespace of their class when the
schema is read. Reading runs code and may change what code shares.
-/

namespace QueryScaffold

namespace Value

/-- The entity that an item of a registry is. -/
def toEntity : Value → Except SchemaFault (Entity ClassRef)
  | .ofClass ref => .ok ⟨ref.name, ref⟩
  | value => .error (.notClass value.display)

end Value

/-- The name is not meant for use from outside. -/
def isPrivateName (name : Text) : Bool :=
  ("_" : Text).isPrefixOf name

/-- The accessor that an attribute is, if it is one. -/
def Accessor.ofNamedType? (named : Text × Value) : Option (Accessor ClassRef) :=
  if isPrivateName named.1 then none
  else named.2.element?.map (Accessor.mk named.1)

namespace Transition

/-- The operation with a step behind it that only depends on what it gives. -/
def andCheck {α β : Type} (transition : Transition α) (check : α → Except Failure β) :
    Transition β :=
  { transition with result := transition.result.bind check }

/-- The operation with another one behind it, unless it fails. -/
def andThen {α β : Type} (transition : Transition α) (next : α → Workspace → Transition β) :
    Transition β :=
  match transition.result with
  | .error failure => { transition with result := .error failure }
  | .ok value =>
    let later := next value transition.workspace
    { later with
      events := transition.events ++ later.events
      records := transition.records ++ later.records }

end Transition

namespace Scope

/-- The next items of an iteration, up to a number of them and up to one that is no class. -/
def nextClasses (number : Nat) : Nat → List Value → Eval (List Value)
  | 0, _ => throw .endless
  | limit + 1, done => do
    match ← interpreter.next number with
    | some item =>
      if item.class?.isSome then nextClasses number limit (item :: done)
      else return (item :: done).reverse
    | none => return done.reverse

/-- The items of a registry. Behind one that is no class no other is asked for. -/
def itemsOfRegistry (registry : Value) : Eval (List Value) := do
  match registry.items? with
  | some items => return items
  | none => nextClasses (← Interpreter.iterationOf registry) Interpreter.maxItems []

/-- The items of the registry of the container, if it has one. -/
def registryItems (scope : Scope) : Eval (Option (List Value)) := do
  let registry ← Eval.partOr scope.container "entity_types" (pure .null)
  if registry.isNull then return none else return some (← itemsOfRegistry registry)

/-- The entities that the items of a registry are. -/
def entitiesOfItems (scope : Scope) : Option (List Value) → Except Failure (List (Entity ClassRef))
  | none => .error (.schema (.noRegistry scope.containerClass.name))
  | some items => (items.mapM Value.toEntity).mapError .schema

/-- The entities of the container. -/
def entities (scope : Scope) (workspace : Workspace) : Transition (List (Entity ClassRef)) :=
  (Transition.ofEffect .registryFault (workspace.run scope.home scope.registryItems)).andCheck
    scope.entitiesOfItems

/-- What the class of the container says, and each class that it inherits from, the farthest
first. -/
def lineage (scope : Scope) (workspace : Workspace) : List ClassBody :=
  match (workspace.memory.ofLoad scope.number).class? scope.containerClass with
  | some c => c.lineage.reverse
  | none => []

/-- The failure that a fault in an annotation is. -/
def annotationFailure (scope : Scope) (fault : CodeFault) : Failure :=
  if fault.isNameFault then
    .schema (.unresolved scope.containerClass.name fault.toRaised.text)
  else .annotationFault fault

/-- Attributes with their types without remarks. -/
def withoutRemarks (types : List (Text × Value)) : Eval (List (Text × Value)) :=
  (lastValues types).mapM fun (named : Text × Value) => do
    return (named.1, ← Eval.ofExcept ((← get).strip named.2))

/-- The attributes of the container with the types that they are annotated with. -/
def attributes (scope : Scope) (workspace : Workspace) : Transition (List (Text × Value)) :=
  let types := Workspace.resolveAll scope.home workspace (scope.lineage workspace)
  (Transition.ofEffect scope.annotationFailure types).andThen fun types workspace =>
    .ofEffect scope.annotationFailure (workspace.run scope.home (withoutRemarks types))

/-- The accessors of the container. -/
def accessors (scope : Scope) (workspace : Workspace) : Transition (List (Accessor ClassRef)) :=
  (scope.attributes workspace).andCheck fun attributes =>
    .ok (attributes.filterMap Accessor.ofNamedType?)

/-- The schema of the container. -/
def snapshot (scope : Scope) (workspace : Workspace) : Transition (Snapshot ClassRef) :=
  (scope.entities workspace).andThen fun entities workspace =>
    (scope.accessors workspace).andCheck fun accessors =>
      (Snapshot.distinct entities accessors).mapError .schema

end Scope

end QueryScaffold
