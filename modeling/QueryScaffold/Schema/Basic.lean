import QueryScaffold.Schema.Fault

/-!
# Schemas

A schema has entities and accessors. Each entity has a shape, and each accessor gives a collection
of one shape; a shape can be anything that is comparable, such as a type name or a class.

* `Entity`, `Accessor`, `Snapshot`: a schema as it was read;
* `Snapshot.map`: the same schema with other shapes;
* `Snapshot.distinct`: a schema, unless two entities have one shape.
-/

namespace QueryScaffold

/-- An entity of a schema. -/
structure Entity (σ : Type) where
  name : Text
  shape : σ
deriving DecidableEq

/-- An accessor of a schema, which gives a collection of one shape. -/
structure Accessor (σ : Type) where
  name : Text
  elementShape : σ
deriving DecidableEq

/-- A schema as it was read. -/
structure Snapshot (σ : Type) where
  entities : List (Entity σ)
  accessors : List (Accessor σ)
deriving DecidableEq

namespace Entity

/-- The entity with its shape changed. -/
def map {σ τ : Type} (f : σ → τ) (entity : Entity σ) : Entity τ :=
  ⟨entity.name, f entity.shape⟩

end Entity

namespace Accessor

/-- The accessor with its shape changed. -/
def map {σ τ : Type} (f : σ → τ) (accessor : Accessor σ) : Accessor τ :=
  ⟨accessor.name, f accessor.elementShape⟩

end Accessor

namespace Snapshot

/-- The schema with its shapes changed. -/
def map {σ τ : Type} (f : σ → τ) (snapshot : Snapshot σ) : Snapshot τ :=
  ⟨snapshot.entities.map (Entity.map f), snapshot.accessors.map (Accessor.map f)⟩

/-- The first of the entities whose shape another one has: the earlier one, which may be among those
that were seen before, and then the later one. -/
def repeatedAfter {σ : Type} [DecidableEq σ] (seen : List (Entity σ)) :
    List (Entity σ) → Option (Entity σ × Entity σ)
  | [] => none
  | entity :: rest =>
    match seen.find? (·.shape = entity.shape) with
    | some earlier => some (earlier, entity)
    | none => repeatedAfter (seen ++ [entity]) rest

/-- The first entity whose shape an earlier one has, after that earlier one. -/
def repeated? {σ : Type} [DecidableEq σ] (entities : List (Entity σ)) :
    Option (Entity σ × Entity σ) :=
  repeatedAfter [] entities

/-- The schema with these entities and accessors; no two entities may have one shape. -/
def distinct {σ : Type} [DecidableEq σ] (entities : List (Entity σ))
    (accessors : List (Accessor σ)) : Except SchemaFault (Snapshot σ) :=
  match repeated? entities with
  | some (earlier, later) => .error (.repeatedShape earlier.name later.name)
  | none => .ok ⟨entities, accessors⟩

end Snapshot

end QueryScaffold
