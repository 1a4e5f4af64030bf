import QueryScaffold.Schema.Basic

/-!
# Matching entities with accessors

An entity is exposed by the accessors whose element shape is its shape; names play no part. Of
several such accessors the first one is taken.

* `Snapshot.candidates`: the accessors of a shape;
* `Exposure`: an entity with what exposes it, `Snapshot.exposures` for all entities in order;
* `Matching`: the entities that are exposed and those that are not, `Snapshot.matching`.
-/

namespace QueryScaffold

/-- An entity with the accessor that is taken for it. -/
structure Match (σ : Type) where
  entity : Entity σ
  accessor : Text
deriving DecidableEq

/-- An entity with all the accessors that expose it. -/
structure Exposure (σ : Type) where
  entity : Entity σ
  candidates : List Text
deriving DecidableEq

/-- The entities of a schema sorted out. Each list is in the order of the entities. -/
structure Matching (σ : Type) where
  pairs : List (Match σ)
  unmatched : List (Entity σ)
  /-- The entities that several accessors expose. -/
  ambiguous : List (Exposure σ)
deriving DecidableEq

namespace Exposure

/-- The accessor that is taken for the entity. -/
def match? {σ : Type} (exposure : Exposure σ) : Option (Match σ) :=
  exposure.candidates.head?.map (Match.mk exposure.entity)

/-- No accessor exposes the entity. -/
def isUnmatched {σ : Type} (exposure : Exposure σ) : Bool :=
  exposure.candidates.isEmpty

/-- Several accessors expose the entity. -/
def isAmbiguous {σ : Type} (exposure : Exposure σ) : Bool :=
  1 < exposure.candidates.length

/-- The exposure with its shape changed. -/
def map {σ τ : Type} (f : σ → τ) (exposure : Exposure σ) : Exposure τ :=
  ⟨exposure.entity.map f, exposure.candidates⟩

end Exposure

namespace Match

/-- The match with its shape changed. -/
def map {σ τ : Type} (f : σ → τ) (pair : Match σ) : Match τ :=
  ⟨pair.entity.map f, pair.accessor⟩

end Match

namespace Matching

/-- What becomes of entities with what exposes them. -/
def ofExposures {σ : Type} (exposures : List (Exposure σ)) : Matching σ :=
  { pairs := exposures.filterMap Exposure.match?
    unmatched := (exposures.filter Exposure.isUnmatched).map Exposure.entity
    ambiguous := exposures.filter Exposure.isAmbiguous }

/-- The matching with its shapes changed. -/
def map {σ τ : Type} (f : σ → τ) (matching : Matching σ) : Matching τ :=
  { pairs := matching.pairs.map (Match.map f)
    unmatched := matching.unmatched.map (Entity.map f)
    ambiguous := matching.ambiguous.map (Exposure.map f) }

end Matching

namespace Snapshot

/-- The names of the accessors of a shape, in order. -/
def candidates {σ : Type} [DecidableEq σ] (accessors : List (Accessor σ)) (shape : σ) : List Text :=
  (accessors.filter (·.elementShape = shape)).map Accessor.name

/-- The entities of a schema with what exposes them. -/
def exposures {σ : Type} [DecidableEq σ] (snapshot : Snapshot σ) : List (Exposure σ) :=
  snapshot.entities.map fun entity =>
    ⟨entity, candidates snapshot.accessors entity.shape⟩

/-- What becomes of the entities of a schema. -/
def matching {σ : Type} [DecidableEq σ] (snapshot : Snapshot σ) : Matching σ :=
  .ofExposures snapshot.exposures

end Snapshot

end QueryScaffold
