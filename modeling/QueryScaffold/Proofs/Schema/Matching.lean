import Mathlib.Data.List.Basic
import QueryScaffold.Schema.Matching

/-!
# Matching read off the schema

The matching sorts entities by their lists of candidates. Here its pairs are said without such
lists: an entity is paired exactly if some accessor has its shape, and then with the first one.

* `Snapshot.firstAccessor?`: the first accessor of a shape;
* `Snapshot.pairs_matching`: **the pairs are the entities that have one, in their order**;
* `Snapshot.unmatched_matching`, `Snapshot.map_entity_pairs`: the entities that are left over, and
  the others;
* `Snapshot.length_unmatched_add_length_pairs`: **every entity is one of these**.
-/

namespace QueryScaffold

namespace Snapshot

variable {σ : Type} [DecidableEq σ]

/-- The first accessor that gives a collection of a shape. -/
def firstAccessor? (snapshot : Snapshot σ) (shape : σ) : Option (Accessor σ) :=
  snapshot.accessors.find? (·.elementShape = shape)

/-- The first candidate is the name of the first accessor. -/
theorem head?_candidates (snapshot : Snapshot σ) (shape : σ) :
    (candidates snapshot.accessors shape).head? =
      (snapshot.firstAccessor? shape).map Accessor.name := by
  rw [candidates, List.head?_map, List.head?_filter]
  rfl

/-- **The pairs are the entities with an accessor of their shape**, in the order of the entities,
each with the first such accessor. -/
theorem pairs_matching (snapshot : Snapshot σ) :
    snapshot.matching.pairs =
      snapshot.entities.filterMap fun entity =>
        (snapshot.firstAccessor? entity.shape).map fun accessor => ⟨entity, accessor.name⟩ := by
  show (snapshot.entities.map _).filterMap Exposure.match? = _
  rw [List.filterMap_map]
  refine List.filterMap_congr fun entity _ => ?_
  show ((candidates snapshot.accessors entity.shape).head?).map (Match.mk entity) = _
  rw [head?_candidates, Option.map_map]
  rfl

/-- No accessor has a shape exactly if the shape has no candidates. -/
theorem isEmpty_candidates (snapshot : Snapshot σ) (shape : σ) :
    (candidates snapshot.accessors shape).isEmpty = (snapshot.firstAccessor? shape).isNone := by
  have hhead := congrArg Option.isNone (head?_candidates snapshot shape)
  rw [Option.isNone_map] at hhead
  rw [← hhead]
  cases candidates snapshot.accessors shape <;> rfl

/-- The entities that are left over are those without an accessor of their shape. -/
theorem unmatched_matching (snapshot : Snapshot σ) :
    snapshot.matching.unmatched =
      snapshot.entities.filter fun entity => (snapshot.firstAccessor? entity.shape).isNone := by
  show ((snapshot.entities.map fun entity => Exposure.mk entity _).filter
    Exposure.isUnmatched).map Exposure.entity = _
  rw [List.filter_map, List.map_map]
  show (snapshot.entities.filter fun entity =>
    (candidates snapshot.accessors entity.shape).isEmpty).map id = _
  rw [List.map_id]
  exact List.filter_congr fun entity _ => isEmpty_candidates snapshot entity.shape

theorem mem_unmatched_iff {snapshot : Snapshot σ} {entity : Entity σ} :
    entity ∈ snapshot.matching.unmatched ↔
      entity ∈ snapshot.entities ∧ snapshot.firstAccessor? entity.shape = none := by
  rw [unmatched_matching, List.mem_filter, Option.isNone_iff_eq_none]

/-- The entities of the pairs are the others, in their order. -/
theorem map_entity_pairs (snapshot : Snapshot σ) :
    snapshot.matching.pairs.map Match.entity =
      snapshot.entities.filter fun entity => (snapshot.firstAccessor? entity.shape).isSome := by
  rw [pairs_matching, List.map_filterMap]
  induction snapshot.entities with
  | nil => rfl
  | cons entity rest ih =>
    rw [List.filterMap_cons, List.filter_cons, ih]
    cases snapshot.firstAccessor? entity.shape <;> rfl

/-- **Every entity is either paired or left over.** -/
theorem length_unmatched_add_length_pairs (snapshot : Snapshot σ) :
    snapshot.matching.unmatched.length + snapshot.matching.pairs.length =
      snapshot.entities.length := by
  have hpairs := congrArg List.length (map_entity_pairs snapshot)
  rw [List.length_map] at hpairs
  rw [hpairs, unmatched_matching]
  induction snapshot.entities with
  | nil => rfl
  | cons entity rest ih => cases h : snapshot.firstAccessor? entity.shape <;> simp [h] <;> omega

theorem mem_pairs_iff {snapshot : Snapshot σ} {pair : Match σ} :
    pair ∈ snapshot.matching.pairs ↔ pair.entity ∈ snapshot.entities ∧
      ∃ accessor, snapshot.firstAccessor? pair.entity.shape = some accessor ∧
        accessor.name = pair.accessor := by
  rw [pairs_matching, List.mem_filterMap]
  constructor
  · rintro ⟨entity, hentity, hpair⟩
    obtain ⟨accessor, hfirst, rfl⟩ := Option.map_eq_some_iff.1 hpair
    exact ⟨hentity, accessor, hfirst, rfl⟩
  · rintro ⟨hentity, accessor, hfirst, hname⟩
    refine ⟨pair.entity, hentity, Option.map_eq_some_iff.2 ⟨accessor, hfirst, ?_⟩⟩
    rw [hname]

end Snapshot

end QueryScaffold
