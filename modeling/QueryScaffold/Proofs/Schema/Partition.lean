import Mathlib.Data.List.Pairwise
import QueryScaffold.Proofs.Schema.Matching

/-!
# Every entity in one list

Entities, shapes and names of a schema may be repeated at will. A matching is therefore looked at
occurrence by occurrence, and the occurrences of an entity are told apart by their places in the
schema.

* `mergedByPlace`: two lists of items with places, put together in the order of the places;
* `mergedByPlace_filter_not`: what a condition takes apart is put together again;
* `Snapshot.exposing`: the accessors of a shape, in order;
* `Matching.Divides`: what a matching has to do with the entities of a schema, without saying how it
  comes about;
* `Snapshot.divides_matching`: **every occurrence is either paired, with the first accessor of its
  shape, or left over**, and the ambiguous ones are the pairs that had a choice.
-/

namespace QueryScaffold

/-! ## Places -/

section Places

variable {α : Type}

/-- Two lists of items with their places, put together in the order of the places. -/
def mergedByPlace (items others : List (α × Nat)) : List (α × Nat) :=
  items.merge others fun item other => item.2 ≤ other.2

theorem pairwise_zipIdx (items : List α) :
    items.zipIdx.Pairwise fun item other => item.2 ≤ other.2 := by
  have hplaces : (items.zipIdx.map Prod.snd).Pairwise (· ≤ ·) := by
    rw [List.zipIdx_map_snd]
    exact List.pairwise_le_range'
  exact List.pairwise_map.1 hplaces

/-- **What a condition takes apart is put together again** by the places. Both sides hold the same
items in the order of their places, and no two items have one place. -/
theorem mergedByPlace_filter_not (items : List α) (p : α × Nat → Bool) :
    mergedByPlace (items.zipIdx.filter p) (items.zipIdx.filter fun item => !p item) =
      items.zipIdx := by
  have hordered := pairwise_zipIdx items
  have hmerged : (mergedByPlace (items.zipIdx.filter p)
      (items.zipIdx.filter fun item => !p item)).Pairwise fun item other => item.2 ≤ other.2 := by
    have hmerge := @List.pairwise_merge _ (fun (item other : α × Nat) => decide (item.2 ≤ other.2))
      (fun _ _ _ hle hle' => by simp only [decide_eq_true_eq] at *; omega)
      (fun _ _ => by simp only [Bool.or_eq_true, decide_eq_true_eq]; omega)
      (items.zipIdx.filter p) (items.zipIdx.filter fun item => !p item)
    simp only [decide_eq_true_eq] at hmerge
    exact hmerge (hordered.filter _) (hordered.filter _)
  have hperm : (mergedByPlace (items.zipIdx.filter p)
      (items.zipIdx.filter fun item => !p item)).Perm items.zipIdx :=
    (List.merge_perm_append _).trans (List.filter_append_perm p _)
  refine List.Perm.eq_of_pairwise ?_ hmerged hordered hperm
  rintro ⟨item, place⟩ ⟨other, place'⟩ hitem hother hle hge
  obtain rfl := Nat.le_antisymm hle hge
  rw [hperm.mem_iff, List.mk_mem_zipIdx_iff_getElem?] at hitem
  rw [List.mk_mem_zipIdx_iff_getElem?, hitem, Option.some.injEq] at hother
  rw [hother]

end Places

variable {σ : Type} [DecidableEq σ]

/-- The accessors of a shape, in order. -/
def Snapshot.exposing (snapshot : Snapshot σ) (shape : σ) : List (Accessor σ) :=
  snapshot.accessors.filter (·.elementShape = shape)

/-- The matching deals with each entity of the schema, occurrence by occurrence. -/
structure Matching.Divides (matching : Matching σ) (snapshot : Snapshot σ) : Prop where
  /-- The occurrences of the two lists have places in the schema, by which they are put together to
  the entities of the schema: each place comes up once, in one of the lists, and in its order. -/
  merged : ∃ (paired : List (Match σ × Nat)) (left : List (Entity σ × Nat)),
    paired.map Prod.fst = matching.pairs ∧ left.map Prod.fst = matching.unmatched ∧
      mergedByPlace (paired.map (Prod.map Match.entity id)) left = snapshot.entities.zipIdx
  /-- What is left over has the shape of no accessor. -/
  unmatched : ∀ entity ∈ matching.unmatched, ∀ accessor ∈ snapshot.accessors,
    accessor.elementShape ≠ entity.shape
  /-- What is paired has the shape of an accessor, and is paired with the first such one. -/
  pairs : ∀ pair ∈ matching.pairs, ∃ before accessor after,
    snapshot.accessors = before ++ accessor :: after ∧
      accessor.elementShape = pair.entity.shape ∧ accessor.name = pair.accessor ∧
      ∀ earlier ∈ before, earlier.elementShape ≠ pair.entity.shape
  /-- The ambiguous entities are those of the pairs whose shape two or more accessors have, in the
  same order, and the accessor that was taken stands at the head of what could have been taken. -/
  ambiguous : matching.ambiguous.map (fun exposure => (exposure.entity, exposure.candidates.head?)) =
    (matching.pairs.filter fun pair => 2 ≤ (snapshot.exposing pair.entity.shape).length).map
      fun pair => (pair.entity, some pair.accessor)
  /-- All accessors of the shape could have been taken. -/
  candidates : ∀ exposure ∈ matching.ambiguous,
    exposure.candidates = (snapshot.exposing exposure.entity.shape).map Accessor.name

namespace Snapshot

/-- The first accessor of a shape, as a place in the list of accessors. -/
theorem firstAccessor?_eq_some_iff {snapshot : Snapshot σ} {shape : σ} {accessor : Accessor σ} :
    snapshot.firstAccessor? shape = some accessor ↔
      accessor.elementShape = shape ∧ ∃ before after,
        snapshot.accessors = before ++ accessor :: after ∧
          ∀ earlier ∈ before, earlier.elementShape ≠ shape := by
  simp [firstAccessor?, List.find?_eq_some_iff_append]

/-- The pairs with the places of their entities. -/
theorem exists_paired (snapshot : Snapshot σ) :
    ∃ paired : List (Match σ × Nat), paired.map Prod.fst = snapshot.matching.pairs ∧
      paired.map (Prod.map Match.entity id) = snapshot.entities.zipIdx.filter
        fun item => (snapshot.firstAccessor? item.1.shape).isSome := by
  refine ⟨snapshot.entities.zipIdx.filterMap fun item =>
    (snapshot.firstAccessor? item.1.shape).map fun accessor => (⟨item.1, accessor.name⟩, item.2),
    ?_, ?_⟩
  · rw [pairs_matching, List.map_filterMap]
    conv_rhs => rw [← List.zipIdx_map_fst 0 snapshot.entities, List.filterMap_map]
    refine List.filterMap_congr fun item _ => ?_
    rw [Option.map_map]
    rfl
  · rw [List.map_filterMap, ← List.filterMap_eq_filter]
    refine List.filterMap_congr fun item _ => ?_
    rw [Option.map_map]
    cases hfirst : snapshot.firstAccessor? item.1.shape <;> simp [Option.guard, hfirst]

/-- What is left over, with its places. -/
theorem map_fst_left (snapshot : Snapshot σ) :
    (snapshot.entities.zipIdx.filter
      fun item => !(snapshot.firstAccessor? item.1.shape).isSome).map Prod.fst =
        snapshot.matching.unmatched := by
  rw [unmatched_matching]
  conv_rhs => rw [← List.zipIdx_map_fst 0 snapshot.entities, List.filter_map]
  refine congrArg (List.map Prod.fst) (List.filter_congr fun item _ => ?_)
  exact Option.not_isSome _

/-- A shape has two or more candidates exactly if two or more accessors have it. -/
theorem isAmbiguous_mk (snapshot : Snapshot σ) (entity : Entity σ) :
    (Exposure.mk entity (candidates snapshot.accessors entity.shape)).isAmbiguous =
      decide (2 ≤ (snapshot.exposing entity.shape).length) := by
  show decide (1 < ((snapshot.exposing entity.shape).map Accessor.name).length) = _
  rw [List.length_map]
  rfl

/-- A shape that no accessor has gives no choice. -/
theorem exposing_eq_nil {snapshot : Snapshot σ} {shape : σ}
    (h : snapshot.firstAccessor? shape = none) : snapshot.exposing shape = [] := by
  have hnone := List.find?_eq_none.1 h
  exact List.filter_eq_nil_iff.2 hnone

/-- The ambiguous entities are pairs that had a choice. -/
theorem map_ambiguous (snapshot : Snapshot σ) :
    snapshot.matching.ambiguous.map
        (fun exposure => (exposure.entity, exposure.candidates.head?)) =
      (snapshot.matching.pairs.filter
        fun pair => 2 ≤ (snapshot.exposing pair.entity.shape).length).map
          fun pair => (pair.entity, some pair.accessor) := by
  rw [pairs_matching]
  show ((snapshot.entities.map fun entity => Exposure.mk entity _).filter
    Exposure.isAmbiguous).map _ = _
  induction snapshot.entities with
  | nil => rfl
  | cons entity rest ih =>
    rw [List.map_cons, List.filter_cons, isAmbiguous_mk, List.filterMap_cons]
    cases hfirst : snapshot.firstAccessor? entity.shape with
    | none => simpa [exposing_eq_nil hfirst] using ih
    | some accessor =>
      by_cases hchoice : 2 ≤ (snapshot.exposing entity.shape).length
      · simpa [hchoice, head?_candidates, hfirst] using ih
      · simpa [hchoice] using ih

/-- **Every occurrence of an entity is either paired or left over.** -/
theorem divides_matching (snapshot : Snapshot σ) : snapshot.matching.Divides snapshot where
  merged := by
    obtain ⟨paired, hpairs, hplaces⟩ := exists_paired snapshot
    refine ⟨paired, _, hpairs, map_fst_left snapshot, ?_⟩
    rw [hplaces]
    exact mergedByPlace_filter_not _ _
  unmatched := by
    intro entity hentity
    simpa using List.find?_eq_none.1 (mem_unmatched_iff.1 hentity).2
  pairs := by
    intro pair hpair
    obtain ⟨-, accessor, hfirst, hname⟩ := mem_pairs_iff.1 hpair
    obtain ⟨hshape, before, after, hplace, hbefore⟩ := firstAccessor?_eq_some_iff.1 hfirst
    exact ⟨before, accessor, after, hplace, hshape, hname, hbefore⟩
  ambiguous := map_ambiguous snapshot
  candidates := by
    intro exposure hexposure
    obtain ⟨entity, -, rfl⟩ := List.mem_map.1 (List.mem_of_mem_filter hexposure)
    rfl

end Snapshot

end QueryScaffold
