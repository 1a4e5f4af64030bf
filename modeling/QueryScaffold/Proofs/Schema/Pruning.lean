import QueryScaffold.Proofs.Schema.Matching

/-!
# Schemas with nothing to spare

An entity takes the first accessor of its shape. What no match needs can be left out of a schema:
the entities that no accessor exposes, and the accessors that no entity takes. An accessor is told
from another one by its place, since two accessors may have the same name and the same shape.

* `Snapshot.takenAfter`: the accessors that entities take;
* `Snapshot.pruned`: the schema without the rest;
* `Snapshot.firstAccessor?_pruned`: an entity finds the same accessor, and no other one;
* `Snapshot.matching_pruned`: **the pruned schema has the same pairs**, and neither an entity that is
  left over nor one that several accessors expose.
-/

namespace QueryScaffold

namespace Snapshot

variable {σ : Type} [DecidableEq σ]

/-- The accessors that entities of these shapes take, behind accessors of shapes that were seen: the
first one of each shape. -/
def takenAfter (shapes seen : List σ) : List (Accessor σ) → List (Accessor σ)
  | [] => []
  | accessor :: rest =>
    let later := takenAfter shapes (seen ++ [accessor.elementShape]) rest
    if accessor.elementShape ∈ shapes ∧ accessor.elementShape ∉ seen then accessor :: later
    else later

/-- The schema without the entities that no accessor exposes and the accessors that no entity
takes. -/
def pruned (snapshot : Snapshot σ) : Snapshot σ where
  entities := snapshot.entities.filter fun entity => entity ∉ snapshot.matching.unmatched
  accessors := takenAfter (snapshot.entities.map Entity.shape) [] snapshot.accessors

/-- Of the accessors of a shape only the first is taken. The induction is on the accessors that are
still to be seen; once the shape was seen, no further accessor of it is taken. -/
theorem filter_takenAfter {shapes : List σ} {shape : σ} (h : shape ∈ shapes) (seen : List σ)
    (accessors : List (Accessor σ)) :
    (takenAfter shapes seen accessors).filter (·.elementShape = shape) =
      if shape ∈ seen then [] else (accessors.find? (·.elementShape = shape)).toList := by
  induction accessors generalizing seen with
  | nil => split <;> rfl
  | cons accessor rest ih =>
    have hlater := ih (seen ++ [accessor.elementShape])
    rw [takenAfter]
    by_cases hshape : accessor.elementShape = shape
    · rw [if_pos (by simp [hshape])] at hlater
      by_cases hseen : shape ∈ seen
      · rw [if_neg fun htaken => htaken.2 (hshape ▸ hseen), if_pos hseen]
        exact hlater
      · rw [if_pos ⟨hshape ▸ h, hshape ▸ hseen⟩, if_neg hseen,
          List.filter_cons_of_pos (by simpa using hshape), hlater,
          List.find?_cons_of_pos (by simpa using hshape)]
        rfl
    · have hmem : shape ∈ seen ++ [accessor.elementShape] ↔ shape ∈ seen := by
        simp [Ne.symm hshape]
      rw [List.find?_cons_of_neg (by simpa using hshape)]
      simp only [hmem] at hlater
      split
      · rw [List.filter_cons_of_neg (by simpa using hshape)]
        exact hlater
      · exact hlater

variable {snapshot : Snapshot σ}

theorem filter_accessors_pruned {entity : Entity σ} (h : entity ∈ snapshot.entities) :
    snapshot.pruned.accessors.filter (·.elementShape = entity.shape) =
      (snapshot.firstAccessor? entity.shape).toList :=
  filter_takenAfter (List.mem_map_of_mem h) [] snapshot.accessors

/-- An entity finds the same accessor as before. -/
theorem firstAccessor?_pruned {entity : Entity σ} (h : entity ∈ snapshot.entities) :
    snapshot.pruned.firstAccessor? entity.shape = snapshot.firstAccessor? entity.shape := by
  rw [firstAccessor?, ← List.head?_filter, filter_accessors_pruned h]
  cases snapshot.firstAccessor? entity.shape <;> rfl

theorem mem_entities_pruned_iff {entity : Entity σ} :
    entity ∈ snapshot.pruned.entities ↔
      entity ∈ snapshot.entities ∧ ∃ accessor,
        snapshot.firstAccessor? entity.shape = some accessor := by
  show entity ∈ snapshot.entities.filter _ ↔ _
  rw [List.mem_filter, decide_eq_true_eq, mem_unmatched_iff, not_and]
  refine and_congr_right fun hentity => ?_
  rw [← Option.ne_none_iff_exists']
  exact ⟨fun h => h hentity, fun h _ => h⟩

theorem pairs_pruned (snapshot : Snapshot σ) :
    snapshot.pruned.matching.pairs = snapshot.matching.pairs := by
  rw [pairs_matching, pairs_matching, pruned, List.filterMap_filter]
  refine List.filterMap_congr fun entity hentity => ?_
  have hfirst := firstAccessor?_pruned hentity
  rw [pruned] at hfirst
  rw [hfirst]
  split
  · rfl
  · next hout =>
    have hmem : entity ∈ snapshot.matching.unmatched := by simpa using hout
    rw [(mem_unmatched_iff.1 hmem).2]
    rfl

/-- **The pruned schema has the same pairs**, and nothing else. -/
theorem matching_pruned (snapshot : Snapshot σ) :
    snapshot.pruned.matching =
      { pairs := snapshot.matching.pairs, unmatched := [], ambiguous := [] } := by
  have hunmatched : snapshot.pruned.matching.unmatched = [] := by
    rw [unmatched_matching, List.filter_eq_nil_iff]
    intro entity hentity
    obtain ⟨hold, accessor, hfirst⟩ := mem_entities_pruned_iff.1 hentity
    rw [firstAccessor?_pruned hold, hfirst]
    simp
  have hambiguous : snapshot.pruned.matching.ambiguous = [] := by
    refine List.filter_eq_nil_iff.2 fun exposure hexposure => ?_
    obtain ⟨entity, hentity, rfl⟩ := List.mem_map.1 hexposure
    obtain ⟨hold, accessor, hfirst⟩ := mem_entities_pruned_iff.1 hentity
    have hcandidates : candidates snapshot.pruned.accessors entity.shape = [accessor.name] := by
      rw [candidates, filter_accessors_pruned hold, hfirst]
      rfl
    simp [Exposure.isAmbiguous, hcandidates]
  rw [← pairs_pruned snapshot, ← hunmatched, ← hambiguous]

/-- Of two accessors that cannot be told apart the first is taken. -/
example : (Snapshot.mk [⟨"Order", 1⟩, ⟨"Shift", 2⟩]
    [⟨"Orders", 1⟩, ⟨"Orders", 1⟩, ⟨"Lines", 3⟩]).pruned =
      Snapshot.mk [⟨"Order", 1⟩] [⟨"Orders", 1⟩] := by
  decide

end Snapshot

end QueryScaffold
