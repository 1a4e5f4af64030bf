import Mathlib.Data.List.Nodup
import QueryScaffold.Proofs.Schema.Matching
import QueryScaffold.Schema.Description

/-!
# Schemas whose entities have different shapes

A schema that was read has no two entities of one shape. So an accessor can be taken by one entity
only, and entities that take accessors of one name have found two accessors that differ in their
shapes.

* `Snapshot.distinct_eq_ok_iff`: **the test for repeated shapes lets exactly the schemas through that
  have none**;
* `Snapshot.length_filter_shape_le_one`: an accessor exposes one entity at most;
* `Snapshot.pairwise_pairs`: entities of different pairs have different shapes;
* `Snapshot.nodup_accessor_pairs`: **accessors of different names are taken once each**;
* `Description.nodup_shapes_of_snapshot`: the entities of a description have different shapes.
-/

namespace QueryScaffold

namespace Snapshot

variable {σ : Type} [DecidableEq σ]

/-! ## The test for repeated shapes -/

/-- The search ends without a find if no shape is repeated or was seen before. The induction is on
the entities that are still to be seen. -/
theorem repeatedAfter_eq_none_iff (seen rest : List (Entity σ)) :
    repeatedAfter seen rest = none ↔
      (rest.map Entity.shape).Nodup ∧ ∀ entity ∈ rest, entity.shape ∉ seen.map Entity.shape := by
  induction rest generalizing seen with
  | nil => simp [repeatedAfter]
  | cons entity rest ih =>
    rw [repeatedAfter]
    cases hfind : seen.find? (·.shape = entity.shape) with
    | some earlier =>
      have hseen : entity.shape ∈ seen.map Entity.shape := by
        have hshape : earlier.shape = entity.shape := by simpa using List.find?_some hfind
        exact hshape ▸ List.mem_map_of_mem (List.mem_of_find?_eq_some hfind)
      simp only [reduceCtorEq, false_iff]
      exact fun h => h.2 entity List.mem_cons_self hseen
    | none =>
      have hseen : entity.shape ∉ seen.map Entity.shape := by
        intro hmem
        obtain ⟨earlier, hearlier, hshape⟩ := List.mem_map.1 hmem
        simpa [hshape] using List.find?_eq_none.1 hfind earlier hearlier
      simp only [ih, List.map_cons, List.nodup_cons, List.forall_mem_cons, List.map_append,
        List.map_nil, List.mem_append, List.mem_singleton, not_or, List.mem_map]
      constructor
      · rintro ⟨hnodup, hrest⟩
        refine ⟨⟨?_, hnodup⟩, by simpa using hseen, fun other hother => (hrest other hother).1⟩
        rintro ⟨other, hother, hshape⟩
        exact (hrest other hother).2 hshape
      · rintro ⟨⟨hnew, hnodup⟩, -, hrest⟩
        exact ⟨hnodup, fun other hother =>
          ⟨hrest other hother, fun hshape => hnew ⟨other, hother, hshape⟩⟩⟩

/-- **A schema is let through exactly if its entities have different shapes**, and then it is what
was tested. -/
theorem distinct_eq_ok_iff {entities : List (Entity σ)} {accessors : List (Accessor σ)}
    {snapshot : Snapshot σ} :
    distinct entities accessors = .ok snapshot ↔
      (entities.map Entity.shape).Nodup ∧ snapshot = ⟨entities, accessors⟩ := by
  have hrepeated : repeated? entities = none ↔ (entities.map Entity.shape).Nodup := by
    rw [repeated?, repeatedAfter_eq_none_iff]
    exact and_iff_left fun entity _ => List.not_mem_nil
  rw [← hrepeated, distinct]
  cases repeated? entities with
  | none => simp [eq_comm]
  | some pair => simp

/-! ## Pairs -/

section Pairs

variable {snapshot : Snapshot σ}

/-- At most one entity has a given shape. -/
theorem length_filter_shape_le_one (h : (snapshot.entities.map Entity.shape).Nodup) (shape : σ) :
    (snapshot.entities.filter (·.shape = shape)).length ≤ 1 := by
  have hnodup : ((snapshot.entities.filter (·.shape = shape)).map Entity.shape).Nodup :=
    h.sublist (List.filter_sublist.map _)
  have hsame : (snapshot.entities.filter (·.shape = shape)).map Entity.shape =
      List.replicate (snapshot.entities.filter (·.shape = shape)).length shape := by
    refine List.eq_replicate_iff.2 ⟨List.length_map _, fun other hother => ?_⟩
    obtain ⟨entity, hentity, rfl⟩ := List.mem_map.1 hother
    simpa using (List.mem_filter.1 hentity).2
  rw [hsame] at hnodup
  exact List.nodup_replicate.1 hnodup

/-- Entities of different pairs have different shapes. -/
theorem pairwise_pairs (h : (snapshot.entities.map Entity.shape).Nodup) :
    snapshot.matching.pairs.Pairwise fun first second =>
      first.entity.shape ≠ second.entity.shape := by
  have hnodup : ((snapshot.matching.pairs.map Match.entity).map Entity.shape).Nodup := by
    rw [map_entity_pairs]
    exact h.sublist (List.filter_sublist.map _)
  rwa [List.map_map, List.Nodup, List.pairwise_map] at hnodup

theorem firstAccessor?_eq_some {shape : σ} {accessor : Accessor σ}
    (h : snapshot.firstAccessor? shape = some accessor) :
    accessor ∈ snapshot.accessors ∧ accessor.elementShape = shape :=
  ⟨List.mem_of_find?_eq_some h, by simpa using List.find?_some h⟩

/-- **Accessors of different names are taken once each.** Two pairs with one accessor would have
found the same one, and their entities would have its shape. -/
theorem nodup_accessor_pairs (h : (snapshot.entities.map Entity.shape).Nodup)
    (hnames : (snapshot.accessors.map Accessor.name).Nodup) :
    (snapshot.matching.pairs.map Match.accessor).Nodup := by
  rw [List.Nodup, List.pairwise_map]
  refine (pairwise_pairs h).imp_of_mem fun {first second} hfirst hsecond hshapes hsame => ?_
  obtain ⟨-, a, ha, hfirstname⟩ := mem_pairs_iff.1 hfirst
  obtain ⟨-, b, hb, hsecondname⟩ := mem_pairs_iff.1 hsecond
  obtain ⟨hamem, hashape⟩ := firstAccessor?_eq_some ha
  obtain ⟨hbmem, hbshape⟩ := firstAccessor?_eq_some hb
  have hname : a.name = b.name := hfirstname.trans (hsame.trans hsecondname.symm)
  have hab : a = b := List.inj_on_of_nodup_map hnames hamem hbmem hname
  exact hshapes (hashape.symm.trans (hab ▸ hbshape))

end Pairs

end Snapshot

/-- What a description describes has passed the test. -/
theorem Description.nodup_shapes_of_snapshot {description : Description} {snapshot : Snapshot Text}
    (h : description.snapshot = .ok snapshot) : (snapshot.entities.map Entity.shape).Nodup := by
  rw [Description.snapshot] at h
  split at h
  · cases h
  · split at h
    · cases h
    · obtain ⟨hnodup, rfl⟩ := Snapshot.distinct_eq_ok_iff.1 h
      exact hnodup

end QueryScaffold
