import QueryScaffold.Proofs.Schema.Partition

/-!
# Accessors that are added to a schema

An accessor more, at any place of the list, changes what becomes of the entities of its shape and of
no others. The part of a matching that is about some shapes depends on the accessors of these shapes
only, and in the part that is about one shape all entities have the same candidates.

* `Matching.restricted`: the part of a matching that is about some shapes;
* `Snapshot.insertAccessor`: a schema with an accessor more;
* `Snapshot.restricted_matching_eq`: the part about one shape, put together from its candidates;
* `Snapshot.TakesIn`: what an accessor changes;
* `Snapshot.matching_insertAccessor`: **an accessor changes exactly this wherever it is inserted**,
  so that neighbours of different shapes may change places, and an accessor at the end takes no
  entity from another one.
-/

namespace QueryScaffold

namespace Matching

variable {σ : Type}

/-- The part of a matching that is about entities of some shapes. -/
def restricted (matching : Matching σ) (p : σ → Bool) : Matching σ where
  pairs := matching.pairs.filter (p ·.entity.shape)
  unmatched := matching.unmatched.filter (p ·.shape)
  ambiguous := matching.ambiguous.filter (p ·.entity.shape)

/-- Entities are dealt with one by one, so that a part of a matching is the matching of a part. -/
theorem restricted_ofExposures (exposures : List (Exposure σ)) (p : σ → Bool) :
    (ofExposures exposures).restricted p =
      ofExposures (exposures.filter (p ·.entity.shape)) := by
  have hpairs : (exposures.filterMap Exposure.match?).filter (p ·.entity.shape) =
      (exposures.filter (p ·.entity.shape)).filterMap Exposure.match? := by
    rw [List.filter_filterMap, List.filterMap_filter]
    refine List.filterMap_congr fun exposure _ => ?_
    cases hcandidates : exposure.candidates <;>
      by_cases hp : p exposure.entity.shape <;> simp [Exposure.match?, hcandidates, hp]
  have hunmatched : ((exposures.filter Exposure.isUnmatched).map Exposure.entity).filter (p ·.shape) =
      ((exposures.filter (p ·.entity.shape)).filter Exposure.isUnmatched).map Exposure.entity := by
    rw [List.filter_map, List.filter_comm]
    rfl
  have hambiguous : (exposures.filter Exposure.isAmbiguous).filter (p ·.entity.shape) =
      (exposures.filter (p ·.entity.shape)).filter Exposure.isAmbiguous :=
    List.filter_comm _ _ _
  simp only [restricted, ofExposures, hpairs, hunmatched, hambiguous]

/-- Entities without a candidate are left over. -/
theorem ofExposures_map_nil (entities : List (Entity σ)) :
    ofExposures (entities.map fun entity => Exposure.mk entity []) =
      { pairs := [], unmatched := entities, ambiguous := [] } := by
  simp [ofExposures, List.filter_map, Function.comp_def, Exposure.match?, Exposure.isUnmatched,
    Exposure.isAmbiguous]

/-- Entities with the same candidates are paired with the first of them. -/
theorem ofExposures_map_cons (entities : List (Entity σ)) (first : Text) (others : List Text) :
    ofExposures (entities.map fun entity => Exposure.mk entity (first :: others)) =
      { pairs := entities.map fun entity => ⟨entity, first⟩
        unmatched := []
        ambiguous := if others = [] then [] else
          entities.map fun entity => ⟨entity, first :: others⟩ } := by
  cases others <;> simp [ofExposures, List.filter_map, Function.comp_def, Exposure.match?,
    Exposure.isUnmatched, Exposure.isAmbiguous]

/-- Entities with the same two or more candidates are paired and ambiguous. -/
theorem ofExposures_map_of_choice (entities : List (Entity σ)) {names : List Text} {first : Text}
    (hfirst : names.head? = some first) (hchoice : 2 ≤ names.length) :
    ofExposures (entities.map fun entity => Exposure.mk entity names) =
      { pairs := entities.map fun entity => ⟨entity, first⟩
        unmatched := []
        ambiguous := entities.map fun entity => ⟨entity, names⟩ } := by
  match names, hfirst, hchoice with
  | first :: second :: rest, rfl, _ =>
    rw [ofExposures_map_cons, if_neg (List.cons_ne_nil _ _)]

end Matching

namespace Snapshot

variable {σ : Type} [DecidableEq σ]

/-- The schema with an accessor more, at a place of the list; behind the end of the list it comes
last. -/
def insertAccessor (snapshot : Snapshot σ) (place : Nat) (accessor : Accessor σ) : Snapshot σ where
  entities := snapshot.entities
  accessors := snapshot.accessors.take place ++ accessor :: snapshot.accessors.drop place

/-- What an accessor changes that is inserted at a place. -/
structure TakesIn (snapshot : Snapshot σ) (place : Nat) (accessor : Accessor σ) : Prop where
  /-- Entities of other shapes are dealt with as before. -/
  others : (snapshot.insertAccessor place accessor).matching.restricted
      (· ≠ accessor.elementShape) =
    snapshot.matching.restricted (· ≠ accessor.elementShape)
  /-- Entities that had no candidate were left over and are paired with the accessor. -/
  first : candidates snapshot.accessors accessor.elementShape = [] →
    ∃ entities,
      snapshot.matching.restricted (· = accessor.elementShape) =
        { pairs := [], unmatched := entities, ambiguous := [] } ∧
      (snapshot.insertAccessor place accessor).matching.restricted
          (· = accessor.elementShape) =
        { pairs := entities.map fun entity => ⟨entity, accessor.name⟩
          unmatched := []
          ambiguous := [] }
  /-- Entities that had candidates were paired with the first of them. They keep it, unless the new
  one comes before it, and have one candidate more, at the place that is left to it between the
  old ones. -/
  further : candidates snapshot.accessors accessor.elementShape ≠ [] →
    ∃ pairs ambiguous,
      snapshot.matching.restricted (· = accessor.elementShape) =
        { pairs, unmatched := [], ambiguous } ∧
      (∀ exposure ∈ ambiguous,
        exposure.candidates = candidates snapshot.accessors accessor.elementShape) ∧
      (snapshot.insertAccessor place accessor).matching.restricted
          (· = accessor.elementShape) =
        { pairs := pairs.map fun pair =>
            if place ≤ snapshot.accessors.findIdx (·.elementShape = accessor.elementShape) then
              ⟨pair.entity, accessor.name⟩
            else pair
          unmatched := []
          ambiguous := pairs.map fun pair =>
            ⟨pair.entity, (candidates snapshot.accessors accessor.elementShape).insertIdx
              (candidates (snapshot.accessors.take place) accessor.elementShape).length
              accessor.name⟩ }

/-! ## Candidates -/

section Candidates

variable {accessor : Accessor σ} {shape : σ}

theorem candidates_append (before after : List (Accessor σ)) (shape : σ) :
    candidates (before ++ after) shape = candidates before shape ++ candidates after shape := by
  simp [candidates]

theorem candidates_cons_of_ne (h : accessor.elementShape ≠ shape) (rest : List (Accessor σ)) :
    candidates (accessor :: rest) shape = candidates rest shape := by
  simp [candidates, h]

theorem candidates_cons_self (accessor : Accessor σ) (rest : List (Accessor σ)) :
    candidates (accessor :: rest) accessor.elementShape =
      accessor.name :: candidates rest accessor.elementShape := by
  simp [candidates]

theorem candidates_take_append_drop (snapshot : Snapshot σ) (place : Nat) (shape : σ) :
    candidates (snapshot.accessors.take place) shape ++
        candidates (snapshot.accessors.drop place) shape =
      candidates snapshot.accessors shape := by
  rw [← candidates_append, List.take_append_drop]

theorem candidates_insertAccessor_of_ne (snapshot : Snapshot σ) (place : Nat)
    (h : accessor.elementShape ≠ shape) :
    candidates (snapshot.insertAccessor place accessor).accessors shape =
      candidates snapshot.accessors shape := by
  rw [insertAccessor, candidates_append, candidates_cons_of_ne h, candidates_take_append_drop]

theorem candidates_insertAccessor_self (snapshot : Snapshot σ) (place : Nat)
    (accessor : Accessor σ) :
    candidates (snapshot.insertAccessor place accessor).accessors accessor.elementShape =
      candidates (snapshot.accessors.take place) accessor.elementShape ++
        accessor.name :: candidates (snapshot.accessors.drop place) accessor.elementShape := by
  rw [insertAccessor, candidates_append, candidates_cons_self]

theorem candidates_eq_nil_iff {accessors : List (Accessor σ)} :
    candidates accessors shape = [] ↔ ∀ accessor ∈ accessors, accessor.elementShape ≠ shape := by
  simp [candidates, List.filter_eq_nil_iff]

/-- A place is at or before the first candidate exactly if there is no candidate before it. -/
theorem le_findIdx_iff {accessors : List (Accessor σ)} (place : Nat)
    (h : candidates accessors shape ≠ []) :
    place ≤ accessors.findIdx (·.elementShape = shape) ↔
      candidates (accessors.take place) shape = [] := by
  rw [candidates_eq_nil_iff]
  have hlt : accessors.findIdx (·.elementShape = shape) < accessors.length := by
    refine List.findIdx_lt_length_of_exists ?_
    simpa [candidates_eq_nil_iff] using h
  have hfound : (accessors[accessors.findIdx (·.elementShape = shape)]).elementShape = shape := by
    simpa using List.findIdx_getElem (w := hlt)
  constructor
  · intro hle accessor haccessor
    obtain ⟨index, hindex, rfl⟩ := List.mem_take_iff_getElem.1 haccessor
    have hbefore : index < accessors.findIdx (·.elementShape = shape) :=
      Nat.lt_of_lt_of_le (Nat.lt_of_lt_of_le hindex (Nat.min_le_left ..)) hle
    simpa using List.not_of_lt_findIdx hbefore
  · intro hnone
    by_contra hgt
    have hmem : accessors[accessors.findIdx (·.elementShape = shape)] ∈ accessors.take place :=
      List.mem_take_iff_getElem.2 ⟨_, Nat.lt_min.2 ⟨Nat.lt_of_not_le hgt, hlt⟩, rfl⟩
    exact hnone _ hmem hfound

theorem insertIdx_length_append {α : Type} (before after : List α) (item : α) :
    (before ++ after).insertIdx before.length item = before ++ item :: after := by
  induction before with
  | nil => exact List.insertIdx_zero
  | cons head rest ih => exact congrArg (List.cons head) ih

/-- The name of the new accessor stands between the old ones. -/
theorem insertIdx_candidates (snapshot : Snapshot σ) (place : Nat) (accessor : Accessor σ) :
    (candidates snapshot.accessors accessor.elementShape).insertIdx
        (candidates (snapshot.accessors.take place) accessor.elementShape).length accessor.name =
      candidates (snapshot.insertAccessor place accessor).accessors accessor.elementShape := by
  rw [candidates_insertAccessor_self,
    ← candidates_take_append_drop snapshot place accessor.elementShape, insertIdx_length_append]

variable {snapshot : Snapshot σ} {old : Text} {rest : List Text}

/-- The first candidate stays the first one, unless the new one comes before it. -/
theorem head?_candidates_insertAccessor {place : Nat}
    (h : candidates snapshot.accessors accessor.elementShape = old :: rest) :
    (candidates (snapshot.insertAccessor place accessor).accessors accessor.elementShape).head? =
      some (if place ≤ snapshot.accessors.findIdx (·.elementShape = accessor.elementShape) then
        accessor.name else old) := by
  have hsplit := candidates_take_append_drop snapshot place accessor.elementShape
  have hplace := le_findIdx_iff place (h ▸ List.cons_ne_nil old rest)
  simp only [hplace]
  rw [candidates_insertAccessor_self]
  cases hbefore : candidates (snapshot.accessors.take place) accessor.elementShape with
  | nil => rfl
  | cons head more =>
    rw [hbefore, h, List.cons_append] at hsplit
    simp [(List.cons.inj hsplit).1]

theorem two_le_length_candidates_insertAccessor {place : Nat}
    (h : candidates snapshot.accessors accessor.elementShape = old :: rest) :
    2 ≤ (candidates (snapshot.insertAccessor place accessor).accessors
      accessor.elementShape).length := by
  have hlength := congrArg List.length
    (candidates_take_append_drop snapshot place accessor.elementShape)
  rw [h, List.length_append, List.length_cons] at hlength
  rw [candidates_insertAccessor_self, List.length_append, List.length_cons]
  omega

end Candidates

/-! ## Matchings -/

/-- The part of a matching about some shapes is the matching of the entities of these shapes. -/
theorem restricted_matching (snapshot : Snapshot σ) (p : σ → Bool) :
    snapshot.matching.restricted p =
      .ofExposures ((snapshot.entities.filter (p ·.shape)).map fun entity =>
        ⟨entity, candidates snapshot.accessors entity.shape⟩) := by
  rw [matching, Matching.restricted_ofExposures, exposures, List.filter_map]
  rfl

/-- All entities of one shape have the same candidates. -/
theorem restricted_matching_eq (snapshot : Snapshot σ) (shape : σ) :
    snapshot.matching.restricted (· = shape) =
      .ofExposures ((snapshot.entities.filter (·.shape = shape)).map fun entity =>
        ⟨entity, candidates snapshot.accessors shape⟩) := by
  rw [restricted_matching]
  refine congrArg Matching.ofExposures (List.map_congr_left fun entity hentity => ?_)
  have hshape : entity.shape = shape := by simpa using (List.mem_filter.1 hentity).2
  rw [hshape]

/-- A schema is matched as another one if each shape has the same candidates. -/
theorem matching_congr {entities : List (Entity σ)} {accessors accessors' : List (Accessor σ)}
    (h : ∀ shape, candidates accessors shape = candidates accessors' shape) :
    (mk entities accessors).matching = (mk entities accessors').matching := by
  rw [matching, matching, exposures, exposures]
  simp only [h]

theorem takesIn (snapshot : Snapshot σ) (place : Nat) (accessor : Accessor σ) :
    snapshot.TakesIn place accessor where
  others := by
    rw [restricted_matching, restricted_matching]
    refine congrArg Matching.ofExposures (List.map_congr_left fun entity hentity => ?_)
    have hshape : accessor.elementShape ≠ entity.shape := by
      simpa using Ne.symm (of_decide_eq_true (List.mem_filter.1 hentity).2)
    rw [candidates_insertAccessor_of_ne snapshot place hshape]
  first := by
    intro hnone
    have hsplit := candidates_take_append_drop snapshot place accessor.elementShape
    rw [hnone, List.append_eq_nil_iff] at hsplit
    refine ⟨snapshot.entities.filter (·.shape = accessor.elementShape), ?_, ?_⟩
    · rw [restricted_matching_eq, hnone, Matching.ofExposures_map_nil]
    · rw [restricted_matching_eq, candidates_insertAccessor_self, hsplit.1, hsplit.2,
        List.nil_append, Matching.ofExposures_map_cons, if_pos rfl]
      rfl
  further := by
    intro hsome
    obtain ⟨old, rest, hold⟩ := List.exists_cons_of_ne_nil hsome
    let entities := snapshot.entities.filter (·.shape = accessor.elementShape)
    refine ⟨entities.map fun entity => ⟨entity, old⟩,
      if rest = [] then [] else entities.map fun entity => ⟨entity, old :: rest⟩, ?_, ?_, ?_⟩
    · rw [restricted_matching_eq, hold, Matching.ofExposures_map_cons]
    · rw [hold]
      intro exposure hexposure
      split at hexposure
      · cases hexposure
      · obtain ⟨entity, -, rfl⟩ := List.mem_map.1 hexposure
        rfl
    · rw [insertIdx_candidates, restricted_matching_eq,
        Matching.ofExposures_map_of_choice _ (head?_candidates_insertAccessor hold)
          (two_le_length_candidates_insertAccessor hold), List.map_map, List.map_map]
      split <;> rfl

/-- Neighbours of different shapes may change places. -/
theorem matching_swap (entities : List (Entity σ)) {first second : Accessor σ}
    (h : first.elementShape ≠ second.elementShape) (before after : List (Accessor σ)) :
    (mk entities (before ++ second :: first :: after)).matching =
      (mk entities (before ++ first :: second :: after)).matching := by
  refine matching_congr fun shape => ?_
  rw [candidates_append, candidates_append]
  refine congrArg (candidates before shape ++ ·) ?_
  by_cases hfirst : first.elementShape = shape
  · subst hfirst
    rw [candidates_cons_of_ne h.symm, candidates_cons_self, candidates_cons_self,
      candidates_cons_of_ne h.symm]
  · by_cases hsecond : second.elementShape = shape
    · subst hsecond
      rw [candidates_cons_self, candidates_cons_of_ne h, candidates_cons_of_ne h,
        candidates_cons_self]
    · rw [candidates_cons_of_ne hsecond, candidates_cons_of_ne hfirst,
        candidates_cons_of_ne hfirst, candidates_cons_of_ne hsecond]

/-- An accessor at the end is found by no entity that has found another one. -/
theorem firstAccessor?_append (snapshot : Snapshot σ) (accessor : Accessor σ) (shape : σ) :
    firstAccessor? (mk snapshot.entities (snapshot.accessors ++ [accessor])) shape =
      (snapshot.firstAccessor? shape).or ([accessor].find? (·.elementShape = shape)) :=
  List.find?_append

/-- With an accessor more at the end, entities that were paired are paired as before. -/
theorem filter_pairs_append (snapshot : Snapshot σ) (accessor : Accessor σ) :
    ((mk snapshot.entities (snapshot.accessors ++ [accessor])).matching.pairs.filter
      fun pair => pair.entity ∉ snapshot.matching.unmatched) = snapshot.matching.pairs := by
  rw [pairs_matching, pairs_matching, List.filter_filterMap]
  refine List.filterMap_congr fun entity hentity => ?_
  rw [firstAccessor?_append]
  have hleft : entity ∈ snapshot.matching.unmatched ↔
      snapshot.firstAccessor? entity.shape = none :=
    mem_unmatched_iff.trans (and_iff_right hentity)
  cases hfirst : snapshot.firstAccessor? entity.shape with
  | none => cases [accessor].find? (·.elementShape = entity.shape) <;> simp [hleft, hfirst]
  | some first => simp [hleft, hfirst]

/-- Orders that two accessors expose, and a shift that none exposes. -/
def soldOrders : Snapshot Nat where
  entities := [⟨"Order", 1⟩, ⟨"Shift", 2⟩, ⟨"Order", 1⟩]
  accessors := [⟨"Lines", 3⟩, ⟨"Orders", 1⟩]

end Snapshot

end QueryScaffold
