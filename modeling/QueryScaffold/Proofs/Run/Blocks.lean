import QueryScaffold.Proofs.Run.GeneratedMethods
import QueryScaffold.Proofs.Schema.Pruning
import QueryScaffold.Proofs.Source.Blocks

/-!
# The text as a function of the matches

A run takes from the schema no more than the names of matched entities and of their accessors. So
two schemas with the same pairs give the same text, or fail alike, and what happens to the pairs
when the schema changes is what happens to the text.

* `generatedText`: the text that a run gives, or its failure;
* `generatedText_eq`: **it is the rendered file of the pairs**;
* `Snapshot.withEntities`, `Snapshot.pairs_withEntities_append`: the schema with other entities, and
  its pairs;
* `generateSource_blocks`: **the text is made of one block for each match**, which stays the same when
  anything else changes.
-/

namespace QueryScaffold

variable {σ : Type}

/-! ## Pairs of schemas that differ -/

namespace Snapshot

/-- The schema with other entities. -/
def withEntities (snapshot : Snapshot σ) (entities : List (Entity σ)) : Snapshot σ :=
  { snapshot with entities }

variable [DecidableEq σ] {snapshot : Snapshot σ}

theorem pairs_withEntities_perm {entities : List (Entity σ)}
    (h : entities.Perm snapshot.entities) :
    (snapshot.withEntities entities).matching.pairs.Perm snapshot.matching.pairs := by
  rw [pairs_matching, pairs_matching]
  exact h.filterMap _

/-- What is paired of the entities does not depend on those behind them. -/
theorem pairs_withEntities_append (snapshot : Snapshot σ) (more : List (Entity σ)) :
    (snapshot.withEntities (snapshot.entities ++ more)).matching.pairs =
      snapshot.matching.pairs ++ (snapshot.withEntities more).matching.pairs := by
  rw [pairs_matching, pairs_matching, pairs_matching]
  exact List.filterMap_append

end Snapshot

/-! ## The outcome of a run -/

section Outcome

variable [DecidableEq σ]

/-- The text that a run gives for a schema, or its failure. -/
def generatedText (settings : Settings) (snapshot : Snapshot σ) (world : World) :
    Except Failure Text :=
  ((generateSource settings snapshot).run.run world).1.map Generation.text

/-- **The text is that of the rendered file of the pairs**, and a failure is a fault of that file. -/
theorem generatedText_eq (settings : Settings) (snapshot : Snapshot σ) (world : World) :
    generatedText settings snapshot world =
      (SourceFile.ofMatches settings snapshot.matching.pairs).render.mapError .synthesis := by
  rw [generatedText, run_generateSource, Generation.ofSnapshot]
  cases (SourceFile.ofMatches settings snapshot.matching.pairs).render <;> rfl

theorem generatedText_eq_ok_iff {settings : Settings} {snapshot : Snapshot σ} {world : World}
    {text : Text} :
    generatedText settings snapshot world = .ok text ↔
      (SourceFile.ofMatches settings snapshot.matching.pairs).WellFormed ∧
        text = SourceFile.headerText settings ++ queryBlocks settings snapshot.matching.pairs ++
          SourceFile.footerText := by
  rw [generatedText_eq, ← SourceFile.text_ofMatches, eq_comm (a := text),
    ← SourceFile.render_eq_ok_iff]
  cases (SourceFile.ofMatches settings snapshot.matching.pairs).render with
  | ok rendered => simp [Except.mapError]
  | error fault => simp [Except.mapError]

/-- In another order of the entities the same blocks come in another order. -/
theorem exists_blocks_of_perm {settings : Settings} {snapshot : Snapshot σ} {world : World}
    {entities : List (Entity σ)} {text : Text} (h : entities.Perm snapshot.entities)
    (htext : generatedText settings snapshot world = .ok text) :
    ∃ blocks : List Text,
      blocks.Perm (snapshot.matching.pairs.map fun pair =>
        queryBlock settings pair.entity.name pair.accessor) ∧
      generatedText settings (snapshot.withEntities entities) world =
        .ok (SourceFile.headerText settings ++ blocks.flatten ++ SourceFile.footerText) := by
  have hpairs := Snapshot.pairs_withEntities_perm h
  have hfile := (generatedText_eq_ok_iff.1 htext).1
  exact ⟨_, hpairs.map _, generatedText_eq_ok_iff.2
    ⟨SourceFile.wellFormed_ofMatches_of_perm hpairs hfile, rfl⟩⟩

/-- A text with further entities starts like the text without them, which is given as well. -/
theorem generatedText_of_append {settings : Settings} {snapshot : Snapshot σ} {world : World}
    {more : List (Entity σ)} {text : Text}
    (h : generatedText settings (snapshot.withEntities (snapshot.entities ++ more)) world =
      .ok text) :
    generatedText settings snapshot world =
        .ok (SourceFile.headerText settings ++ queryBlocks settings snapshot.matching.pairs ++
          SourceFile.footerText) ∧
      text = SourceFile.headerText settings ++ queryBlocks settings snapshot.matching.pairs ++
        queryBlocks settings (snapshot.withEntities more).matching.pairs ++
          SourceFile.footerText := by
  obtain ⟨hfile, htext⟩ := generatedText_eq_ok_iff.1 h
  rw [Snapshot.pairs_withEntities_append] at hfile htext
  refine ⟨generatedText_eq_ok_iff.2 ⟨?_, rfl⟩, ?_⟩
  · -- A fault of the shorter file would be one of the longer file.
    rw [← SourceFile.fault?_eq_none_iff] at hfile ⊢
    cases hfault : (SourceFile.ofMatches settings snapshot.matching.pairs).fault? with
    | none => rfl
    | some fault =>
      rw [SourceFile.fault?_ofMatches_append hfault] at hfile
      cases hfile
  · rw [htext, queryBlocks_append, ← List.append_assoc (SourceFile.headerText settings)]

/-- A failure is not mended by further entities. -/
theorem generatedText_append_of_error {settings : Settings} {snapshot : Snapshot σ} {world : World}
    {failure : Failure} (h : generatedText settings snapshot world = .error failure)
    (more : List (Entity σ)) :
    generatedText settings (snapshot.withEntities (snapshot.entities ++ more)) world =
      .error failure := by
  rw [generatedText_eq, SourceFile.render] at h ⊢
  rw [Snapshot.pairs_withEntities_append]
  cases hfault : (SourceFile.ofMatches settings snapshot.matching.pairs).fault? with
  | none =>
    rw [hfault] at h
    cases h
  | some fault =>
    rw [hfault] at h
    rw [SourceFile.fault?_ofMatches_append hfault]
    exact h

/-- One more entity brings a block if an accessor exposes it. -/
theorem queryBlocks_withEntities_singleton (settings : Settings) (snapshot : Snapshot σ)
    (entity : Entity σ) :
    queryBlocks settings (snapshot.withEntities [entity]).matching.pairs =
      (snapshot.firstAccessor? entity.shape).elim [] fun accessor =>
        queryBlock settings entity.name accessor.name := by
  rw [Snapshot.pairs_matching]
  show queryBlocks settings (List.filterMap (fun entity =>
    (snapshot.firstAccessor? entity.shape).map _) [entity]) = _
  rw [List.filterMap_cons]
  cases snapshot.firstAccessor? entity.shape with
  | none => rfl
  | some accessor => exact List.append_nil _

/-- **The text is made of one block for each match**, in the order of the entities, between two
pieces that only depend on the settings; a block depends on the settings and on the names of its
match.

Without what no match needs the text or the failure is the same. With the entities in another order
the same blocks come in another order. With an entity behind the others the text has at most one
more block behind the others, and a failure stays the same. -/
theorem generateSource_blocks (settings : Settings) (snapshot : Snapshot σ) (world : World) :
    ((snapshot.matching.pairs.map Match.entity).Sublist snapshot.entities ∧
      ∀ text, generatedText settings snapshot world = .ok text →
        text = SourceFile.headerText settings ++
          (snapshot.matching.pairs.flatMap fun pair =>
            queryBlock settings pair.entity.name pair.accessor) ++ SourceFile.footerText) ∧
    (generatedText settings snapshot.pruned world = generatedText settings snapshot world ∧
      snapshot.pruned.matching.unmatched = [] ∧ snapshot.pruned.matching.ambiguous = []) ∧
    (∀ entities, entities.Perm snapshot.entities →
      ∀ text, generatedText settings snapshot world = .ok text →
        ∃ blocks : List Text,
          blocks.Perm (snapshot.matching.pairs.map fun pair =>
            queryBlock settings pair.entity.name pair.accessor) ∧
          generatedText settings (snapshot.withEntities entities) world =
            .ok (SourceFile.headerText settings ++ blocks.flatten ++ SourceFile.footerText)) ∧
    (∀ entity,
      (∀ text, generatedText settings (snapshot.withEntities (snapshot.entities ++ [entity]))
          world = .ok text →
        generatedText settings snapshot world =
            .ok (SourceFile.headerText settings ++ queryBlocks settings snapshot.matching.pairs ++
              SourceFile.footerText) ∧
          text = SourceFile.headerText settings ++ queryBlocks settings snapshot.matching.pairs ++
            ((snapshot.firstAccessor? entity.shape).elim [] fun accessor =>
              queryBlock settings entity.name accessor.name) ++ SourceFile.footerText) ∧
      ∀ failure, generatedText settings snapshot world = .error failure →
        generatedText settings (snapshot.withEntities (snapshot.entities ++ [entity])) world =
          .error failure) := by
  refine ⟨⟨?_, fun text htext => (generatedText_eq_ok_iff.1 htext).2⟩, ⟨?_, ?_, ?_⟩,
    fun entities h text htext => exists_blocks_of_perm h htext, fun entity => ⟨?_, ?_⟩⟩
  · rw [Snapshot.map_entity_pairs]
    exact List.filter_sublist
  · rw [generatedText_eq, generatedText_eq, Snapshot.pairs_pruned]
  · rw [Snapshot.matching_pruned]
  · rw [Snapshot.matching_pruned]
  · intro text htext
    rw [← queryBlocks_withEntities_singleton]
    exact generatedText_of_append htext
  · exact fun failure hfailure => generatedText_append_of_error hfailure [entity]

end Outcome

end QueryScaffold
