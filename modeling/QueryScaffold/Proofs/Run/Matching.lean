import Mathlib.Data.List.Forall2
import QueryScaffold.Proofs.Schema.Partition
import QueryScaffold.Run.Generation

/-!
# Matching and its warnings

A run matches the entities of a schema and warns of some of them on the way.

* `Snapshot.Warns`: the warning that is due on an entity, in terms of the accessors of its shape;
* `Snapshot.forall₂_warnings`: there is one warning on each entity that does not have exactly one
  accessor, in the order of the entities;
* `matchEntities_divides`: **matching completes, divides the entities among its lists, and logs
  these warnings and nothing else**.
-/

namespace QueryScaffold

variable {σ : Type} [DecidableEq σ]

namespace Snapshot

/-- The warning on an entity that no accessor exposes, or that several accessors expose. -/
inductive Warns (snapshot : Snapshot σ) (entity : Entity σ) : Notice → Prop
  | unexposed : snapshot.exposing entity.shape = [] → Warns snapshot entity (.unexposed entity.name)
  | ambiguous : 2 ≤ (snapshot.exposing entity.shape).length → Warns snapshot entity
      (.ambiguous entity.name ((snapshot.exposing entity.shape).map Accessor.name))

theorem Warns.level {snapshot : Snapshot σ} {entity : Entity σ} {notice : Notice}
    (h : snapshot.Warns entity notice) : notice.level = .warning := by
  cases h <;> rfl

/-- What is said of one entity, by the number of accessors that expose it. -/
theorem warning?_mk_cases (snapshot : Snapshot σ) (entity : Entity σ) :
    (∃ notice, (Exposure.mk entity (candidates snapshot.accessors entity.shape)).warning? =
        some notice ∧ (snapshot.exposing entity.shape).length ≠ 1 ∧
          snapshot.Warns entity notice) ∨
      ((Exposure.mk entity (candidates snapshot.accessors entity.shape)).warning? = none ∧
        (snapshot.exposing entity.shape).length = 1) := by
  have hcandidates : candidates snapshot.accessors entity.shape =
      (snapshot.exposing entity.shape).map Accessor.name := rfl
  rw [hcandidates]
  match hexposing : snapshot.exposing entity.shape with
  | [] => exact .inl ⟨_, rfl, by simp, .unexposed hexposing⟩
  | [accessor] => exact .inr ⟨rfl, rfl⟩
  | first :: second :: rest =>
    refine .inl ⟨.ambiguous entity.name ((first :: second :: rest).map Accessor.name), ?_, by simp,
      ?_⟩
    · simp [Exposure.warning?, Exposure.isUnmatched, Exposure.isAmbiguous]
    · rw [← hexposing]
      exact .ambiguous (by rw [hexposing]; simp)

/-- There is one warning on each entity that does not have exactly one accessor. -/
theorem forall₂_warnings (snapshot : Snapshot σ) :
    List.Forall₂ snapshot.Warns
      (snapshot.entities.filter fun entity => (snapshot.exposing entity.shape).length ≠ 1)
      snapshot.warnings := by
  rw [warnings, exposures, List.filterMap_map]
  induction snapshot.entities with
  | nil => exact .nil
  | cons entity rest ih =>
    rw [List.filterMap_cons, List.filter_cons]
    obtain ⟨notice, hwarning, hlength, hwarns⟩ | ⟨hwarning, hlength⟩ :=
      warning?_mk_cases snapshot entity
    · rw [Function.comp_apply, hwarning, if_pos (by simpa using hlength)]
      exact .cons hwarns ih
    · rw [Function.comp_apply, hwarning, if_neg (by simpa using hlength)]
      exact ih

end Snapshot

/-- **Matching divides the entities and warns of those that have no accessor or several.** It always
completes; besides the warnings, one on each of these entities in their order, it changes
nothing. -/
theorem matchEntities_divides (schema : Option Text) (snapshot : Snapshot σ) (world : World) :
    ∃ matching notices,
      (matchEntities schema snapshot).run.run world =
        (.ok matching, { world with log := world.log ++ notices.map (Record.mk schema) }) ∧
      matching.Divides snapshot ∧
      List.Forall₂ snapshot.Warns
        (snapshot.entities.filter fun entity => (snapshot.exposing entity.shape).length ≠ 1)
        notices ∧
      ∀ notice ∈ notices, notice.level = .warning := by
  have hwarnings := snapshot.forall₂_warnings
  refine ⟨snapshot.matching, snapshot.warnings, rfl, snapshot.divides_matching, hwarnings, ?_⟩
  intro notice hnotice
  obtain ⟨place, hplace, rfl⟩ := List.getElem_of_mem hnotice
  have hentity : place < (snapshot.entities.filter
      fun entity => (snapshot.exposing entity.shape).length ≠ 1).length := by
    rw [hwarnings.length_eq]
    exact hplace
  exact (hwarnings.get hentity hplace).level

-- Of two equal entities each has its place and its warning.
example : (Snapshot.mk [⟨"Order", 1⟩, ⟨"Shift", 2⟩, ⟨"Order", 1⟩]
    [⟨"Orders", 1⟩, ⟨"Sales", 1⟩]).warnings =
      [.ambiguous "Order" ["Orders", "Sales"], .unexposed "Shift",
        .ambiguous "Order" ["Orders", "Sales"]] := by
  decide

end QueryScaffold
