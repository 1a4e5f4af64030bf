import QueryScaffold.Container.Sample
import QueryScaffold.Proofs.Container.Reading
import QueryScaffold.Proofs.Run.Generation
import QueryScaffold.Proofs.Schema.Relabelling

/-!
# Containers and descriptions

The schema of a container has classes for its shapes, and the schema of a description has type
names. A description with a type name for each class leads through every stage to the same text, or
to the same failure: which class a shape is plays no part.

* `Generation.map`, `run_generateSource_map`: **what is generated depends on the shapes only in its
  matching**;
* `readDescription_of_readScope`: **a description of a container's schema stands for the
  container**.
-/

namespace QueryScaffold

section Generating

variable {σ τ : Type} [DecidableEq σ] [DecidableEq τ] {f : σ → τ} {snapshot : Snapshot σ}

omit [DecidableEq σ] [DecidableEq τ] in
/-- A file is made from names only. -/
theorem SourceFile.ofMatches_map (settings : Settings) (pairs : List (Match σ)) :
    ofMatches settings (pairs.map (Match.map f)) = ofMatches settings pairs := by
  rw [ofMatches, ofMatches, List.map_map]
  rfl

/-- The generation with the shapes of its matching changed. -/
def Generation.map {σ τ : Type} (f : σ → τ) (generation : Generation σ) : Generation τ :=
  { text := generation.text
    file := generation.file
    matching := generation.matching.map f
    outputPath := generation.outputPath
    outputFault := generation.outputFault }

theorem Generation.ofSnapshot_map (settings : Settings)
    (hf : Set.InjOn f {shape | shape ∈ snapshot.shapes}) :
    ofSnapshot settings (snapshot.map f) = (ofSnapshot settings snapshot).map (map f) := by
  have hfile : SourceFile.ofMatches settings (snapshot.map f).matching.pairs =
      SourceFile.ofMatches settings snapshot.matching.pairs := by
    rw [Snapshot.matching_map hf]
    exact SourceFile.ofMatches_map settings _
  rw [ofSnapshot, ofSnapshot, hfile, Snapshot.matching_map hf]
  cases (SourceFile.ofMatches settings snapshot.matching.pairs).render <;> rfl

/-- **What is generated depends on the shapes only in its matching**: text, file, failure and log
are the same for other shapes. -/
theorem run_generateSource_map (settings : Settings) (world : World)
    (hf : Set.InjOn f {shape | shape ∈ snapshot.shapes}) :
    (generateSource settings (snapshot.map f)).run.run world =
      (((generateSource settings snapshot).run.run world).1.map (Generation.map f),
        ((generateSource settings snapshot).run.run world).2) := by
  rw [run_generateSource, run_generateSource, Snapshot.warnings_map hf,
    Generation.ofSnapshot_map settings hf]
  cases Generation.ofSnapshot settings snapshot <;> rfl

end Generating

/-- **A description of a container's schema stands for the container.** It is read as the schema
with names for its classes, which is matched alike, and from which every settings generate the same.
-/
theorem readDescription_of_readScope {schema : Option Text} {scope : Scope} {world after : World}
    {snapshot : Snapshot ClassRef}
    (hread : (readScope schema scope).run.run world = (.ok snapshot, after))
    (f : ClassRef → Text) (hf : Set.InjOn f {shape | shape ∈ snapshot.shapes})
    (hdescribable : snapshot.Describable f) :
    ∃ description, Description.ofJson (snapshot.describe f) = .ok description ∧
      (∀ label start, ((readDescription label description).run.run start).1 =
        .ok (snapshot.map f)) ∧
      (snapshot.map f).matching = snapshot.matching.map f ∧
      ∀ settings start,
        (generateSource settings (snapshot.map f)).run.run start =
          (((generateSource settings snapshot).run.run start).1.map (Generation.map f),
            ((generateSource settings snapshot).run.run start).2) := by
  have hsnapshot : (scope.snapshot world.workspace).result = .ok snapshot := by
    rw [← Run.outcome_readScope schema, hread]
  obtain ⟨description, hjson, hdescribed⟩ :=
    Snapshot.snapshot_describe hdescribable hf (Scope.distinct_of_snapshot hsnapshot)
  refine ⟨description, hjson, ?_, Snapshot.matching_map hf,
    fun settings start => run_generateSource_map settings start hf⟩
  intro label start
  rw [readDescription, readSchema, Run.run_bind, Run.run_check, hdescribed]
  rfl

namespace Sample

/-- The container of the sample is where its settings say. -/
def containerWorld : World :=
  { tree :=
      { home := ["work"]
        entries := [(["work"], .directory), (["work", "schema"], .directory),
          (["work", "schema", "adventure_works.py"], .module [] statements)] }
    workspace := { modules := [], memory := {} }
    events := []
    log := [] }

/-- The scope of the container with the state that entering it has left. -/
def containerScope? : Option (Scope × World) :=
  let entered := Scope.enter containerWorld.tree 0 acceptedSettings.schemaIdentity
    containerWorld.workspace
  entered.result.toOption.map fun scope => (scope, containerWorld.after entered)

/-- The schema of the container. -/
def containerSnapshot? : Option (Snapshot ClassRef) :=
  containerScope?.bind fun entered => (entered.1.snapshot entered.2.workspace).result.toOption

end Sample

/-- The classes of the sample container have names of their own. -/
theorem readDescription_of_readScope_sample :
    ∃ scope world snapshot after description,
      Sample.containerScope? = some (scope, world) ∧ snapshot.entities.length = 3 ∧
      (readScope none scope).run.run world = (.ok snapshot, after) ∧
      Description.ofJson (snapshot.describe ClassRef.name) = .ok description ∧
      ∀ label start, ((readDescription label description).run.run start).1 =
        .ok (snapshot.map ClassRef.name) := by
  have hcheck : Sample.containerSnapshot?.any (fun snapshot => decide
      (snapshot.entities.length = 3 ∧
        (∀ entity ∈ snapshot.entities, entity.name.isBlank = false) ∧
        (∀ accessor ∈ snapshot.accessors, accessor.name.isBlank = false) ∧
        (∀ shape ∈ snapshot.shapes, shape.name.isBlank = false) ∧
        ∀ first ∈ snapshot.shapes, ∀ second ∈ snapshot.shapes,
          first.name = second.name → first = second)) = true := by
    decide +kernel
  obtain ⟨snapshot, hsnapshot, hfacts⟩ := (Option.any_eq_true _ _).1 hcheck
  obtain ⟨hlength, hentities, haccessors, hshapes, hinj⟩ := of_decide_eq_true hfacts
  obtain ⟨⟨scope, world⟩, hscope, hresult⟩ := Option.bind_eq_some_iff.1 hsnapshot
  have hread : (readScope none scope).run.run world =
      (.ok snapshot, ((readScope none scope).run.run world).2) := by
    refine Prod.ext ?_ rfl
    rw [Run.outcome_readScope]
    cases hgiven : (scope.snapshot world.workspace).result with
    | error failure =>
      rw [hgiven] at hresult
      cases hresult
    | ok given =>
      rw [hgiven] at hresult
      exact congrArg Except.ok (Option.some.inj hresult)
  obtain ⟨description, hjson, hdescribed, -⟩ :=
    readDescription_of_readScope hread ClassRef.name
      (fun first hfirst second hsecond => hinj first hfirst second hsecond)
      ⟨hentities, haccessors, hshapes⟩
  exact ⟨scope, world, snapshot, _, description, hscope, hlength, hread, hjson, hdescribed⟩

end QueryScaffold
