import QueryScaffold.Proofs.Run.GeneratedMethods
import QueryScaffold.Proofs.Run.Steps

/-!
# The parts of a run

A run without a description enters a scope, reads its container and leaves the scope, and only then
looks at what it has read. The equations say what state each part starts from, also where the part
before it has failed.

* `run_readContainer_of_refused`, `run_readContainer_of_entered`: the schema of a container, whose
  scope is left whatever becomes of the reading;
* `run_generate_of_refused`, `run_generate_of_read`: **what becomes of a schema changes nothing but
  the log**;
* `run_run_of_refused`: a run that generates nothing writes nothing.
-/

namespace QueryScaffold

variable {settings : Settings} {identity : SchemaIdentity} {world after : World}
  {failure : Failure}

/-! ## Reading -/

section Reading

variable {scope : Scope}

/-- A scope that cannot be entered is neither read nor left. -/
theorem run_readContainer_of_refused
    (h : (Scope.enter world.tree 0 identity world.workspace).result = .error failure) :
    (readContainer identity).run.run world =
      (.error failure, world.after (Scope.enter world.tree 0 identity world.workspace)) := by
  have hstart : (readContainer identity).run.run world =
      (Run.ofTransition (Scope.enter world.tree 0 identity) >>= fun scope => do
        let outcome ← Run.outcome (readScope (some identity.schemaName) scope)
        Run.ofTransition scope.leave
        Run.check outcome).run.run world := rfl
  rw [hstart, Run.run_bind, Run.run_ofTransition, h]

/-- A scope that is entered is read and left. A failure to leave it takes the place of what was
read. -/
theorem run_readContainer_of_entered
    (h : (Scope.enter world.tree 0 identity world.workspace).result = .ok scope) :
    (readContainer identity).run.run world =
      let entered := world.after (Scope.enter world.tree 0 identity world.workspace)
      let read := (readScope (some identity.schemaName) scope).run.run entered
      let left := scope.leave read.2.workspace
      (left.result.bind fun _ => read.1, read.2.after left) := by
  have hstart : (readContainer identity).run.run world =
      (Run.ofTransition (Scope.enter world.tree 0 identity) >>= fun scope => do
        let outcome ← Run.outcome (readScope (some identity.schemaName) scope)
        Run.ofTransition scope.leave
        Run.check outcome).run.run world := rfl
  rw [hstart, Run.run_bind, Run.run_ofTransition, h]
  simp only
  rw [Run.run_outcome_bind, Run.run_bind, Run.run_ofTransition]
  cases (scope.leave _).result with
  | error failure => rfl
  | ok => exact Run.run_check _ _

end Reading

/-! ## Generating -/

section Generating

variable {snapshot : Snapshot ClassRef}

/-- Without a schema nothing is generated. -/
theorem run_generate_of_refused
    (h : (readContainer settings.schemaIdentity).run.run world = (.error failure, after)) :
    (generate settings none).run.run world = (.error failure, after) := by
  have hread : (readSource settings none).run.run world = (.error failure, after) := by
    rw [readSource, Run.run_bind, h]
  rw [generate, Run.run_bind, hread]

/-- **A schema that was read is matched and rendered without its container.** What comes of it
depends on the settings and the schema only, and nothing is changed on the way but the log. -/
theorem run_generate_of_read
    (h : (readContainer settings.schemaIdentity).run.run world = (.ok snapshot, after)) :
    ∃ records, (generate settings none).run.run world =
      ((Generation.ofSnapshot settings (snapshot.map Shape.live)).mapError .synthesis,
        { after with log := after.log ++ records }) := by
  have hread : (readSource settings none).run.run world = (.ok (snapshot.map .live), after) := by
    rw [readSource, Run.run_bind, h]
    rfl
  rw [generate, Run.run_bind, hread]
  simp only
  rw [Run.run_bind, run_generateSource]
  cases Generation.ofSnapshot settings (snapshot.map Shape.live) with
  | error fault => exact ⟨_, rfl⟩
  | ok generation =>
    let schema := some settings.schemaIdentity.schemaName
    refine ⟨(snapshot.map Shape.live).warnings.map (Record.mk schema) ++
      [⟨schema, .rendered generation.file.queryClass.methods.length
        generation.matching.unmatched.length⟩], ?_⟩
    rw [← List.append_assoc]
    rfl

end Generating

/-- A run that generates nothing writes nothing. -/
theorem run_run_of_refused {description : Option Description}
    (h : (generate settings description).run.run world = (.error failure, after)) :
    (run settings description).run.run world = (.error failure, after) := by
  rw [run, Run.run_bind, h]

end QueryScaffold
