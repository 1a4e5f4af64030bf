import QueryScaffold.Container.Scope

/-!
# Runs

A run works on files and on what code shares, and reports what it does.

* `World`: the state of a run;
* `Run`: a computation that may fail, where the state after a failure counts as well;
* `Run.report`, `Run.check`, `Run.ofTransition`: its steps.
-/

namespace QueryScaffold

/-- The state of a run: what it works on, and what it has reported. -/
structure World where
  tree : Tree
  workspace : Workspace
  events : List ContainerEvent
  log : List Record

/-- A computation on the state of a run that may fail. -/
abbrev Run (α : Type) := ExceptT Failure (StateM World) α

namespace Run

/-- Adds a notice on a schema to the log. -/
def report (schema : Option Text) (notice : Notice) : Run Unit :=
  modify fun world => { world with log := world.log ++ [⟨schema, notice⟩] }

/-- Adds notices on a schema to the log. -/
def reportAll (schema : Option Text) (notices : List Notice) : Run Unit :=
  modify fun world => { world with log := world.log ++ notices.map (Record.mk schema) }

/-- The value of an outcome, or its failure. -/
def check {α : Type} : Except Failure α → Run α
  | .ok value => pure value
  | .error failure => throw failure

/-- An operation on a scope, with everything that is reported of it. -/
def ofTransition {α : Type} (operation : Workspace → Transition α) : Run α := do
  let transition := operation (← get).workspace
  modify fun world =>
    { world with
      workspace := transition.workspace
      events := world.events ++ transition.events
      log := world.log ++ transition.records }
  check transition.result

/-- The outcome of a computation, whether it is a value or a failure. -/
def outcome {α : Type} (computation : Run α) : Run (Except Failure α) :=
  ExceptT.lift computation.run

end Run

end QueryScaffold
