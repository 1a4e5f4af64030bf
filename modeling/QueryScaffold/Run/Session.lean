import QueryScaffold.Run.Generation

/-!
# Scopes side by side

Several containers can be in use at once, in any order of entering and leaving.

* `Step`: one thing that happens to the scopes, by the numbers that they have;
* `Session`: the scopes that are in use;
* `Session.step`: the session after a step, with what the step gives.
-/

namespace QueryScaffold

/-- One thing that happens to scopes. -/
inductive Step
  /-- A scope of this number is entered. -/
  | enter (key : Nat) (identity : SchemaIdentity)
  /-- The schema of its container is read. -/
  | read (key : Nat)
  /-- The scope is left, with a failure on its way or without. -/
  | leave (key : Nat) (failure : Option Raised)
  /-- The module of a name is removed from outside. -/
  | unload (name : Text)
deriving DecidableEq

/-- What a step gives. -/
inductive StepResult
  /-- The class of the container that is now in use. -/
  | entered (className : Text)
  | snapshot (snapshot : Snapshot ClassRef)
  /-- The scope was left, and a failure that was on its way goes on. -/
  | left (failure : Option Raised)
  /-- Whether there was a module. -/
  | unloaded (wasThere : Bool)
  | failed (failure : Failure)
  /-- No scope of this number is in use. -/
  | noScope

/-- The scopes that are in use, by number and in the order of entering. -/
abbrev Session := List (Nat × Scope)

namespace Session

/-- The scope of a number. -/
def find? (key : Nat) : Session → Option Scope
  | [] => none
  | (other, scope) :: rest => if other = key then some scope else find? key rest

/-- The session without the scope of a number. -/
def remove (key : Nat) (session : Session) : Session :=
  session.filter fun entry => entry.1 ≠ key

/-- The session after a step, and what the step gives. A step whose scope is not in use does
nothing. -/
def step (session : Session) : Step → Run (Session × StepResult)
  | .enter key identity => do
    match ← Run.outcome (Run.ofTransition (Scope.enter (← get).tree key identity)) with
    | .ok scope => return (session ++ [(key, scope)], .entered scope.containerClass.name)
    | .error failure => return (session, .failed failure)
  | .read key => do
    match session.find? key with
    | none => return (session, .noScope)
    | some scope =>
      match ← Run.outcome (readScope none scope) with
      | .ok snapshot => return (session, .snapshot snapshot)
      | .error failure => return (session, .failed failure)
  | .leave key failure => do
    match session.find? key with
    | none => return (session, .noScope)
    | some scope =>
      match ← Run.outcome (Run.ofTransition scope.leave) with
      | .ok () => return (session.remove key, .left failure)
      | .error replacement => return (session.remove key, .failed replacement)
  | .unload name => do
    let wasThere := (← get).workspace.modules.has name
    modify fun world =>
      { world with
        workspace := { world.workspace with modules := world.workspace.modules.remove name } }
    return (session, .unloaded wasThere)

end Session

end QueryScaffold
