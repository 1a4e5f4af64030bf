import QueryScaffold.Proofs.Container.Loads
import QueryScaffold.Run.Session

/-!
# Steps of a session

What each step of a session does, as an equation on the session and the state of the run. A step
never fails as a whole: a scope that cannot be entered, read or left is among what steps give.

* `Session.run_step_enter`, `run_step_read`, `run_step_leave`, `run_step_unload`: the equations;
* `Session.step_enter_cases`, `step_read`, `step_leave_of_find?`, `step_unload`: what they say about
  the session and the loaded modules;
* `Session.exists_step`: **every step completes**;
* `Session.find?_append_self`, `find?_remove_self`, …: the scope of a number after a step;
* `Session.steps`: the scopes after a history of steps, and `Session.outcomes`: what its steps give,
  with `hasEntered` and `hasLeft` for those that enter or leave a scope;
* `Session.importsReturn`: a history in which no import ends the program.
-/

namespace QueryScaffold

/-! ## Computations -/

/-- The state after an operation on a scope, with what is reported of it. -/
def World.after {α : Type} (world : World) (transition : Transition α) : World :=
  { world with
    workspace := transition.workspace
    events := world.events ++ transition.events
    log := world.log ++ transition.records }

namespace Run

theorem run_check {α : Type} (outcome : Except Failure α) (world : World) :
    (check outcome).run.run world = (outcome, world) := by
  cases outcome <;> rfl

theorem run_ofTransition {α : Type} (operation : Workspace → Transition α) (world : World) :
    (ofTransition operation).run.run world =
      ((operation world.workspace).result, world.after (operation world.workspace)) :=
  run_check _ _

theorem run_bind {α β : Type} (computation : Run α) (next : α → Run β) (world : World) :
    (computation >>= next).run.run world =
      match computation.run.run world with
      | (.ok value, after) => (next value).run.run after
      | (.error failure, after) => (.error failure, after) := by
  show (match computation.run.run world with
      | (outcome, after) => (ExceptT.bindCont next outcome).run after) = _
  rcases computation.run.run world with ⟨_ | _, _⟩ <;> rfl

section Bind

variable {α β : Type} {computation : Run α} {next : α → Run β} {world between after : World}
  {failure : Failure}

theorem run_bind_of_ok {value : α} (h : computation.run.run world = (.ok value, between)) :
    (computation >>= next).run.run world = (next value).run.run between := by
  rw [run_bind, h]

theorem run_bind_of_error (h : computation.run.run world = (.error failure, after)) :
    (computation >>= next).run.run world = (.error failure, after) := by
  rw [run_bind, h]

/-- What succeeds in two parts has succeeded in the first one. -/
theorem exists_of_run_bind_ok {result : β}
    (h : (computation >>= next).run.run world = (.ok result, after)) :
    ∃ value between, computation.run.run world = (.ok value, between) ∧
      (next value).run.run between = (.ok result, after) := by
  rw [run_bind] at h
  rcases hfirst : computation.run.run world with ⟨failure | value, between⟩ <;> rw [hfirst] at h
  · cases h
  · exact ⟨value, between, rfl, h⟩

/-- What fails in two parts has failed in the first one or behind it. -/
theorem run_bind_error_cases (h : (computation >>= next).run.run world = (.error failure, after)) :
    computation.run.run world = (.error failure, after) ∨
      ∃ value between, computation.run.run world = (.ok value, between) ∧
        (next value).run.run between = (.error failure, after) := by
  rw [run_bind] at h
  rcases hfirst : computation.run.run world with ⟨failure | value, between⟩ <;> rw [hfirst] at h
  · cases h
    exact .inl rfl
  · exact .inr ⟨value, between, rfl, h⟩

end Bind

/-- A computation whose outcome is taken up cannot fail. -/
theorem run_outcome_bind {α β : Type} (computation : Run α) (next : Except Failure α → Run β)
    (world : World) :
    (outcome computation >>= next).run.run world =
      (next (computation.run.run world).1).run.run (computation.run.run world).2 := rfl

/-- Reading a description gives what it describes. -/
theorem outcome_readDescription (schema : Option Text) (description : Description)
    (world : World) :
    ((readDescription schema description).run.run world).1 =
      description.snapshot.mapError .schema := by
  rw [readDescription, readSchema, run_bind, run_check]
  cases description.snapshot <;> rfl

/-- Reading a schema gives what the reading of its container gives. -/
theorem outcome_readScope (schema : Option Text) (scope : Scope) (world : World) :
    ((readScope schema scope).run.run world).1 = (scope.snapshot world.workspace).result := by
  rw [readScope, readSchema, run_bind, run_ofTransition]
  cases (scope.snapshot world.workspace).result <;> rfl

/-- Reading a schema changes no file. -/
theorem tree_readScope (schema : Option Text) (scope : Scope) (world : World) :
    ((readScope schema scope).run.run world).2.tree = world.tree := by
  rw [readScope, readSchema, run_bind, run_ofTransition]
  cases (scope.snapshot world.workspace).result <;> rfl

/-- Reading a schema leaves behind what the reading of its container does. -/
theorem workspace_readScope (schema : Option Text) (scope : Scope) (world : World) :
    ((readScope schema scope).run.run world).2.workspace =
      (scope.snapshot world.workspace).workspace := by
  rw [readScope, readSchema, run_bind, run_ofTransition]
  cases (scope.snapshot world.workspace).result <;> rfl

/-- Reading a schema reports what the reading of its container does. -/
theorem events_readScope (schema : Option Text) (scope : Scope) (world : World) :
    ((readScope schema scope).run.run world).2.events =
      world.events ++ (scope.snapshot world.workspace).events := by
  rw [readScope, readSchema, run_bind, run_ofTransition]
  cases (scope.snapshot world.workspace).result <;> rfl

end Run

/-- The step is no opening whose module ends the program while it is imported. -/
def Step.importReturns (world : World) : Step → Bool
  | .enter key identity => !Scope.importEndsProgram world.tree key identity world.workspace
  | _ => true

namespace Session

/-! ## The equations -/

theorem run_step_enter (session : Session) (key : Nat) (identity : SchemaIdentity)
    (world : World) :
    (session.step (.enter key identity)).run.run world =
      (.ok (match (Scope.enter world.tree key identity world.workspace).result with
        | .ok scope => (session ++ [(key, scope)], .entered scope.containerClass.name)
        | .error failure => (session, .failed failure)),
        world.after (Scope.enter world.tree key identity world.workspace)) := by
  have hstep : (session.step (.enter key identity)).run.run world =
      (Run.outcome (Run.ofTransition (Scope.enter world.tree key identity)) >>= fun
        | .ok scope => pure (session ++ [(key, scope)], .entered scope.containerClass.name)
        | .error failure => pure (session, .failed failure)).run.run world := rfl
  rw [hstep, Run.run_outcome_bind, Run.run_ofTransition]
  cases (Scope.enter world.tree key identity world.workspace).result <;> rfl

theorem run_step_read (session : Session) (key : Nat) (world : World) :
    (session.step (.read key)).run.run world =
      match session.find? key with
      | none => (.ok (session, .noScope), world)
      | some scope =>
        (.ok (session,
          match ((readScope none scope).run.run world).1 with
          | .ok snapshot => .snapshot snapshot
          | .error failure => .failed failure),
          ((readScope none scope).run.run world).2) := by
  rw [step]
  cases session.find? key with
  | none => rfl
  | some scope =>
    simp only
    rw [Run.run_outcome_bind]
    cases ((readScope none scope).run.run world).1 <;> rfl

theorem run_step_leave (session : Session) (key : Nat) (failure : Option Raised) (world : World) :
    (session.step (.leave key failure)).run.run world =
      match session.find? key with
      | none => (.ok (session, .noScope), world)
      | some scope =>
        (.ok (session.remove key,
          match (scope.leave world.workspace).result with
          | .ok () => .left failure
          | .error replacement => .failed replacement),
          world.after (scope.leave world.workspace)) := by
  rw [step]
  cases session.find? key with
  | none => rfl
  | some scope =>
    simp only
    rw [Run.run_outcome_bind, Run.run_ofTransition]
    cases (scope.leave world.workspace).result <;> rfl

theorem run_step_unload (session : Session) (name : Text) (world : World) :
    (session.step (.unload name)).run.run world =
      (.ok (session, .unloaded (world.workspace.modules.has name)),
        { world with
          workspace :=
            { world.workspace with modules := world.workspace.modules.remove name } }) := rfl

/-- **Every step completes**, whatever it meets. -/
theorem exists_step (session : Session) (s : Step) (world : World) :
    ∃ next result after, (session.step s).run.run world = (.ok (next, result), after) := by
  cases s with
  | enter key identity =>
    rw [run_step_enter]
    cases (Scope.enter world.tree key identity world.workspace).result with
    | ok scope => exact ⟨_, _, _, rfl⟩
    | error failure => exact ⟨_, _, _, rfl⟩
  | read key =>
    rw [run_step_read]
    cases session.find? key with
    | none => exact ⟨_, _, _, rfl⟩
    | some scope => exact ⟨_, _, _, rfl⟩
  | leave key failure =>
    rw [run_step_leave]
    cases session.find? key with
    | none => exact ⟨_, _, _, rfl⟩
    | some scope => exact ⟨_, _, _, rfl⟩
  | unload name => exact ⟨_, _, _, run_step_unload session name world⟩

/-! ## Steps and loaded modules -/

section Cases

variable {session next : Session} {key : Nat} {world after : World} {result : StepResult}

/-- A step that has given something has given nothing else. -/
theorem eq_of_run_eq {given : Session × StepResult}
    (h : ((.ok given : Except Failure (Session × StepResult)), world) =
      (.ok (next, result), after)) : given.1 = next ∧ given.2 = result ∧ world = after := by
  obtain ⟨hgiven, hworld⟩ := Prod.mk.inj h
  rw [Except.ok.inj hgiven]
  exact ⟨rfl, rfl, hworld⟩

/-- An opening fails and leaves the loaded modules as they were, or it takes a name that is free. -/
theorem step_enter_cases {identity : SchemaIdentity}
    (hreturns : (Step.enter key identity).importReturns world = true)
    (h : (session.step (.enter key identity)).run.run world = (.ok (next, result), after)) :
    ((∃ failure, result = .failed failure) ∧ next = session ∧
      after.workspace.modules = world.workspace.modules) ∨
    ∃ scope, result = .entered scope.containerClass.name ∧ next = session ++ [(key, scope)] ∧
      scope.identity = identity ∧ scope.number = key ∧
      world.workspace.modules.loads identity.containerNamespace = none ∧
      after.workspace.modules.loads =
        Function.update world.workspace.modules.loads identity.containerNamespace
          (some (some key)) := by
  have hend : Scope.importEndsProgram world.tree key identity world.workspace = false := by
    simpa [Step.importReturns] using hreturns
  rw [run_step_enter] at h
  cases hresult : (Scope.enter world.tree key identity world.workspace).result with
  | error failure =>
    rw [hresult] at h
    obtain ⟨rfl, rfl, rfl⟩ := eq_of_run_eq h
    exact .inl ⟨⟨failure, rfl⟩, rfl, Scope.modules_enter_of_error hend hresult⟩
  | ok scope =>
    rw [hresult] at h
    obtain ⟨rfl, rfl, rfl⟩ := eq_of_run_eq h
    exact .inr ⟨scope, rfl, rfl, Scope.loads_enter_of_ok hresult⟩

theorem step_read (h : (session.step (.read key)).run.run world = (.ok (next, result), after)) :
    next = session ∧ after.workspace.modules.loads = world.workspace.modules.loads := by
  rw [run_step_read] at h
  cases hf : session.find? key with
  | none =>
    rw [hf] at h
    obtain ⟨rfl, -, rfl⟩ := eq_of_run_eq h
    exact ⟨rfl, rfl⟩
  | some scope =>
    rw [hf] at h
    obtain ⟨rfl, -, rfl⟩ := eq_of_run_eq h
    refine ⟨rfl, ?_⟩
    rw [Run.workspace_readScope, Scope.loads_snapshot]

/-- A scope that is left gives up its load and nothing else. -/
theorem step_leave_of_find? {failure : Option Raised} {scope : Scope}
    (hf : session.find? key = some scope)
    (h : (session.step (.leave key failure)).run.run world = (.ok (next, result), after)) :
    next = session.remove key ∧
      after.workspace.modules.loads =
        world.workspace.modules.loads.release scope.moduleName scope.number := by
  rw [run_step_leave, hf] at h
  obtain ⟨rfl, -, rfl⟩ := eq_of_run_eq h
  exact ⟨rfl, Scope.loads_leave scope world.workspace⟩

theorem step_leave_of_none {failure : Option Raised} (hf : session.find? key = none)
    (h : (session.step (.leave key failure)).run.run world = (.ok (next, result), after)) :
    next = session ∧ after = world := by
  rw [run_step_leave, hf] at h
  obtain ⟨rfl, -, rfl⟩ := eq_of_run_eq h
  exact ⟨rfl, rfl⟩

theorem step_unload {name : Text}
    (h : (session.step (.unload name)).run.run world = (.ok (next, result), after)) :
    next = session ∧
      after.workspace.modules.loads =
        Function.update world.workspace.modules.loads name none := by
  rw [run_step_unload] at h
  obtain ⟨rfl, -, rfl⟩ := eq_of_run_eq h
  exact ⟨rfl, LoadedModules.loads_remove _ _⟩

end Cases

/-! ## Scopes by number -/

theorem mem_of_find? {session : Session} {key : Nat} {scope : Scope}
    (h : session.find? key = some scope) : (key, scope) ∈ session := by
  induction session with
  | nil => cases h
  | cons entry rest ih =>
    obtain ⟨other, found⟩ := entry
    rw [find?] at h
    split at h
    · next ho =>
      rw [ho, Option.some.inj h]
      exact List.mem_cons_self
    · exact List.mem_cons_of_mem _ (ih h)

theorem mem_remove {session : Session} {key : Nat} {entry : Nat × Scope} :
    entry ∈ session.remove key ↔ entry ∈ session ∧ entry.1 ≠ key := by
  simp [remove]

theorem find?_append_of_ne {session : Session} {key other : Nat} (h : other ≠ key) (scope : Scope) :
    (session ++ [(other, scope)] : Session).find? key = session.find? key := by
  induction session with
  | nil => simp [find?, h]
  | cons entry rest ih =>
    obtain ⟨third, found⟩ := entry
    by_cases ht : third = key <;> simp [find?, ht, ih]

theorem find?_append_self {session : Session} {key : Nat} (h : session.find? key = none)
    (scope : Scope) : (session ++ [(key, scope)] : Session).find? key = some scope := by
  induction session with
  | nil => simp [find?]
  | cons entry rest ih =>
    obtain ⟨other, found⟩ := entry
    by_cases ho : other = key
    · simp [find?, ho] at h
    · simp only [find?, if_neg ho] at h
      simp [find?, ho, ih h]

@[simp]
theorem find?_remove_self (session : Session) (key : Nat) :
    (session.remove key).find? key = none := by
  rw [remove]
  induction session with
  | nil => rfl
  | cons entry rest ih =>
    obtain ⟨other, found⟩ := entry
    by_cases ho : other = key
    · simpa [ho] using ih
    · simpa [ho, find?] using ih

theorem find?_remove_of_ne {session : Session} {key other : Nat} (h : other ≠ key) :
    (session.remove other).find? key = session.find? key := by
  rw [remove]
  induction session with
  | nil => rfl
  | cons entry rest ih =>
    obtain ⟨third, found⟩ := entry
    by_cases ht : third = other
    · subst ht
      simpa [find?, h] using ih
    · by_cases hk : third = key
      · subst hk
        simp [find?, ht]
      · simpa [find?, ht, hk] using ih

/-! ## Histories -/

/-- The scopes that are in use after a history of steps. -/
def steps (session : Session) : List Step → Run Session
  | [] => return session
  | s :: rest => do
    let (next, _) ← session.step s
    next.steps rest

theorem run_steps_cons {session next : Session} {s : Step} {world after : World}
    {result : StepResult} (h : (session.step s).run.run world = (.ok (next, result), after))
    (rest : List Step) :
    (session.steps (s :: rest)).run.run world = (next.steps rest).run.run after := by
  rw [steps, Run.run_bind, h]

/-- The steps of a history with what each of them gives. -/
def outcomes (session : Session) (world : World) : List Step → List (Step × StepResult)
  | [] => []
  | s :: rest =>
    match (session.step s).run.run world with
    | (.ok (next, result), after) => (s, result) :: outcomes next after rest
    | (.error _, _) => []

theorem outcomes_cons {session next : Session} {s : Step} {world after : World}
    {result : StepResult} (h : (session.step s).run.run world = (.ok (next, result), after))
    (rest : List Step) :
    outcomes session world (s :: rest) = (s, result) :: outcomes next after rest := by
  rw [outcomes, h]

/-- The step has entered the scope of the number. -/
def hasEntered (key : Nat) : Step × StepResult → Bool
  | (.enter other _, .entered _) => other = key
  | _ => false

/-- The step has left the scope of the number. -/
def hasLeft (key : Nat) : Step × StepResult → Bool
  | (.leave _ _, .noScope) => false
  | (.leave other _, _) => other = key
  | _ => false

/-- Among the steps of a history, no module that is imported ends the program. -/
def importsReturn (session : Session) (world : World) : List Step → Bool
  | [] => true
  | s :: rest =>
    s.importReturns world &&
      match (session.step s).run.run world with
      | (.ok (next, _), after) => importsReturn next after rest
      | (.error _, _) => true

theorem importsReturn_cons {session next : Session} {s : Step} {world after : World}
    {result : StepResult} (h : (session.step s).run.run world = (.ok (next, result), after))
    {rest : List Step} :
    importsReturn session world (s :: rest) = true ↔
      s.importReturns world = true ∧ importsReturn next after rest = true := by
  rw [importsReturn, h, Bool.and_eq_true]

end Session

end QueryScaffold
