import QueryScaffold.Proofs.Container.Isolation

/-!
# From the constructor to the closer

A container is made when its scope is entered, and closed when the scope is left. Nothing else
happens to it through its scope: entering ends with the constructor, and leaving starts with the
look for an attribute `close` and calls it once if it can be called.

* `Environment.onlyMissing_part`: asking a value for a part can only fail since it is missing;
* `Scope.closer?`, `Scope.closerIn?`: the attribute `close`, if it can be called;
* `Scope.run_home_close`: **leaving a scope calls this attribute once**;
* `Scope.made?`, `Scope.made?_eq`: **a scope is entered if the constructor of its container
  finishes, and only then**.
-/

namespace QueryScaffold

/-! ## Parts that are missing -/

/-- If there is no value, the fault is that a part is missing. -/
def OnlyMissing (outcome : Except CodeFault Value) : Prop :=
  ∀ fault, outcome = .error fault → fault.toRaised.isOf "AttributeError" = true

namespace OnlyMissing

theorem ok (value : Value) : OnlyMissing (.ok value) := by
  intro fault h
  cases h

theorem of_kind {fault : CodeFault}
    (h : fault.toRaised.families = exceptionAncestry "AttributeError") :
    OnlyMissing (.error fault) := by
  rintro _ ⟨⟩
  rw [Raised.isOf, h]
  decide +kernel

theorem noAttribute (owner name : Text) : OnlyMissing (.error (.noAttribute owner name)) :=
  of_kind rfl

theorem noPart (name : Text) : OnlyMissing (.error (.noPart name)) := of_kind rfl

theorem ite {condition : Prop} [Decidable condition] {first second : Except CodeFault Value}
    (hfirst : OnlyMissing first) (hsecond : OnlyMissing second) :
    OnlyMissing (if condition then first else second) := by
  split
  · exact hfirst
  · exact hsecond

end OnlyMissing

namespace Environment

variable (env : Environment) (name : Text)

theorem onlyMissing_classPart (ref : ClassRef) : OnlyMissing (env.classPart ref name) := by
  rw [classPart]
  repeat' split
  all_goals first | exact .ok _ | exact .noPart _ | exact .noAttribute _ _

theorem onlyMissing_typePart (type : Value) (own : NameTable) (ref : Option ClassRef) :
    OnlyMissing (env.typePart type own ref name) := by
  unfold typePart
  extract_lets usual
  clear_value usual
  split
  · exact .ok _
  · refine .ite (.ok _) ?_
    split
    · exact .ite (.noPart _) (env.onlyMissing_classPart name _)
    · exact .noPart _

theorem onlyMissing_valuePart (value : Value) : OnlyMissing (env.valuePart value name) := by
  unfold valuePart
  extract_lets ofInstance
  clear_value ofInstance
  repeat' split
  all_goals first | exact .ok _ | exact .noAttribute _ _

/-- Asking a value for a part can only fail since the part is missing. -/
theorem onlyMissing_part (value : Value) : OnlyMissing (env.part name value) := by
  fun_induction part env name value with
  | case1 ref => exact env.onlyMissing_classPart name ref
  | case2 f => exact env.onlyMissing_typePart name _ _ _
  | case3 => exact .ok _
  | case4 => exact .ok _
  | case5 ref arguments => exact env.onlyMissing_classPart name ref
  | case6 => exact env.onlyMissing_typePart name _ _ _
  | case7 => exact .ok _
  | case8 => exact .ok _
  | case9 => exact .noPart _
  | case10 inner remarks own hown hreserved ih => exact ih
  | case11 => exact env.onlyMissing_typePart name _ _ _
  | case12 => exact env.onlyMissing_valuePart name _

end Environment

namespace Eval

theorem run_bind {α β : Type} (code : Eval α) (next : α → Eval β) (env : Environment) :
    (code >>= next).run.run env =
      match code.run.run env with
      | (.ok value, after) => (next value).run.run after
      | (.error fault, after) => (.error fault, after) := by
  have hbind : (code >>= next).run.run env =
      (ExceptT.bindCont next (code.run.run env).1).run (code.run.run env).2 := rfl
  rw [hbind]
  rcases code.run.run env with ⟨_ | _, _⟩ <;> rfl

theorem run_tryCatch {α : Type} (code : Eval α) (handler : CodeFault → Eval α)
    (env : Environment) :
    (tryCatch code handler : Eval α).run.run env =
      match code.run.run env with
      | (.ok value, after) => (.ok value, after)
      | (.error fault, after) => (handler fault).run.run after := by
  simp only [tryCatch, tryCatchThe, MonadExceptOf.tryCatch, ExceptT.tryCatch, ExceptT.mk,
    ExceptT.run, StateT.run, bind, StateT.bind]
  rcases code env with ⟨_ | _, _⟩ <;> rfl

/-- A part that may be missing is asked for without any effect. -/
theorem run_partOr_null (value : Value) (name : Text) (env : Environment) :
    (partOr value name (pure .null)).run.run env =
      (.ok (match env.part name value with
        | .ok found => found
        | .error _ => .null), env) := by
  have hpart : (part value name).run.run env = (env.part name value, env) := by
    show (ofExcept (env.part name value)).run.run env = _
    cases env.part name value <;> rfl
  rw [partOr, run_tryCatch, hpart]
  cases hfound : env.part name value with
  | ok found => rfl
  | error fault =>
    simp only
    rw [if_pos (env.onlyMissing_part name value fault hfound)]
    rfl

end Eval

/-- A module cannot tell apart code that does the same in its environment. -/
theorem ContainerModule.run_congr {α : Type} {m : ContainerModule} {memory : Memory}
    {code other : Eval α}
    (h : code.run.run (m.environment memory) = other.run.run (m.environment memory)) :
    m.run memory code = m.run memory other := by
  rw [run, run, h]

/-! ## Closing -/

namespace Scope

variable {scope : Scope} {workspace : Workspace}

/-- The attribute `close` of the container, if it can be called. -/
def closer? (scope : Scope) (env : Environment) : Option Value :=
  let found := match env.part "close" scope.container with
    | .ok found => found
    | .error _ => .null
  if env.isCallable found then some found else none

/-- One call of an attribute, without arguments and with no use for what it gives. -/
def callOnce (closer : Value) : Eval Unit := do
  let _ ← interpreter.call {} closer {}

/-- A container is closed by one call of its attribute `close`, and by nothing if there is no such
attribute that can be called. -/
theorem run_close (scope : Scope) (env : Environment) :
    scope.close.run.run env =
      match scope.closer? env with
      | some closer => (callOnce closer).run.run env
      | none => (.ok (), env) := by
  rw [close, Eval.run_bind, Eval.run_partOr_null, closer?]
  simp only
  generalize (match env.part "close" scope.container with
    | .ok found => found
    | .error _ => .null) = found
  rw [Eval.run_bind]
  show (if env.isCallable found then _ else _ : Eval Unit).run.run env = _
  split
  · rfl
  · rfl

/-- The attribute that is called when the scope is left in a workspace. -/
def closerIn? (scope : Scope) (workspace : Workspace) : Option Value :=
  scope.closer? ((workspace.current scope.home).environment (workspace.memory.ofLoad scope.number))

/-- **A scope that is left runs one call of the attribute `close`**, or nothing at all. -/
theorem run_home_close (scope : Scope) (workspace : Workspace) :
    workspace.run scope.home scope.close =
      workspace.run scope.home
        (match scope.closerIn? workspace with
        | some closer => callOnce closer
        | none => pure ()) := by
  have hran : workspace.ranIn scope.close scope.home =
      workspace.ranIn (match scope.closerIn? workspace with
        | some closer => callOnce closer
        | none => pure ()) scope.home := by
    refine ContainerModule.run_congr ?_
    rw [run_close]
    show (match scope.closerIn? workspace with
      | some closer => _
      | none => _) = _
    cases scope.closerIn? workspace <;> rfl
  show ({ workspace := workspace.after (workspace.ranIn scope.close scope.home)
          events := (workspace.ranIn scope.close scope.home).events
          result := (workspace.ranIn scope.close scope.home).outcome } : Effect Unit) = _
  rw [hran]
  rfl

/-! ## Making -/

/-- What the constructor makes when a scope is to be entered, if it finishes: the container with its
class. -/
def made? (tree : Tree) (number : Nat) (identity : SchemaIdentity) (workspace : Workspace) :
    Option (Value × ClassRef) :=
  match statements? tree identity workspace.modules with
  | .error _ => none
  | .ok statements =>
    let file := (tree.absolute (Path.ofText identity.moduleLocation)).text
    let loaded := ContainerModule.load number identity.containerNamespace file
      (workspace.memory.ofLoad number) statements
    let found := loaded.result.run loaded.memory (Eval.containerClass identity.schemaName)
    match loaded.outcome, found.outcome with
    | .ok (), .ok (some ref) =>
      (found.result.run found.memory (construct ref identity.connectionString)).outcome.toOption
    | _, _ => none

/-- **A scope is entered if the constructor of its container finishes, and only then.** It holds
what the constructor has made. -/
theorem made?_eq (tree : Tree) (number : Nat) (identity : SchemaIdentity) (workspace : Workspace) :
    made? tree number identity workspace =
      (enter tree number identity workspace).result.toOption.map fun scope =>
        (scope.container, scope.containerClass) := by
  rw [made?, enter]
  cases statements? tree identity workspace.modules with
  | error failure => rfl
  | ok statements =>
    simp only
    generalize ContainerModule.load number identity.containerNamespace
      (tree.absolute (Path.ofText identity.moduleLocation)).text
      (workspace.memory.ofLoad number) statements = loaded
    cases loaded.outcome with
    | error fault => rfl
    | ok =>
      simp only [makeContainer]
      generalize loaded.result.run loaded.memory (Eval.containerClass identity.schemaName) = found
      rcases found.outcome with _ | _ | ref
      · rfl
      · rfl
      · simp only
        cases (found.result.run found.memory
          (construct ref identity.connectionString)).outcome <;> rfl

end Scope

end QueryScaffold
