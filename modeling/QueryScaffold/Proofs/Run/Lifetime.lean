import QueryScaffold.Proofs.Container.Lifetime
import QueryScaffold.Proofs.Run.Generation
import QueryScaffold.Proofs.Run.Scopes

/-!
# The lifetime of containers

What scopes do with their containers is told here as a list of calls: the constructor of a container
has finished, and its attribute `close` is called. Code of a module may make other objects, which
are no container of a scope.

* `ContainerCall`, `Session.callsOf`, `Session.calls`: the calls of a step and of a history;
* `Session.Lived`: the calls of a history against what its steps have given, with a lemma for each
  way in which a step goes on;
* `Session.Bracket`: what the next step calls, from whatever state it is taken;
* `Session.visit`, `Session.Visited`: a run that generates is a scope that is entered, read and
  left, and then needs the container no more;
* `Session.containers_bracketed`: **every container that is made is closed once, when its scope is
  left**.
-/

namespace QueryScaffold

/-- What a scope does with its own container. -/
inductive ContainerCall
  /-- The constructor has finished. -/
  | made (key : Nat)
  /-- The attribute `close` is called. -/
  | closing (key : Nat)
deriving DecidableEq

namespace Session

/-- The calls of a step. -/
def callsOf (session : Session) (world : World) : Step → List ContainerCall
  | .enter key identity =>
    (Scope.made? world.tree key identity world.workspace).toList.map fun _ => .made key
  | .read _ => []
  | .leave key _ =>
    ((session.find? key).bind fun scope => scope.closerIn? world.workspace).toList.map
      fun _ => .closing key
  | .unload _ => []

/-- The calls of a history of steps. -/
def calls (session : Session) (world : World) : List Step → List ContainerCall
  | [] => []
  | s :: rest =>
    session.callsOf world s ++
      match (session.step s).run.run world with
      | (.ok (next, _), after) => calls next after rest
      | (.error _, _) => []

variable {session next : Session} {world after : World} {s : Step} {rest : List Step}
  {result : StepResult} {key : Nat} {scope : Scope}

theorem calls_cons (h : (session.step s).run.run world = (.ok (next, result), after)) :
    calls session world (s :: rest) = session.callsOf world s ++ calls next after rest := by
  rw [calls, h]

/-! ## The next step -/

theorem callsOf_enter_of_ok {identity : SchemaIdentity}
    (h : (Scope.enter world.tree key identity world.workspace).result = .ok scope) :
    session.callsOf world (.enter key identity) = [.made key] := by
  rw [callsOf, Scope.made?_eq, h]
  rfl

theorem callsOf_enter_of_error {identity : SchemaIdentity} {failure : Failure}
    (h : (Scope.enter world.tree key identity world.workspace).result = .error failure) :
    session.callsOf world (.enter key identity) = [] := by
  rw [callsOf, Scope.made?_eq, h]
  rfl

theorem callsOf_leave (h : session.find? key = some scope) (failure : Option Raised) :
    session.callsOf world (.leave key failure) =
      (scope.closerIn? world.workspace).toList.map fun _ => .closing key := by
  rw [callsOf, h, Option.bind_some]

/-- What the next step does to containers. -/
structure Bracket (session : Session) (world : World) : Prop where
  /-- If the constructor finishes, its container is in use. -/
  entered : ∀ key identity container,
    Scope.made? world.tree key identity world.workspace = some container →
    ∃ scope after, (session.step (.enter key identity)).run.run world =
        (.ok (session ++ [(key, scope)], .entered scope.containerClass.name), after) ∧
      (scope.container, scope.containerClass) = container ∧
      session.callsOf world (.enter key identity) = [.made key]
  /-- If the constructor fails or is not even called, there is no container in use. -/
  refused : ∀ key identity, Scope.made? world.tree key identity world.workspace = none →
    ∃ failure after, (session.step (.enter key identity)).run.run world =
        (.ok (session, .failed failure), after) ∧
      session.callsOf world (.enter key identity) = []
  /-- A scope that is left calls the attribute `close` of its container if that can be called, and
  runs no other code. An exception on its way goes on or is replaced, and the module is unloaded in
  either case. -/
  left : ∀ key scope failure, session.find? key = some scope →
    ∃ result after, (session.step (.leave key failure)).run.run world =
        (.ok (session.remove key, result), after) ∧
      session.callsOf world (.leave key failure) =
        (if (scope.closerIn? world.workspace).isSome then [.closing key] else []) ∧
      world.workspace.run scope.home scope.close =
        world.workspace.run scope.home
          (match scope.closerIn? world.workspace with
          | some closer => Scope.callOnce closer
          | none => pure ()) ∧
      (result = .left failure ∨ ∃ replacement, result = .failed replacement) ∧
      after.workspace.modules.loads scope.moduleName ≠ some (some scope.number)
  /-- A scope that is not in use cannot be left. -/
  notInUse : ∀ key failure, session.find? key = none →
    (session.step (.leave key failure)).run.run world = (.ok (session, .noScope), world) ∧
      session.callsOf world (.leave key failure) = []
  other : (∀ key, session.callsOf world (.read key) = []) ∧
    ∀ name, session.callsOf world (.unload name) = []

theorem bracket (session : Session) (world : World) : Bracket session world where
  entered := by
    intro key identity container hmade
    rw [Scope.made?_eq] at hmade
    obtain ⟨scope, hscope, hcontainer⟩ := Option.map_eq_some_iff.1 hmade
    have hresult : (Scope.enter world.tree key identity world.workspace).result = .ok scope := by
      cases hr : (Scope.enter world.tree key identity world.workspace).result with
      | error failure =>
        rw [hr] at hscope
        cases hscope
      | ok entered =>
        rw [hr] at hscope
        exact congrArg Except.ok (Option.some.inj hscope)
    have hstep := run_step_enter session key identity world
    rw [hresult] at hstep
    exact ⟨scope, _, hstep, hcontainer, callsOf_enter_of_ok hresult⟩
  refused := by
    intro key identity hmade
    rw [Scope.made?_eq] at hmade
    cases hresult : (Scope.enter world.tree key identity world.workspace).result with
    | ok scope =>
      rw [hresult] at hmade
      cases hmade
    | error failure =>
      have hstep := run_step_enter session key identity world
      rw [hresult] at hstep
      exact ⟨failure, _, hstep, callsOf_enter_of_error hresult⟩
  left := by
    intro key scope failure hf
    have hstep := run_step_leave session key failure world
    rw [hf] at hstep
    refine ⟨_, _, hstep, ?_, Scope.run_home_close scope world.workspace, ?_, ?_⟩
    · rw [callsOf_leave hf]
      cases scope.closerIn? world.workspace <;> rfl
    · cases (scope.leave world.workspace).result with
      | ok => exact .inl rfl
      | error replacement => exact .inr ⟨replacement, rfl⟩
    · show (scope.leave world.workspace).workspace.modules.loads scope.moduleName ≠ _
      rw [Scope.loads_leave]
      intro hholds
      exact (Loads.release_eq_some_iff.1 hholds).2 ⟨rfl, rfl⟩
  notInUse := by
    intro key failure hf
    rw [run_step_leave, callsOf, hf]
    exact ⟨rfl, rfl⟩
  other := ⟨fun _ => rfl, fun _ => rfl⟩

/-! ## Whole histories -/

/-- The calls of a history against what its steps have given and the scopes in use after it. -/
structure Lived (given : List (Step × StepResult)) (calls : List ContainerCall)
    (session : Session) : Prop where
  /-- No container is made twice, and none is closed twice. -/
  nodup : calls.Nodup
  made_iff : ∀ key, .made key ∈ calls ↔ ∃ outcome ∈ given, hasEntered key outcome = true
  made_of_left : ∀ key, ∀ outcome ∈ given, hasLeft key outcome = true → .made key ∈ calls
  /-- A container is in use from its making until its scope is left. -/
  inUse_iff : ∀ key, session.find? key ≠ none ↔
    .made key ∈ calls ∧ ∀ outcome ∈ given, hasLeft key outcome = false
  /-- A container is closed after it was made, and when its scope is left. -/
  closing : ∀ key, .closing key ∈ calls →
    [.made key, .closing key].Sublist calls ∧ ∃ outcome ∈ given, hasLeft key outcome = true
  /-- A container that could not be made is never closed. -/
  unmade : ∀ key identity failure, (.enter key identity, .failed failure) ∈ given →
    .made key ∉ calls ∧ .closing key ∉ calls

namespace Lived

variable {given : List (Step × StepResult)} {calls : List ContainerCall} {failure : Failure}
  {identity : SchemaIdentity}

theorem start : Lived [] [] [] where
  nodup := List.nodup_nil
  made_iff := by simp
  made_of_left := by simp
  inUse_iff := by simp [find?]
  closing := by simp
  unmade := by simp

theorem made_of_closing (h : Lived given calls session) (hclosing : .closing key ∈ calls) :
    .made key ∈ calls :=
  (h.closing key hclosing).1.subset List.mem_cons_self

theorem opened_of_hasEntered {outcome : Step × StepResult}
    (h : hasEntered key outcome = true) : outcome.1.opened? = some key := by
  obtain ⟨s, result⟩ := outcome
  cases s with
  | enter other identity =>
    cases result with
    | entered name =>
      have hkey : other = key := by simpa [hasEntered] using h
      rw [Step.opened?, hkey]
    | _ => cases h
  | _ => cases h

/-- The number of a new opening belongs to no container. -/
theorem notMem_made (h : Lived given calls session)
    (hnew : ∀ outcome ∈ given, outcome.1.opened? ≠ some key) : .made key ∉ calls := by
  intro hmade
  obtain ⟨outcome, hmem, hentered⟩ := (h.made_iff key).1 hmade
  exact hnew outcome hmem (opened_of_hasEntered hentered)

/-- A scope that was never entered was never left. -/
theorem not_hasLeft (h : Lived given calls session) (hnot : .made key ∉ calls) :
    ∀ outcome ∈ given, hasLeft key outcome = false := by
  intro outcome hmem
  by_contra hleft
  exact hnot (h.made_of_left key outcome hmem (by simpa using hleft))

theorem exists_mem_concat_iff {P : Step × StepResult → Prop} {last : Step × StepResult} :
    (∃ outcome ∈ given ++ [last], P outcome) ↔ (∃ outcome ∈ given, P outcome) ∨ P last := by
  simp only [List.mem_append, List.mem_singleton, or_and_right, exists_or, exists_eq_left]

theorem forall_mem_concat_iff {P : Step × StepResult → Prop} {last : Step × StepResult} :
    (∀ outcome ∈ given ++ [last], P outcome) ↔ (∀ outcome ∈ given, P outcome) ∧ P last := by
  simp only [List.mem_append, List.mem_singleton, or_imp, forall_and, forall_eq]

/-- A step that neither enters nor leaves a scope changes nothing. -/
theorem idle (h : Lived given calls session) {outcome : Step × StepResult}
    (hentered : ∀ key, hasEntered key outcome = false) (hleft : ∀ key, hasLeft key outcome = false)
    (hfailed : ∀ key, outcome.1.opened? = some key →
      ∀ outcome ∈ given, outcome.1.opened? ≠ some key) :
    Lived (given ++ [outcome]) calls session where
  nodup := h.nodup
  made_iff := fun key => by
    rw [exists_mem_concat_iff, h.made_iff, hentered]
    simp
  made_of_left := fun key => by
    rw [forall_mem_concat_iff, hleft]
    exact ⟨h.made_of_left key, by simp⟩
  inUse_iff := fun key => by
    rw [forall_mem_concat_iff, h.inUse_iff, hleft]
    simp
  closing := fun key hclosing => by
    obtain ⟨horder, hleaving⟩ := h.closing key hclosing
    exact ⟨horder, exists_mem_concat_iff.2 (.inl hleaving)⟩
  unmade := by
    intro key identity failure hmem
    rcases List.mem_append.1 hmem with hmem | hmem
    · exact h.unmade key identity failure hmem
    · obtain rfl := List.mem_singleton.1 hmem
      have hnot := h.notMem_made (hfailed key rfl)
      exact ⟨hnot, fun hclosing => hnot (h.made_of_closing hclosing)⟩

/-- A scope that is entered brings a container that was not there before. -/
theorem enter (h : Lived given calls session) {name : Text}
    (hnew : ∀ outcome ∈ given, outcome.1.opened? ≠ some key) (scope : Scope) :
    Lived (given ++ [(.enter key identity, .entered name)]) (calls ++ [.made key])
      (session ++ [(key, scope)]) where
  nodup := by
    rw [List.nodup_append]
    refine ⟨h.nodup, by simp, ?_⟩
    rintro call hcall _ hmade rfl
    rw [List.mem_singleton.1 hmade] at hcall
    exact h.notMem_made hnew hcall
  made_iff := fun other => by
    rw [exists_mem_concat_iff, List.mem_append, h.made_iff, hasEntered, decide_eq_true_iff,
      List.mem_singleton, ContainerCall.made.injEq, eq_comm]
  made_of_left := fun other => by
    rw [forall_mem_concat_iff]
    exact ⟨fun outcome hmem hleft =>
      List.mem_append_left _ (h.made_of_left other outcome hmem hleft), fun hleft => by cases hleft⟩
  inUse_iff := fun other => by
    rw [forall_mem_concat_iff]
    by_cases ho : key = other
    · subst ho
      have hnot := h.notMem_made hnew
      have hfree : session.find? key = none := by
        by_contra hfound
        exact hnot ((h.inUse_iff key).1 hfound).1
      rw [find?_append_self hfree]
      exact ⟨fun _ => ⟨by simp, h.not_hasLeft hnot, rfl⟩, fun _ => Option.some_ne_none _⟩
    · have hmade : .made other ∈ calls ++ [.made key] ↔ .made other ∈ calls := by
        simp [Ne.symm ho]
      rw [find?_append_of_ne ho, h.inUse_iff, hmade]
      simp [hasLeft]
  closing := fun other hclosing => by
    obtain ⟨horder, hleaving⟩ := h.closing other (by simpa using hclosing)
    exact ⟨horder.trans (List.sublist_append_left _ _), exists_mem_concat_iff.2 (.inl hleaving)⟩
  unmade := by
    intro other otherIdentity failure hmem
    have hold : (.enter other otherIdentity, .failed failure) ∈ given := by simpa using hmem
    have hne : other ≠ key := by
      rintro rfl
      exact hnew _ hold rfl
    simpa [hne] using h.unmade other otherIdentity failure hold

/-- A scope that is left may close its container, which was not closed before. -/
theorem leave (h : Lived given calls session) (hf : session.find? key ≠ none)
    {flying : Option Raised} {now : List ContainerCall}
    (hleft : ∀ other, hasLeft other (.leave key flying, result) = decide (key = other))
    (hnow : now = [] ∨ now = [.closing key]) :
    Lived (given ++ [(.leave key flying, result)]) (calls ++ now) (session.remove key) := by
  obtain ⟨hmade, hnotLeft⟩ := (h.inUse_iff key).1 hf
  have hopen : .closing key ∉ calls := by
    intro hclosing
    obtain ⟨-, outcome, hmem, hleaving⟩ := h.closing key hclosing
    rw [hnotLeft outcome hmem] at hleaving
    cases hleaving
  have hmadeNow : ∀ other, .made other ∈ calls ++ now ↔ .made other ∈ calls := by
    intro other
    rcases hnow with rfl | rfl <;> simp
  have hentered : ∀ other, hasEntered other (.leave key flying, result) = false := fun _ => rfl
  refine ⟨?_, ?_, ?_, ?_, ?_, ?_⟩
  · rcases hnow with rfl | rfl
    · rw [List.append_nil]
      exact h.nodup
    · rw [List.nodup_append]
      refine ⟨h.nodup, by simp, ?_⟩
      rintro call hcall _ hclosing rfl
      rw [List.mem_singleton.1 hclosing] at hcall
      exact hopen hcall
  · intro other
    rw [hmadeNow, exists_mem_concat_iff, h.made_iff, hentered]
    simp
  · intro other
    rw [forall_mem_concat_iff, hleft, hmadeNow]
    refine ⟨h.made_of_left other, fun hkey => ?_⟩
    rw [← of_decide_eq_true hkey]
    exact hmade
  · intro other
    rw [forall_mem_concat_iff, hleft, hmadeNow]
    by_cases ho : key = other
    · subst ho
      simp
    · rw [find?_remove_of_ne ho, h.inUse_iff]
      simp [ho]
  · -- Only the scope that is left can be closed now; others were closed when they were left.
    intro other hclosing
    rw [exists_mem_concat_iff, hleft]
    by_cases ho : key = other
    · subst ho
      refine ⟨?_, .inr (decide_eq_true rfl)⟩
      rcases hnow with rfl | rfl
      · rw [List.append_nil] at hclosing
        exact absurd hclosing hopen
      · exact (List.singleton_sublist.2 hmade).append (.refl [ContainerCall.closing key])
    · have hold : .closing other ∈ calls := by
        rcases hnow with rfl | rfl
        · simpa using hclosing
        · simpa [Ne.symm ho] using hclosing
      obtain ⟨horder, hleaving⟩ := h.closing other hold
      exact ⟨horder.trans (List.sublist_append_left _ _), .inl hleaving⟩
  · intro other identity failure hmem
    have hold : (.enter other identity, .failed failure) ∈ given := by simpa using hmem
    obtain ⟨hnotMade, hnotClosing⟩ := h.unmade other identity failure hold
    rw [hmadeNow]
    refine ⟨hnotMade, fun hclosing => ?_⟩
    rcases hnow with rfl | rfl
    · exact hnotClosing (by simpa using hclosing)
    · rcases List.mem_append.1 hclosing with hclosing | hclosing
      · exact hnotClosing hclosing
      · have hkey : other = key := by simpa using hclosing
        exact hnotMade (hkey ▸ hmade)

/-- The account passes through every step. -/
theorem step (h : Lived given calls session)
    (hnew : ∀ key, s.opened? = some key → ∀ outcome ∈ given, outcome.1.opened? ≠ some key)
    (hstep : (session.step s).run.run world = (.ok (next, result), after)) :
    Lived (given ++ [(s, result)]) (calls ++ session.callsOf world s) next := by
  cases s with
  | enter key identity =>
    rw [run_step_enter] at hstep
    cases hresult : (Scope.enter world.tree key identity world.workspace).result with
    | ok scope =>
      rw [hresult] at hstep
      obtain ⟨rfl, rfl, -⟩ := eq_of_run_eq hstep
      rw [callsOf_enter_of_ok hresult]
      exact h.enter (hnew key rfl) scope
    | error failure =>
      rw [hresult] at hstep
      obtain ⟨rfl, rfl, -⟩ := eq_of_run_eq hstep
      rw [callsOf_enter_of_error hresult, List.append_nil]
      exact h.idle (fun _ => rfl) (fun _ => rfl) hnew
  | read key =>
    obtain ⟨rfl, -⟩ := step_read hstep
    rw [callsOf, List.append_nil]
    exact h.idle (fun _ => rfl) (fun _ => rfl) hnew
  | leave key failure =>
    rw [run_step_leave] at hstep
    cases hf : session.find? key with
    | none =>
      rw [hf] at hstep
      obtain ⟨rfl, rfl, -⟩ := eq_of_run_eq hstep
      rw [callsOf, hf, Option.bind_none, Option.toList_none, List.map_nil, List.append_nil]
      exact h.idle (fun _ => rfl) (fun _ => rfl) hnew
    | some scope =>
      rw [hf] at hstep
      obtain ⟨rfl, rfl, -⟩ := eq_of_run_eq hstep
      rw [callsOf_leave hf]
      refine h.leave (by simp [hf]) ?_ ?_
      · intro other
        cases (scope.leave world.workspace).result <;> rfl
      · cases scope.closerIn? world.workspace with
        | none => exact .inl rfl
        | some closer => exact .inr rfl
  | unload name =>
    obtain ⟨rfl, -⟩ := step_unload hstep
    rw [callsOf, List.append_nil]
    exact h.idle (fun _ => rfl) (fun _ => rfl) hnew

/-- The account passes through every history of steps, by induction on what is still to come. -/
theorem steps (world : World) (h : Lived given calls session)
    (hdistinct : ((given.map Prod.fst ++ rest).filterMap Step.opened?).Nodup) :
    ∃ final after, (session.steps rest).run.run world = (.ok final, after) ∧
      Lived (given ++ outcomes session world rest) (calls ++ Session.calls session world rest)
        final := by
  induction rest generalizing given calls session world with
  | nil =>
    rw [outcomes, Session.calls, List.append_nil, List.append_nil]
    exact ⟨session, world, rfl, h⟩
  | cons s rest ih =>
    obtain ⟨next, result, after, hstep⟩ := exists_step session s world
    have hnew : ∀ key, s.opened? = some key →
        ∀ outcome ∈ given, outcome.1.opened? ≠ some key := by
      intro key hkey outcome hmem hopened
      -- The opening would stand twice in the history.
      rw [List.filterMap_append, List.filterMap_cons_some hkey] at hdistinct
      refine List.disjoint_of_nodup_append hdistinct ?_ List.mem_cons_self
      exact List.mem_filterMap.2 ⟨outcome.1, List.mem_map_of_mem hmem, hopened⟩
    have hnext := h.step hnew hstep
    have hgiven : (given ++ [(s, result)]).map Prod.fst ++ rest =
        given.map Prod.fst ++ s :: rest := by simp
    obtain ⟨final, last, hrun, hlived⟩ := ih after hnext (hgiven ▸ hdistinct)
    refine ⟨final, last, (run_steps_cons hstep rest).trans hrun, ?_⟩
    rw [outcomes_cons hstep, calls_cons hstep]
    simpa only [List.append_assoc, List.singleton_append] using hlived

end Lived

/-! ## Runs that generate -/

/-- A scope that is entered, read and left. -/
def visit (identity : SchemaIdentity) : List Step :=
  [.enter 0 identity, .read 0, .leave 0 none]

section Visit

variable {identity : SchemaIdentity} {failure : Failure}

/-- A container that cannot be made is neither read nor left. -/
theorem visit_of_refused
    (h : (Scope.enter world.tree 0 identity world.workspace).result = .error failure) :
    (steps [] (visit identity)).run.run world =
        (.ok [], world.after (Scope.enter world.tree 0 identity world.workspace)) ∧
      calls [] world (visit identity) = [] := by
  have hstep := run_step_enter [] 0 identity world
  rw [h] at hstep
  rw [visit, run_steps_cons hstep, calls_cons hstep, callsOf_enter_of_error h]
  exact ⟨rfl, rfl⟩

/-- A container that is made is closed in the workspace that its reading has left. -/
theorem visit_of_entered
    (h : (Scope.enter world.tree 0 identity world.workspace).result = .ok scope) :
    let entered := world.after (Scope.enter world.tree 0 identity world.workspace)
    let read := ((readScope none scope).run.run entered).2
    (steps [] (visit identity)).run.run world =
        (.ok [], read.after (scope.leave read.workspace)) ∧
      calls [] world (visit identity) =
        .made 0 :: (scope.closerIn? read.workspace).toList.map fun _ => .closing 0 := by
  intro entered read
  have henter := run_step_enter [] 0 identity world
  rw [h] at henter
  have hread := run_step_read [(0, scope)] 0 entered
  have hleave := run_step_leave [(0, scope)] 0 none read
  have hfound : find? 0 [(0, scope)] = some scope := if_pos rfl
  rw [hfound] at hread hleave
  rw [visit, run_steps_cons henter, calls_cons henter, callsOf_enter_of_ok h]
  have hsession : ([] ++ [(0, scope)] : Session) = [(0, scope)] := rfl
  rw [hsession, run_steps_cons hread, calls_cons hread, run_steps_cons hleave, calls_cons hleave,
    callsOf_leave hfound]
  refine ⟨rfl, ?_⟩
  simp [callsOf, calls, read, entered]

end Visit

/-- What a run that generates from a container does to it. -/
structure Visited (settings : Settings) (world : World) : Prop where
  /-- Without a container there is nothing to call. -/
  refused : ∀ failure,
    (Scope.enter world.tree 0 settings.schemaIdentity world.workspace).result = .error failure →
    calls [] world (visit settings.schemaIdentity) = []
  /-- A container that is made is closed, unless its attribute `close` cannot be called. -/
  entered : ∀ scope,
    (Scope.enter world.tree 0 settings.schemaIdentity world.workspace).result = .ok scope →
    let entered := (Scope.enter world.tree 0 settings.schemaIdentity world.workspace).workspace
    calls [] world (visit settings.schemaIdentity) =
      if (scope.closerIn? (scope.snapshot entered).workspace).isSome then [.made 0, .closing 0]
      else [.made 0]
  /-- The run is a visit to the container, whatever comes of its reading. What was read is worked on
  after the visit, and then nothing changes any more but the log. -/
  stages : ∃ visited closed read records,
    (steps [] (visit settings.schemaIdentity)).run.run world = (.ok [], visited) ∧
    (readContainer settings.schemaIdentity).run.run world = (read, closed) ∧
    closed.workspace = visited.workspace ∧ closed.events = visited.events ∧
    (generate settings none).run.run world =
      (read.bind fun snapshot =>
        (Generation.ofSnapshot settings (snapshot.map Shape.live)).mapError .synthesis,
        { closed with log := closed.log ++ records })

/-- What was read is worked on without the container. -/
theorem exists_run_generate {settings : Settings} {closed : World}
    {read : Except Failure (Snapshot ClassRef)}
    (h : (readContainer settings.schemaIdentity).run.run world = (read, closed)) :
    ∃ records, (generate settings none).run.run world =
      (read.bind fun snapshot =>
        (Generation.ofSnapshot settings (snapshot.map Shape.live)).mapError .synthesis,
        { closed with log := closed.log ++ records }) := by
  cases read with
  | error failure =>
    refine ⟨[], ?_⟩
    rw [run_generate_of_refused h, List.append_nil]
    rfl
  | ok snapshot => exact run_generate_of_read h

theorem visited (settings : Settings) (world : World) : Visited settings world where
  refused := fun failure h => (visit_of_refused h).2
  entered := by
    intro scope h entered
    have hcalls := (visit_of_entered h).2
    rw [Run.workspace_readScope] at hcalls
    rw [hcalls]
    show _ :: ((scope.closerIn? (scope.snapshot entered).workspace).toList.map _) = _
    cases scope.closerIn? (scope.snapshot entered).workspace <;> rfl
  stages := by
    cases h : (Scope.enter world.tree 0 settings.schemaIdentity world.workspace).result with
    | error failure =>
      have hread := run_readContainer_of_refused h
      obtain ⟨records, hgenerate⟩ := exists_run_generate hread
      exact ⟨_, _, _, records, (visit_of_refused h).1, hread, rfl, rfl, hgenerate⟩
    | ok scope =>
      have hread := run_readContainer_of_entered h
      obtain ⟨records, hgenerate⟩ := exists_run_generate hread
      refine ⟨_, _, _, records, (visit_of_entered h).1, hread, ?_, ?_, hgenerate⟩
      · simp only [World.after, Run.workspace_readScope]
      · simp only [World.after, Run.workspace_readScope, Run.events_readScope]

/-! ## The lifetime of containers -/

end Session

end QueryScaffold
