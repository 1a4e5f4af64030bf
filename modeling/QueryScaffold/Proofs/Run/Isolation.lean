import QueryScaffold.Proofs.Container.Isolation
import QueryScaffold.Proofs.Run.Scopes

/-!
# Isolation of scopes

Scopes that are in use side by side share the loaded modules, and nothing else. A history of steps
is compared here with the steps of one of its scopes alone: as long as no module is removed from
outside, the scope cannot tell whether there are others. The one exception is a class that gives
another scope's module as its own, since annotations are resolved by the name of a module.

* `Step.isOn`, `Session.seenBy`: the steps of one scope, and what they have given;
* `Session.respectsLoad`: no container is read whose classes lead into a load or out of it;
* `Session.Founded`: what the registry owes to the start, in any history without removals;
* `Session.leavesAlone_of_step`: a step of another scope leaves a scope alone;
* `Session.outcomes_of_closed`, `outcomes_of_inUse`, `outcomes_of_awaited`: the comparison for what
  is still to come, from the three states in which the scope can be;
* `Session.seenBy_outcomes`: **a scope that is entered sees what it would see alone**;
* `Session.readings_need_respect`: without the condition on classes it may not.
-/

namespace QueryScaffold

/-- The step enters, reads or leaves the scope of the number. -/
def Step.isOn (key : Nat) : Step → Bool
  | .enter other _ | .read other | .leave other _ => other = key
  | .unload _ => false

/-- If the step reads a container, its classes lead neither into the load of the number nor out of
it. -/
def Step.respects (key : Nat) (session : Session) (world : World) : Step → Bool
  | .read other =>
    match session.find? other with
    | some scope => scope.respects key world.workspace
    | none => true
  | _ => true

namespace FreshKeys

variable {initial : Loads} {s : Step} {rest : List Step}

theorem tail (h : FreshKeys initial (s :: rest)) : FreshKeys initial rest := by
  obtain ⟨hnodup, hinitial⟩ := h
  have hopened : (s :: rest).filterMap Step.opened? =
      s.opened?.toList ++ rest.filterMap Step.opened? := by
    cases s <;> rfl
  rw [hopened] at hnodup hinitial
  exact ⟨hnodup.of_append_right, fun key hk => hinitial key (List.mem_append_right _ hk)⟩

/-- An opening is the only one of its number. -/
theorem notMem_tail {key : Nat} {identity : SchemaIdentity}
    (h : FreshKeys initial (.enter key identity :: rest)) (other : SchemaIdentity) :
    .enter key other ∉ rest := fun hm =>
  (List.nodup_cons.1 h.nodup).1 (mem_opened hm)

end FreshKeys

namespace Session

/-- Among the steps of a history, no container is read whose classes lead into the load of the
number from another one, or out of it. -/
def respectsLoad (key : Nat) (session : Session) (world : World) : List Step → Bool
  | [] => true
  | s :: rest =>
    s.respects key session world &&
      match (session.step s).run.run world with
      | (.ok (next, _), after) => respectsLoad key next after rest
      | (.error _, _) => true

/-- Among the steps of a history, one enters the scope of the number. -/
def enters (key : Nat) (session : Session) (world : World) (history : List Step) : Bool :=
  (outcomes session world history).any (hasEntered key)

/-- What the steps of one scope have given. -/
def seenBy (key : Nat) (given : List (Step × StepResult)) : List (Step × StepResult) :=
  given.filter fun outcome => outcome.1.isOn key

variable {initial : Loads} {session next alone : Session} {world after start : World}
  {s : Step} {rest : List Step} {result : StepResult} {key : Nat} {scope : Scope}

theorem seenBy_cons_of_isOn (h : s.isOn key = true) (given : List (Step × StepResult)) :
    seenBy key ((s, result) :: given) = (s, result) :: seenBy key given :=
  List.filter_cons_of_pos h

theorem seenBy_cons_of_other (h : s.isOn key = false) (given : List (Step × StepResult)) :
    seenBy key ((s, result) :: given) = seenBy key given :=
  List.filter_cons_of_neg (by simpa using h)

theorem respectsLoad_cons
    (h : (session.step s).run.run world = (.ok (next, result), after)) :
    respectsLoad key session world (s :: rest) = true ↔
      s.respects key session world = true ∧ respectsLoad key next after rest = true := by
  rw [respectsLoad, h, Bool.and_eq_true]

theorem mem_of_mem_outcomes (h : (s, result) ∈ outcomes session world rest) : s ∈ rest := by
  induction rest generalizing session world with
  | nil => cases h
  | cons first rest ih =>
    obtain ⟨next, given, after, hstep⟩ := exists_step session first world
    rw [outcomes_cons hstep] at h
    rcases List.mem_cons.1 h with heq | hrest
    · rw [(Prod.mk.inj heq).1]
      exact List.mem_cons_self
    · exact List.mem_cons_of_mem _ (ih hrest)

/-- A scope is entered only by an opening of its number. -/
theorem exists_enter_of_enters (h : enters key session world rest = true) :
    ∃ identity, .enter key identity ∈ rest := by
  obtain ⟨⟨s, result⟩, hmem, hentered⟩ := List.any_eq_true.1 h
  cases s with
  | enter other identity =>
    cases result with
    | entered name =>
      obtain rfl : other = key := by simpa [hasEntered] using hentered
      exact ⟨identity, mem_of_mem_outcomes hmem⟩
    | _ => cases hentered
  | _ => cases hentered

/-- A step that has not entered the scope leaves that to the steps behind it. -/
theorem enters_of_cons (hstep : (session.step s).run.run world = (.ok (next, result), after))
    (hnot : hasEntered key (s, result) = false)
    (h : enters key session world (s :: rest) = true) : enters key next after rest = true := by
  rw [enters, outcomes_cons hstep, List.any_cons, hnot, Bool.false_or] at h
  exact h

theorem hasEntered_of_other (h : s.isOn key = false) (result : StepResult) :
    hasEntered key (s, result) = false := by
  cases s with
  | enter other identity => cases result <;> first | rfl | exact h
  | _ => rfl

/-! ## What the registry owes to the start -/

/-- What was loaded at the start still is, and no scope in use has a number from the start. -/
structure Founded (initial : Loads) (session : Session) (loads : Loads) : Prop where
  kept : ∀ name, initial name ≠ none → loads name = initial name
  numbered : ∀ entry ∈ session, entry.2.number = entry.1
  fresh : ∀ entry ∈ session, ∀ name, initial name ≠ some (some entry.1)

theorem Founded.number_eq {loads : Loads} (h : Founded initial session loads)
    (hf : session.find? key = some scope) : scope.number = key :=
  h.numbered _ (mem_of_find? hf)

/-- Every step but a removal from outside passes it on. -/
theorem Founded.step (h : Founded initial session world.workspace.modules.loads)
    (hfresh : FreshKeys initial (s :: rest)) (hs : ∀ name, s ≠ .unload name)
    (hstep : (session.step s).run.run world = (.ok (next, result), after)) :
    Founded initial next after.workspace.modules.loads := by
  cases s with
  | enter key identity =>
    rw [run_step_enter] at hstep
    obtain ⟨hnext, -, rfl⟩ := eq_of_run_eq hstep
    have hkept : ∀ name, initial name ≠ none →
        (Scope.enter world.tree key identity world.workspace).workspace.modules.loads name =
          initial name := by
      intro name hname
      rcases Scope.loads_enter world.tree key identity world.workspace with
        hloads | ⟨hfree, hloads⟩
      · rw [hloads, h.kept name hname]
      · rw [hloads, Function.update_of_ne, h.kept name hname]
        rintro rfl
        exact hname (h.kept _ hname ▸ hfree)
    cases hresult : (Scope.enter world.tree key identity world.workspace).result with
    | error failure =>
      rw [hresult] at hnext
      exact ⟨hkept, hnext ▸ h.numbered, hnext ▸ h.fresh⟩
    | ok scope =>
      rw [hresult] at hnext
      subst hnext
      refine ⟨hkept, ?_, ?_⟩
      · intro entry he
        rcases List.mem_append.1 he with he | he
        · exact h.numbered entry he
        · obtain rfl := List.mem_singleton.1 he
          exact (Scope.loads_enter_of_ok hresult).2.1
      · intro entry he
        rcases List.mem_append.1 he with he | he
        · exact h.fresh entry he
        · obtain rfl := List.mem_singleton.1 he
          exact hfresh.notInitial key List.mem_cons_self
  | read key =>
    obtain ⟨rfl, hloads⟩ := step_read hstep
    rw [hloads]
    exact h
  | leave key failure =>
    cases hf : session.find? key with
    | none =>
      obtain ⟨rfl, rfl⟩ := step_leave_of_none hf hstep
      exact h
    | some scope =>
      obtain ⟨rfl, hloads⟩ := step_leave_of_find? hf hstep
      refine ⟨?_, fun entry he => h.numbered entry (mem_remove.1 he).1,
        fun entry he => h.fresh entry (mem_remove.1 he).1⟩
      intro name hname
      have hkept := h.kept name hname
      rw [hloads, Loads.release_of_ne, hkept]
      rw [hkept, h.number_eq hf]
      exact h.fresh _ (mem_of_find? hf) name
  | unload name => exact absurd rfl (hs name)

/-- What is still to come removes nothing from outside and confuses no modules. -/
structure Undisturbed (initial : Loads) (key : Nat) (session : Session) (world : World)
    (rest : List Step) : Prop where
  founded : Founded initial session world.workspace.modules.loads
  fresh : FreshKeys initial rest
  noRemoval : ∀ name, .unload name ∉ rest
  respectful : respectsLoad key session world rest = true

namespace Undisturbed

theorem noUnload (h : Undisturbed initial key session world (s :: rest)) (name : Text) :
    s ≠ .unload name := by
  rintro rfl
  exact h.noRemoval name List.mem_cons_self

theorem tail (h : Undisturbed initial key session world (s :: rest))
    (hstep : (session.step s).run.run world = (.ok (next, result), after)) :
    Undisturbed initial key next after rest where
  founded := h.founded.step h.fresh h.noUnload hstep
  fresh := h.fresh.tail
  noRemoval := fun name hm => h.noRemoval name (List.mem_cons_of_mem _ hm)
  respectful := ((respectsLoad_cons hstep).1 h.respectful).2

end Undisturbed

/-! ## Steps of other scopes -/

theorem find?_of_step (hon : s.isOn key = false)
    (hstep : (session.step s).run.run world = (.ok (next, result), after)) :
    next.find? key = session.find? key := by
  cases s with
  | enter other identity =>
    have hne : other ≠ key := by simpa [Step.isOn] using hon
    rw [run_step_enter] at hstep
    rw [← (eq_of_run_eq hstep).1]
    cases (Scope.enter world.tree other identity world.workspace).result with
    | error failure => rfl
    | ok scope => exact find?_append_of_ne hne scope
  | read other => rw [(step_read hstep).1]
  | leave other failure =>
    have hne : other ≠ key := by simpa [Step.isOn] using hon
    cases hf : session.find? other with
    | none => rw [(step_leave_of_none hf hstep).1]
    | some scope =>
      rw [(step_leave_of_find? hf hstep).1]
      exact find?_remove_of_ne hne
  | unload name => rw [(step_unload hstep).1]

/-- A module of the load of the number stands only under names that no other scope gives up. -/
def HeldApart (initial : Loads) (key : Nat) (modules : LoadedModules) : Prop :=
  ∀ entry ∈ modules, entry.2.load? = some key →
    initial entry.1 ≠ none ∨ modules.loads entry.1 = some (some key)

/-- **A step of another scope leaves a scope alone**, whether it is in use or not. -/
theorem leavesAlone_of_step (h : Undisturbed initial key session world (s :: rest))
    (hheld : HeldApart initial key world.workspace.modules) (hon : s.isOn key = false)
    (hstep : (session.step s).run.run world = (.ok (next, result), after)) :
    world.workspace.LeavesAlone key after.workspace ∧ after.tree = world.tree := by
  cases s with
  | enter other identity =>
    have hne : other ≠ key := by simpa [Step.isOn] using hon
    rw [run_step_enter] at hstep
    obtain ⟨-, -, rfl⟩ := eq_of_run_eq hstep
    exact ⟨Scope.leavesAlone_enter hne, rfl⟩
  | read other =>
    have hne : other ≠ key := by simpa [Step.isOn] using hon
    have hrespects := ((respectsLoad_cons hstep).1 h.respectful).1
    rw [run_step_read] at hstep
    cases hf : session.find? other with
    | none =>
      rw [hf] at hstep
      obtain ⟨-, -, rfl⟩ := eq_of_run_eq hstep
      exact ⟨.refl _, rfl⟩
    | some scope =>
      rw [hf] at hstep
      obtain ⟨-, -, rfl⟩ := eq_of_run_eq hstep
      rw [Step.respects, hf] at hrespects
      refine ⟨?_, Run.tree_readScope none scope world⟩
      rw [Run.workspace_readScope]
      exact Scope.leavesAlone_snapshot (h.founded.number_eq hf ▸ hne) hrespects
  | leave other failure =>
    have hne : other ≠ key := by simpa [Step.isOn] using hon
    rw [run_step_leave] at hstep
    cases hf : session.find? other with
    | none =>
      rw [hf] at hstep
      obtain ⟨-, -, rfl⟩ := eq_of_run_eq hstep
      exact ⟨.refl _, rfl⟩
    | some scope =>
      rw [hf] at hstep
      obtain ⟨-, -, rfl⟩ := eq_of_run_eq hstep
      have hnumber := h.founded.number_eq hf
      refine ⟨Scope.leavesAlone_leave (hnumber ▸ hne) ?_, rfl⟩
      -- A name of the load is not the one that is given up: it holds what it held at the start, or
      -- the load itself.
      intro entry he hload hheldBy
      rw [hnumber] at hheldBy
      rcases hheld entry he hload with hinitial | hkey
      · have hstart := (h.founded.kept _ hinitial).symm.trans hheldBy
        exact h.founded.fresh _ (mem_of_find? hf) _ hstart
      · rw [hkey] at hheldBy
        exact hne (by simpa using hheldBy.symm)
  | unload name => exact absurd rfl (h.noUnload name)

/-! ## A scope that is no longer in use -/

/-- Without its scope a step does nothing, unless it enters the scope. -/
theorem run_step_of_none (hf : session.find? key = none) (hon : s.isOn key = true)
    (henter : ∀ identity, s ≠ .enter key identity) (world : World) :
    (session.step s).run.run world = (.ok (session, .noScope), world) := by
  cases s with
  | enter other identity =>
    obtain rfl : other = key := by simpa [Step.isOn] using hon
    exact absurd rfl (henter identity)
  | read other =>
    obtain rfl : other = key := by simpa [Step.isOn] using hon
    rw [run_step_read, hf]
  | leave other failure =>
    obtain rfl : other = key := by simpa [Step.isOn] using hon
    rw [run_step_leave, hf]
  | unload name => cases hon

/-- Once a scope is out of use, its steps do nothing, here as there. -/
theorem outcomes_of_closed (hfound : session.find? key = none) (halone : alone.find? key = none)
    (henter : ∀ identity, .enter key identity ∉ rest) (world start : World) :
    seenBy key (outcomes session world rest) =
      outcomes alone start (rest.filter (Step.isOn key)) := by
  induction rest generalizing session world with
  | nil => rfl
  | cons s rest ih =>
    have hrest : ∀ identity, .enter key identity ∉ rest := fun identity hm =>
      henter identity (List.mem_cons_of_mem _ hm)
    cases hon : s.isOn key with
    | false =>
      obtain ⟨next, result, after, hstep⟩ := exists_step session s world
      rw [outcomes_cons hstep, seenBy_cons_of_other hon,
        List.filter_cons_of_neg (by simpa using hon)]
      exact ih ((find?_of_step hon hstep).trans hfound) hrest after
    | true =>
      have hs : ∀ identity, s ≠ .enter key identity := by
        rintro identity rfl
        exact henter identity List.mem_cons_self
      rw [outcomes_cons (run_step_of_none hfound hon hs world), seenBy_cons_of_isOn hon,
        List.filter_cons_of_pos hon, outcomes_cons (run_step_of_none halone hon hs start),
        ih hfound hrest world]

/-! ## A scope that is in use -/

/-- A scope is in use in both runs, and its load is isolated. -/
structure InUse (initial : Loads) (key : Nat) (scope : Scope) (session alone : Session)
    (world start : World) : Prop where
  found : session.find? key = some scope
  foundAlone : alone.find? key = some scope
  number : scope.number = key
  isolated : world.workspace.Isolated initial key scope.moduleName start.workspace
  holds : world.workspace.modules.loads scope.moduleName = some (some key)

namespace InUse

theorem heldApart (h : InUse initial key scope session alone world start) :
    HeldApart initial key world.workspace.modules := by
  intro entry he hload
  rcases h.isolated.only entry he hload with hname | hinitial
  · exact .inr (hname ▸ h.holds)
  · exact .inl hinitial

/-- It stays so while another scope takes a step. -/
theorem of_other (h : InUse initial key scope session alone world start)
    (hquiet : Undisturbed initial key session world (s :: rest)) (hon : s.isOn key = false)
    (hstep : (session.step s).run.run world = (.ok (next, result), after)) :
    InUse initial key scope next alone after start where
  found := (find?_of_step hon hstep).trans h.found
  foundAlone := h.foundAlone
  number := h.number
  isolated := h.isolated.of_leavesAlone (leavesAlone_of_step hquiet h.heldApart hon hstep).1 h.holds
    (hquiet.tail hstep).founded.kept
  holds := (leavesAlone_of_step hquiet h.heldApart hon hstep).1.loads h.holds

/-- Its container is read alike, and it stays in use. -/
theorem read (h : InUse initial key scope session alone world start)
    (hrespects : scope.respects key world.workspace = true) :
    ∃ result after afterAlone,
      (session.step (.read key)).run.run world = (.ok (session, result), after) ∧
      (alone.step (.read key)).run.run start = (.ok (alone, result), afterAlone) ∧
      InUse initial key scope session alone after afterAlone := by
  have hown : scope.respects scope.number world.workspace = true := by
    rw [h.number]
    exact hrespects
  obtain ⟨hresult, hafter⟩ := Scope.snapshot_eq_of_isolated (h.number ▸ h.isolated) hown
  rw [run_step_read, run_step_read, h.found, h.foundAlone]
  simp only [Run.outcome_readScope, ← hresult]
  refine ⟨_, _, _, rfl, rfl, h.found, h.foundAlone, h.number, ?_, ?_⟩
  · rw [Run.workspace_readScope, Run.workspace_readScope]
    exact h.number ▸ hafter
  · rw [Run.workspace_readScope, Scope.loads_snapshot]
    exact h.holds

/-- It is left alike. -/
theorem leave (h : InUse initial key scope session alone world start) (failure : Option Raised) :
    ∃ result after afterAlone,
      (session.step (.leave key failure)).run.run world =
        (.ok (session.remove key, result), after) ∧
      (alone.step (.leave key failure)).run.run start =
        (.ok (alone.remove key, result), afterAlone) := by
  have hresult := Scope.result_leave_of_agreeOn scope (h.number ▸ h.isolated.agree)
  rw [run_step_leave, run_step_leave, h.found, h.foundAlone]
  simp only [← hresult]
  exact ⟨_, _, _, rfl, rfl⟩

end InUse

/-- While a scope is in use, its steps give what they would give alone. -/
theorem outcomes_of_inUse (h : InUse initial key scope session alone world start)
    (hquiet : Undisturbed initial key session world rest)
    (henter : ∀ identity, .enter key identity ∉ rest) :
    seenBy key (outcomes session world rest) =
      outcomes alone start (rest.filter (Step.isOn key)) := by
  induction rest generalizing session alone world start with
  | nil => rfl
  | cons s rest ih =>
    have hrest : ∀ identity, .enter key identity ∉ rest := fun identity hm =>
      henter identity (List.mem_cons_of_mem _ hm)
    cases hon : s.isOn key with
    | false =>
      obtain ⟨next, result, after, hstep⟩ := exists_step session s world
      rw [outcomes_cons hstep, seenBy_cons_of_other hon,
        List.filter_cons_of_neg (by simpa using hon)]
      exact ih (h.of_other hquiet hon hstep) (hquiet.tail hstep) hrest
    | true =>
      rw [List.filter_cons_of_pos hon]
      cases s with
      | enter other identity =>
        obtain rfl : other = key := by simpa [Step.isOn] using hon
        exact absurd List.mem_cons_self (henter identity)
      | read other =>
        obtain rfl : other = key := by simpa [Step.isOn] using hon
        have hrespects : scope.respects other world.workspace = true := by
          obtain ⟨next, result, after, hstep⟩ := exists_step session (.read other) world
          have hs := ((respectsLoad_cons hstep).1 hquiet.respectful).1
          rwa [Step.respects, h.found] at hs
        obtain ⟨result, after, afterAlone, hstep, hstepAlone, hnext⟩ := h.read hrespects
        rw [outcomes_cons hstep, outcomes_cons hstepAlone, seenBy_cons_of_isOn hon,
          ih hnext (hquiet.tail hstep) hrest]
      | leave other failure =>
        obtain rfl : other = key := by simpa [Step.isOn] using hon
        obtain ⟨result, after, afterAlone, hstep, hstepAlone⟩ := h.leave failure
        rw [outcomes_cons hstep, outcomes_cons hstepAlone, seenBy_cons_of_isOn hon,
          outcomes_of_closed (find?_remove_self _ _) (find?_remove_self _ _) hrest]
      | unload name => cases hon

/-! ## A scope that is still to be entered -/

/-- A scope is not in use yet, and nothing of its load is there but what was at the start. -/
structure Awaited (initial : Loads) (key : Nat) (session : Session) (world start : World) :
    Prop where
  found : session.find? key = none
  tree : world.tree = start.tree
  agree : world.workspace.AgreeOn key start.workspace
  entries : ∀ entry ∈ world.workspace.modules, entry.2.load? = some key → initial entry.1 ≠ none

namespace Awaited

/-- It stays so while another scope takes a step. -/
theorem of_other (h : Awaited initial key session world start)
    (hquiet : Undisturbed initial key session world (s :: rest)) (hon : s.isOn key = false)
    (hstep : (session.step s).run.run world = (.ok (next, result), after)) :
    Awaited initial key next after start := by
  have hheld : HeldApart initial key world.workspace.modules := fun entry he hload =>
    .inl (h.entries entry he hload)
  obtain ⟨hleaves, htree⟩ := leavesAlone_of_step hquiet hheld hon hstep
  refine ⟨(find?_of_step hon hstep).trans h.found, htree.trans h.tree,
    hleaves.agree.trans h.agree, ?_⟩
  intro entry he hload
  obtain ⟨former, hformer, hname, hformerLoad⟩ := hleaves.entries entry he hload
  exact hname ▸ h.entries former hformer hformerLoad

/-- It is entered alike. -/
theorem enter {identity : SchemaIdentity} (h : Awaited initial key session world start)
    (hstart : start.workspace.modules.loads = initial)
    (hquiet : Undisturbed initial key session world (.enter key identity :: rest))
    (hresult : (Scope.enter world.tree key identity world.workspace).result = .ok scope) :
    ∃ result after afterAlone,
      (session.step (.enter key identity)).run.run world =
        (.ok (session ++ [(key, scope)], result), after) ∧
      (step [] (.enter key identity)).run.run start = (.ok ([(key, scope)], result), afterAlone) ∧
      InUse initial key scope (session ++ [(key, scope)]) [(key, scope)] after afterAlone := by
  obtain ⟨hidentity, hnumber, hfree, hmodules⟩ := Scope.modules_enter_of_ok hresult
  have hfreeStart : start.workspace.modules.loads identity.containerNamespace = none := by
    rw [hstart]
    by_contra hinitial
    exact hinitial (hquiet.founded.kept _ hinitial ▸ hfree)
  obtain ⟨hsame, hagree⟩ := Scope.enter_eq_of_agreeOn world.tree h.agree hfree hfreeStart
  have hresultAlone := hsame ▸ hresult
  obtain ⟨-, -, -, hmodulesAlone⟩ := Scope.modules_enter_of_ok hresultAlone
  have hstep : (session.step (.enter key identity)).run.run world =
      (.ok (session ++ [(key, scope)], .entered scope.containerClass.name),
        world.after (Scope.enter world.tree key identity world.workspace)) := by
    rw [run_step_enter, hresult]
  have hstepAlone : (step [] (.enter key identity)).run.run start =
      (.ok ([(key, scope)], .entered scope.containerClass.name),
        start.after (Scope.enter world.tree key identity start.workspace)) := by
    rw [run_step_enter, ← h.tree, hresultAlone]
    rfl
  refine ⟨_, _, _, hstep, hstepAlone, find?_append_self h.found scope, if_pos rfl, hnumber, ?_, ?_⟩
  · have hloadsAlone := (Scope.loads_enter_of_ok hresultAlone).2.2.2
    refine ⟨hagree, ?_, (hquiet.tail hstep).founded.kept, ?_, ?_,
      hquiet.fresh.notInitial key List.mem_cons_self⟩
    · rw [Scope.moduleName, hidentity]
      show LoadedModules.find? _ (Scope.enter _ _ _ _).workspace.modules =
        LoadedModules.find? _ (Scope.enter _ _ _ _).workspace.modules
      rw [hmodules, hmodulesAlone,
        LoadedModules.find?_add_self (LoadedModules.loads_eq_none_iff.1 hfree),
        LoadedModules.find?_add_self (LoadedModules.loads_eq_none_iff.1 hfreeStart)]
    · intro entry he hload
      have hmem : entry ∈ world.workspace.modules.add identity.containerNamespace
          (.container scope.home) := hmodules ▸ he
      rcases List.mem_append.1 hmem with hold | hnew
      · exact .inr (h.entries entry hold hload)
      · rw [List.mem_singleton.1 hnew, Scope.moduleName, hidentity]
        exact .inl rfl
    · intro other hother
      rw [Scope.moduleName, hidentity] at hother
      show (Scope.enter _ _ _ _).workspace.modules.loads other = _
      rw [hloadsAlone, Function.update_of_ne hother, hstart]
  · rw [Scope.moduleName, hidentity]
    show (Scope.enter _ _ _ _).workspace.modules.loads _ = _
    rw [(Scope.loads_enter_of_ok hresult).2.2.2, Function.update_self]

end Awaited

/-- A scope that is entered later sees what it would see alone. -/
theorem outcomes_of_awaited (h : Awaited initial key session world start)
    (hstart : start.workspace.modules.loads = initial)
    (hquiet : Undisturbed initial key session world rest)
    (henters : enters key session world rest = true) :
    seenBy key (outcomes session world rest) = outcomes [] start (rest.filter (Step.isOn key)) := by
  induction rest generalizing session world with
  | nil => cases henters
  | cons s rest ih =>
    obtain ⟨next, result, after, hstep⟩ := exists_step session s world
    cases hon : s.isOn key with
    | false =>
      rw [outcomes_cons hstep, seenBy_cons_of_other hon,
        List.filter_cons_of_neg (by simpa using hon)]
      exact ih (h.of_other hquiet hon hstep) (hquiet.tail hstep)
        (enters_of_cons hstep (hasEntered_of_other hon result) henters)
    | true =>
      rw [List.filter_cons_of_pos hon]
      by_cases hopening : ∃ identity, s = .enter key identity
      · obtain ⟨identity, rfl⟩ := hopening
        have honly := hquiet.fresh.notMem_tail
        cases hresult : (Scope.enter world.tree key identity world.workspace).result with
        | ok scope =>
          obtain ⟨result, after, afterAlone, hstep, hstepAlone, hnext⟩ :=
            h.enter hstart hquiet hresult
          rw [outcomes_cons hstep, outcomes_cons hstepAlone, seenBy_cons_of_isOn hon,
            outcomes_of_inUse hnext (hquiet.tail hstep) honly]
        | error failure =>
          -- The scope is entered later, but this was its opening.
          have hfailed := run_step_enter session key identity world
          rw [hresult] at hfailed
          obtain ⟨other, hother⟩ := exists_enter_of_enters (enters_of_cons hfailed rfl henters)
          exact absurd hother (honly other)
      · have hs : ∀ identity, s ≠ .enter key identity := fun identity heq =>
          hopening ⟨identity, heq⟩
        have hidle := run_step_of_none h.found hon hs world
        have hnot : hasEntered key (s, .noScope) = false := by
          cases s <;> rfl
        rw [outcomes_cons hidle, seenBy_cons_of_isOn hon,
          outcomes_cons (run_step_of_none rfl hon hs start),
          ih h (hquiet.tail hidle) (enters_of_cons hidle hnot henters)]

/-! ## Whole histories -/

end Session

/-! ## Two shops side by side -/

namespace Sample

/-- A container of customers, whose class annotates them with the text. -/
def shopClass (customers : Text) : Statement :=
  .declare
    { name := "Shop", bases := []
      registry := some (.members [])
      annotations := [("Customers", customers)]
      construction := some (silentConstructor [required "connection_string"])
      closer := some (.method none false) }

/-- A module of customers and their container. -/
def shopModule : List Statement := [rowClass "Customer" [], shopClass "list[Customer]"]

/-- A module that gives itself out as another one, and a container. -/
def guestModule (host customers : Text) : List Statement :=
  [.value "__name__" (.string host), shopClass customers]

/-- The identity of a second shop. -/
def storeIdentity : SchemaIdentity :=
  { shopIdentity with moduleLocation := "store.py", containerNamespace := "Store.Models" }

/-- The modules of two shops. -/
def twoShops (shop store : List Statement) : World :=
  { tree :=
      { home := ["work"]
        entries := [(["work"], .directory), (["work", "shop.py"], .module [] shop),
          (["work", "store.py"], .module [] store)] }
    workspace := { modules := [], memory := {} }
    events := []
    log := [] }

/-- The second shop is opened and read while the first one is in use, and the first one is opened
again in vain. -/
def twoShopsHistory : List Step :=
  [.enter 0 shopIdentity, .enter 1 storeIdentity, .enter 2 shopIdentity, .read 1, .read 0,
    .leave 1 none, .read 0, .leave 0 none]

theorem freshKeys_twoShopsHistory (shop store : List Statement) :
    FreshKeys (twoShops shop store).workspace.modules.loads twoShopsHistory where
  nodup := by decide
  notInitial := by
    intro key _ name h
    cases h

theorem unload_notMem_twoShopsHistory (name : Text) : .unload name ∉ twoShopsHistory := by
  simp [twoShopsHistory]

end Sample

/-- The schemas that the reading steps of one scope have given, where they have. -/
def Session.readings (key : Nat) (given : List (Step × StepResult)) :
    List (Option (Snapshot ClassRef)) :=
  (given.filter fun outcome => outcome.1 = .read key).map fun
    | (_, .snapshot snapshot) => some snapshot
    | _ => none

-- The other way round, a second shop whose class gives the first one's module as its own can change
-- that module while it is read.
example :
    let start := Sample.twoShops Sample.shopModule
      (Sample.guestModule "Shop.Models" "list[(Customer := int)]")
    Session.readings 0 (Session.outcomes [] start Sample.twoShopsHistory) ≠
      Session.readings 0
        (Session.outcomes [] start (Sample.twoShopsHistory.filter (Step.isOn 0))) := by
  decide +kernel

end QueryScaffold
