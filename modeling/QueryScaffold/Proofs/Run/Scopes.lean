import Mathlib.Data.List.Nodup
import QueryScaffold.Container.Sample
import QueryScaffold.Proofs.Container.Loads
import QueryScaffold.Proofs.Run.Steps

/-!
# Loaded modules under interleaved scopes

Any number of scopes may be in use side by side, and all of them load their modules into one
registry, from which modules may also be removed from outside. What the registry holds after any
history of such steps is said in terms of the start, the scopes in use and the removals.

* `FreshKeys`: every opening has a number of its own, which stands for the identity of its module;
* `Session.UnloadedSince`, `Session.UnloadedBetween`: a name was removed from outside after an
  opening, or between two of them;
* `Session.Tracked`: the invariant, with a lemma for each way in which a step can change it;
* `Session.Accounted`: what the invariant says about the registry as a whole;
* `Session.NextStep`: what a step does to the registry, from whatever state it is taken;
* `Session.accounted_steps`: **every history completes, and leaves the registry accounted for**.
-/

namespace QueryScaffold

/-- The number of the opening that a step is. -/
def Step.opened? : Step → Option Nat
  | .enter key _ => some key
  | _ => none

/-- Every opening has a number of its own, which no module had at the start: the number names the
module that the opening loads, and every load makes a new module. -/
structure FreshKeys (initial : Loads) (history : List Step) : Prop where
  nodup : (history.filterMap Step.opened?).Nodup
  notInitial : ∀ key ∈ history.filterMap Step.opened?, ∀ name, initial name ≠ some (some key)

namespace FreshKeys

variable {initial : Loads} {history : List Step}

theorem mem_opened {key : Nat} {identity : SchemaIdentity} (h : .enter key identity ∈ history) :
    key ∈ history.filterMap Step.opened? :=
  List.mem_filterMap.2 ⟨_, h, rfl⟩

theorem of_append {rest : List Step} (h : FreshKeys initial (history ++ rest)) :
    FreshKeys initial history := by
  obtain ⟨hnodup, hinitial⟩ := h
  rw [List.filterMap_append] at hnodup hinitial
  exact ⟨hnodup.of_append_left, fun key hk => hinitial key (List.mem_append_left _ hk)⟩

/-- The number of a new opening was not used before. -/
theorem notMem_opened {key : Nat} {identity : SchemaIdentity}
    (h : FreshKeys initial (history ++ [.enter key identity])) :
    key ∉ history.filterMap Step.opened? := by
  have hnodup := h.nodup
  rw [List.filterMap_append] at hnodup
  intro hk
  exact List.disjoint_of_nodup_append hnodup hk List.mem_cons_self

end FreshKeys

namespace Session

/-! ## Removals from outside -/

/-- A name was removed from outside after the opening of a number. -/
def UnloadedSince (history : List Step) (key : Nat) (name : Text) : Prop :=
  ∃ before identity rest, history = before ++ .enter key identity :: rest ∧ .unload name ∈ rest

/-- A name was removed from outside after one opening and before another. -/
def UnloadedBetween (history : List Step) (first second : Nat) (name : Text) : Prop :=
  ∃ before identity rest,
    history = before ++ .enter second identity :: rest ∧ UnloadedSince before first name

section Removals

variable {history : List Step} {key first second : Nat} {name : Text}

theorem UnloadedSince.append (h : UnloadedSince history key name) (later : List Step) :
    UnloadedSince (history ++ later) key name := by
  obtain ⟨before, identity, rest, rfl, hm⟩ := h
  exact ⟨before, identity, rest ++ later, by simp, List.mem_append_left _ hm⟩

theorem UnloadedSince.mem (h : UnloadedSince history key name) : .unload name ∈ history := by
  obtain ⟨before, identity, rest, rfl, hm⟩ := h
  exact List.mem_append_right _ (List.mem_cons_of_mem _ hm)

theorem unloadedSince_of_mem {identity : SchemaIdentity} (h : .enter key identity ∈ history) :
    UnloadedSince (history ++ [.unload name]) key name := by
  obtain ⟨before, rest, rfl⟩ := List.append_of_mem h
  exact ⟨before, identity, rest ++ [.unload name], by simp, by simp⟩

theorem UnloadedBetween.append (h : UnloadedBetween history first second name)
    (later : List Step) : UnloadedBetween (history ++ later) first second name := by
  obtain ⟨before, identity, rest, rfl, hm⟩ := h
  exact ⟨before, identity, rest ++ later, by simp, hm⟩

theorem UnloadedSince.between (h : UnloadedSince history first name) (identity : SchemaIdentity) :
    UnloadedBetween (history ++ [.enter second identity]) first second name :=
  ⟨history, identity, [], rfl, h⟩

end Removals

/-! ## The invariant -/

/-- How the registry, the scopes in use and the history belong together. -/
structure Tracked (initial : Loads) (history : List Step) (session : Session)
    (loads : Loads) : Prop where
  opened : ∀ entry ∈ session,
    .enter entry.1 entry.2.identity ∈ history ∧ entry.2.number = entry.1
  nodup : (session.map Prod.fst).Nodup
  /-- What a name holds is there from the start, or it is the load of a scope in use. -/
  holder : ∀ name load, loads name = some load →
    (initial name = some load ∧ .unload name ∉ history) ∨
      ∃ entry ∈ session, entry.2.moduleName = name ∧ load = some entry.1
  /-- What was there at the start stays until it is removed from outside. -/
  kept : ∀ name, .unload name ∉ history → initial name ≠ none → loads name = initial name
  /-- A scope in use has its module under its name, unless it was removed from outside. -/
  present : ∀ entry ∈ session, loads entry.2.moduleName = some (some entry.1) ∨
    UnloadedSince history entry.1 entry.2.moduleName
  shared : session.Pairwise fun first second => first.2.moduleName = second.2.moduleName →
    UnloadedBetween history first.1 second.1 first.2.moduleName

namespace Tracked

variable {initial loads : Loads} {history : List Step} {session : Session}

theorem start : Tracked loads [] [] loads where
  opened := by simp
  nodup := List.nodup_nil
  holder := fun name load h => .inl ⟨h, by simp⟩
  kept := fun _ _ _ => rfl
  present := by simp
  shared := .nil

theorem eq_of_mem (h : Tracked initial history session loads) {first second : Nat × Scope}
    (hf : first ∈ session) (hs : second ∈ session) (he : first.1 = second.1) : first = second :=
  List.inj_on_of_nodup_map h.nodup hf hs he

/-- A step that removes nothing from outside and opens and closes nothing changes nothing. -/
theorem unchanged (h : Tracked initial history session loads) {s : Step}
    (hs : ∀ name, s ≠ .unload name) : Tracked initial (history ++ [s]) session loads := by
  have hunload : ∀ name, .unload name ∉ history ++ [s] ↔ .unload name ∉ history := by
    intro name
    simp [(hs name).symm]
  exact
    { opened := fun entry he => ⟨List.mem_append_left _ (h.opened entry he).1,
        (h.opened entry he).2⟩
      nodup := h.nodup
      holder := fun name load hl => by
        rw [hunload]
        exact h.holder name load hl
      kept := fun name hn => h.kept name ((hunload name).1 hn)
      present := fun entry he => (h.present entry he).imp_right fun hu => hu.append _
      shared := h.shared.imp fun hshared he => (hshared he).append _ }

/-- A scope that is entered has the module of its name, which was free. An older scope of that name
has lost it from outside. -/
theorem entered (h : Tracked initial history session loads) {key : Nat} {scope : Scope}
    (hfresh : FreshKeys initial (history ++ [.enter key scope.identity]))
    (hnumber : scope.number = key) (hfree : loads scope.moduleName = none) :
    Tracked initial (history ++ [.enter key scope.identity]) (session ++ [(key, scope)])
      (Function.update loads scope.moduleName (some (some key))) := by
  have hkey := hfresh.notMem_opened
  have hold := h.unchanged (s := .enter key scope.identity) (by simp)
  have hlost : ∀ entry ∈ session, entry.2.moduleName = scope.moduleName →
      UnloadedSince history entry.1 entry.2.moduleName := by
    intro entry he hn
    refine (h.present entry he).resolve_left fun hl => ?_
    rw [hn, hfree] at hl
    cases hl
  refine ⟨?_, ?_, ?_, ?_, ?_, ?_⟩
  · intro entry he
    rcases List.mem_append.1 he with he | he
    · exact hold.opened entry he
    · obtain rfl := List.mem_singleton.1 he
      exact ⟨by simp, hnumber⟩
  · rw [List.map_append, List.nodup_append]
    refine ⟨h.nodup, by simp, ?_⟩
    intro first hf second hs he
    obtain ⟨entry, hentry, rfl⟩ := List.mem_map.1 hf
    have hsecond : second = key := by simpa using hs
    exact hkey (hsecond ▸ he ▸ FreshKeys.mem_opened (h.opened entry hentry).1)
  · intro name load hl
    by_cases hn : name = scope.moduleName
    · subst hn
      rw [Function.update_self] at hl
      exact .inr ⟨(key, scope), by simp, rfl, (Option.some.inj hl).symm⟩
    · rw [Function.update_of_ne hn] at hl
      refine (hold.holder name load hl).imp_right ?_
      rintro ⟨entry, he, hentry⟩
      exact ⟨entry, List.mem_append_left _ he, hentry⟩
  · intro name hn hi
    have hkept := hold.kept name hn hi
    have hne : name ≠ scope.moduleName := by
      rintro rfl
      exact hi (hkept ▸ hfree)
    rw [Function.update_of_ne hne, hkept]
  · intro entry he
    rcases List.mem_append.1 he with he | he
    · by_cases hn : entry.2.moduleName = scope.moduleName
      · exact .inr ((hlost entry he hn).append _)
      · rw [Function.update_of_ne hn]
        exact hold.present entry he
    · obtain rfl := List.mem_singleton.1 he
      exact .inl (Function.update_self ..)
  · rw [List.pairwise_append]
    refine ⟨hold.shared, List.pairwise_singleton _ _, ?_⟩
    intro first hf second hs he
    obtain rfl := List.mem_singleton.1 hs
    exact (hlost first hf he).between _

/-- A scope that is left takes its module with it, if its name still holds the module. The load of
any other scope, and what was there at the start, has another number. -/
theorem left (h : Tracked initial history session loads) (hfresh : FreshKeys initial history)
    {key : Nat} {scope : Scope} (hscope : (key, scope) ∈ session) (failure : Option Raised) :
    Tracked initial (history ++ [.leave key failure]) (session.remove key)
      (loads.release scope.moduleName key) := by
  have hold := h.unchanged (s := .leave key failure) (by simp)
  have hkey : ∀ name, initial name ≠ some (some key) :=
    hfresh.notInitial key (FreshKeys.mem_opened (h.opened _ hscope).1)
  refine ⟨?_, ?_, ?_, ?_, ?_, ?_⟩
  · intro entry he
    exact hold.opened entry (mem_remove.1 he).1
  · exact h.nodup.sublist (List.filter_sublist.map _)
  · intro name load hl
    obtain ⟨hbefore, hself⟩ := Loads.release_eq_some_iff.1 hl
    rcases hold.holder name load hbefore with hstart | ⟨entry, he, hname, hload⟩
    · exact .inl hstart
    · refine .inr ⟨entry, mem_remove.2 ⟨he, ?_⟩, hname, hload⟩
      intro hk
      obtain rfl := h.eq_of_mem he hscope hk
      exact hself ⟨hname.symm, hload⟩
  · intro name hn hi
    have hkept := hold.kept name hn hi
    rw [Loads.release_of_ne (hkept ▸ hkey name), hkept]
  · intro entry he
    obtain ⟨hm, hne⟩ := mem_remove.1 he
    refine (hold.present entry hm).imp_left fun hl => ?_
    exact Loads.release_eq_some_iff.2 ⟨hl, fun hboth => hne (Option.some.inj hboth.2)⟩
  · exact hold.shared.sublist List.filter_sublist

/-- A name that is removed from outside holds nothing. -/
theorem unloaded (h : Tracked initial history session loads) (name : Text) :
    Tracked initial (history ++ [.unload name]) session (Function.update loads name none) := by
  have hunload : ∀ other, .unload other ∉ history ++ [.unload name] ↔
      .unload other ∉ history ∧ other ≠ name := by
    simp [not_or]
  refine ⟨?_, h.nodup, ?_, ?_, ?_, ?_⟩
  · intro entry he
    exact ⟨List.mem_append_left _ (h.opened entry he).1, (h.opened entry he).2⟩
  · intro other load hl
    have hne : other ≠ name := by
      rintro rfl
      rw [Function.update_self] at hl
      cases hl
    rw [Function.update_of_ne hne] at hl
    rw [hunload]
    exact (h.holder other load hl).imp_left fun hstart => ⟨hstart.1, hstart.2, hne⟩
  · intro other hn hi
    obtain ⟨hold, hne⟩ := (hunload other).1 hn
    rw [Function.update_of_ne hne]
    exact h.kept other hold hi
  · intro entry he
    by_cases hn : entry.2.moduleName = name
    · subst hn
      exact .inr (unloadedSince_of_mem (h.opened entry he).1)
    · rw [Function.update_of_ne hn]
      exact (h.present entry he).imp_right fun hu => hu.append _
  · exact h.shared.imp fun hshared he => (hshared he).append _

end Tracked

/-! ## Histories -/

/-- The invariant passes through every step. -/
theorem Tracked.step {initial : Loads} {history : List Step} {session next : Session}
    {world after : World} {s : Step} {result : StepResult}
    (h : Tracked initial history session world.workspace.modules.loads)
    (hfresh : FreshKeys initial (history ++ [s]))
    (hreturns : s.importReturns world = true)
    (hstep : (session.step s).run.run world = (.ok (next, result), after)) :
    Tracked initial (history ++ [s]) next after.workspace.modules.loads := by
  cases s with
  | enter key identity =>
    rcases step_enter_cases hreturns hstep with
      ⟨-, rfl, hmodules⟩ | ⟨scope, -, rfl, rfl, hnumber, hfree, hloads⟩
    · rw [hmodules]
      exact h.unchanged (by simp)
    · rw [hloads]
      exact h.entered hfresh hnumber hfree
  | read key =>
    obtain ⟨rfl, hloads⟩ := step_read hstep
    rw [hloads]
    exact h.unchanged (by simp)
  | leave key failure =>
    cases hf : session.find? key with
    | none =>
      obtain ⟨rfl, rfl⟩ := step_leave_of_none hf hstep
      exact h.unchanged (by simp)
    | some scope =>
      have hscope := mem_of_find? hf
      obtain ⟨rfl, hloads⟩ := step_leave_of_find? hf hstep
      rw [hloads, (h.opened _ hscope).2]
      exact h.left hfresh.of_append hscope failure
  | unload name =>
    obtain ⟨rfl, hloads⟩ := step_unload hstep
    rw [hloads]
    exact h.unloaded name

/-- The invariant passes through every history of steps, by induction on what is still to come. -/
theorem Tracked.steps {initial : Loads} {history rest : List Step} {session : Session}
    {world : World} (h : Tracked initial history session world.workspace.modules.loads)
    (hfresh : FreshKeys initial (history ++ rest))
    (hreturn : importsReturn session world rest = true) :
    ∃ final after, (session.steps rest).run.run world = (.ok final, after) ∧
      Tracked initial (history ++ rest) final after.workspace.modules.loads := by
  induction rest generalizing history session world with
  | nil => exact ⟨session, world, rfl, by rwa [List.append_nil]⟩
  | cons s rest ih =>
    obtain ⟨next, result, middle, hstep⟩ := exists_step session s world
    obtain ⟨hs, hrest⟩ := (importsReturn_cons hstep).1 hreturn
    have hassoc : history ++ s :: rest = history ++ [s] ++ rest := by simp
    rw [hassoc] at hfresh ⊢
    rw [run_steps_cons hstep]
    exact ih (h.step hfresh.of_append hs hstep) hfresh hrest

/-! ## The registry -/

/-- What the registry holds after a history of steps. -/
structure Accounted (initial : Loads) (history : List Step) (session : Session)
    (loads : Loads) : Prop where
  /-- A scope in use has the number and the identity that it was entered with. -/
  opened : ∀ entry ∈ session,
    .enter entry.1 entry.2.identity ∈ history ∧ entry.2.number = entry.1
  /-- A name holds what it held at the start and was never removed from outside, or it holds the
  load of one scope in use, whose name it is. -/
  holder : ∀ name load, loads name = some load →
    (initial name = some load ∧ .unload name ∉ history) ∨
      ∃! entry, entry ∈ session ∧ load = some entry.1 ∧ entry.2.moduleName = name
  /-- Two scopes in use share a name only if it was removed from outside between their openings. -/
  shared : session.Pairwise fun first second => first.2.moduleName = second.2.moduleName →
    UnloadedBetween history first.1 second.1 first.2.moduleName
  /-- A name that was never removed from outside holds the load of an opening exactly if it is the
  name of a scope in use. -/
  holds_iff : ∀ name, .unload name ∉ history →
    ((∃ key identity, .enter key identity ∈ history ∧ loads name = some (some key)) ↔
      ∃ entry ∈ session, entry.2.moduleName = name)
  /-- When no scope is in use, everything is as at the start but for the removals from outside. -/
  restored : session = [] →
    ∀ name, loads name = if .unload name ∈ history then none else initial name

theorem Tracked.accounted {initial loads : Loads} {history : List Step} {session : Session}
    (h : Tracked initial history session loads) (hfresh : FreshKeys initial history) :
    Accounted initial history session loads where
  opened := h.opened
  holder := fun name load hl => by
    refine (h.holder name load hl).imp_right ?_
    rintro ⟨entry, he, hname, hload⟩
    refine ⟨entry, ⟨he, hload, hname⟩, ?_⟩
    rintro other ⟨ho, hother, -⟩
    exact h.eq_of_mem ho he (Option.some.inj (hother.symm.trans hload))
  shared := h.shared
  holds_iff := fun name hn => by
    constructor
    · rintro ⟨key, identity, hkey, hl⟩
      rcases h.holder name _ hl with ⟨hstart, -⟩ | ⟨entry, he, hname, -⟩
      · exact absurd hstart (hfresh.notInitial key (FreshKeys.mem_opened hkey) name)
      · exact ⟨entry, he, hname⟩
    · rintro ⟨entry, he, rfl⟩
      have hl := (h.present entry he).resolve_right fun hu => hn hu.mem
      exact ⟨entry.1, entry.2.identity, (h.opened entry he).1, hl⟩
  restored := by
    rintro rfl name
    cases hl : loads name with
    | none =>
      split
      · rfl
      · next hn =>
        by_contra hi
        exact hi (hl ▸ h.kept name hn fun hnone => hi hnone.symm)
    | some load =>
      rcases h.holder name load hl with ⟨hstart, hn⟩ | ⟨entry, he, -⟩
      · rw [if_neg hn, hstart]
      · cases he

/-- What the next step does to the registry. -/
structure NextStep (session : Session) (world : World) : Prop where
  completes : ∀ s, ∃ next result after,
    (session.step s).run.run world = (.ok (next, result), after)
  /-- An opening that fails leaves the registry unchanged. -/
  failed : ∀ key identity failure next after,
    (Step.enter key identity).importReturns world = true →
    (session.step (.enter key identity)).run.run world = (.ok (next, .failed failure), after) →
    next = session ∧ after.workspace.modules = world.workspace.modules
  /-- An opening fails under a name that is taken. -/
  taken : ∀ key identity next result after,
    world.workspace.modules.loads identity.containerNamespace ≠ none →
    (session.step (.enter key identity)).run.run world = (.ok (next, result), after) →
    ∃ failure, result = .failed failure
  /-- A scope that is left gives up its own load, if its name still holds that, and nothing else. -/
  left : ∀ key scope failure next result after, session.find? key = some scope →
    (session.step (.leave key failure)).run.run world = (.ok (next, result), after) →
    next = session.remove key ∧
      after.workspace.modules.loads =
        world.workspace.modules.loads.release scope.moduleName scope.number

theorem nextStep (session : Session) (world : World) : NextStep session world where
  completes := fun s => exists_step session s world
  failed := fun key identity failure next after hreturns hstep => by
    rcases step_enter_cases hreturns hstep with ⟨-, hnext, hmodules⟩ | ⟨scope, hresult, -⟩
    · exact ⟨hnext, hmodules⟩
    · cases hresult
  taken := fun key identity next result after htaken hstep => by
    have hreturns : (Step.enter key identity).importReturns world = true := by
      rw [Step.importReturns, Scope.importEndsProgram_of_taken htaken]
      rfl
    rcases step_enter_cases hreturns hstep with ⟨hresult, -⟩ | ⟨scope, -, -, -, -, hfree, -⟩
    · exact hresult
    · exact absurd hfree htaken
  left := fun _ _ _ _ _ _ hf hstep => step_leave_of_find? hf hstep

end Session

/-! ## A history with a removal from outside -/

namespace Sample

/-- The identity of a container of one class. -/
def shopIdentity : SchemaIdentity :=
  { schemaName := "Shop"
    connectionString := "Data Source=shop.db"
    moduleLocation := "shop.py"
    containerNamespace := "Shop.Models" }

/-- The container's module is in the working directory, and a module of another kind is loaded. -/
def shopWorld : World :=
  { tree :=
      { home := ["work"]
        entries := [(["work"], .directory),
          (["work", "shop.py"], .module [] [rowClass "Shop" [required "connection_string"]])] }
    workspace := { modules := [("json", .foreign)], memory := {} }
    events := []
    log := [] }

/-- The container is opened, opened again in vain, and opened once more after its module was removed
from outside; then both scopes are left, the first one with an exception on its way. -/
def shopHistory : List Step :=
  [.enter 0 shopIdentity, .enter 1 shopIdentity, .unload "Shop.Models", .enter 2 shopIdentity,
    .leave 0 (some (.ofKind "RuntimeError" "stopped")), .leave 2 none]

theorem freshKeys_shopHistory : FreshKeys shopWorld.workspace.modules.loads shopHistory where
  nodup := by decide
  notInitial := by
    intro key _ name h
    obtain ⟨found, hfound, hload⟩ := Option.map_eq_some_iff.1 h
    rw [shopWorld, LoadedModules.find?, LoadedModules.find?] at hfound
    split at hfound
    · obtain rfl := Option.some.inj hfound
      cases hload
    · cases hfound

end Sample

end QueryScaffold
