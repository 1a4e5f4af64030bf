import QueryScaffold.Proofs.Container.Loads

/-!
# What the code of one load depends on

The code of a load runs in the module of the load and in the memory of the load. What other scopes
do between two of its runs does not matter as long as it leaves these two alone, and the code of
another load does leave them alone. Only the annotations of a class may look further: they are
evaluated in the module of the name that the class gives as its own.

* `Workspace.AgreeOn`: two workspaces have the same to offer to the code of a load, and
  `Workspace.result_run_of_agreeOn`: the code cannot tell them apart;
* `Workspace.Isolated`: the same for annotations, which are looked up by name;
* `Workspace.LeavesAlone`: what is done to a workspace does not concern a load;
* `Workspace.respects`, `Scope.respects`: classes that lead neither into a load nor out of it;
* `Scope.snapshot_eq_of_isolated`: **such a container is read alike in both workspaces**;
* `Scope.leavesAlone_snapshot`, `Scope.leavesAlone_enter`, `Scope.leavesAlone_leave`: **a scope
  leaves the loads of other scopes alone**.
-/

namespace QueryScaffold

/-! ## Modules by the number of their load -/

/-- Code that runs in a module leaves the module of another load as it is. -/
theorem LoadedModule.updated_of_ne {m : ContainerModule} {found : LoadedModule} {number : Nat}
    (hload : found.load? = some number) (hne : m.number ≠ number) : found.updated m = found := by
  refine if_neg fun h => hne ?_
  rw [isOfLoad_iff, hload] at h
  exact (Option.some.inj h).symm

namespace LoadedModules

variable {modules rest : LoadedModules} {name : Text} {number : Nat}

@[simp]
theorem ofLoad?_container_cons {m : ContainerModule} :
    ofLoad? number ((name, .container m) :: rest) =
      if m.number = number then some m else ofLoad? number rest := by
  by_cases h : m.number = number <;>
    simp [ofLoad?, LoadedModule.isOfLoad, LoadedModule.container?, h]

theorem number_of_ofLoad? {m : ContainerModule} (h : modules.ofLoad? number = some m) :
    m.number = number := by
  induction modules with
  | nil => cases h
  | cons entry rest ih =>
    obtain ⟨name, _ | found⟩ := entry
    · exact ih h
    · rw [ofLoad?_container_cons] at h
      split at h
      · next hnumber => rwa [← Option.some.inj h]
      · exact ih h

/-- After code has run in a module, that is the module of its load, and every other load has the
module that it had. -/
theorem ofLoad?_update (m : ContainerModule) (modules : LoadedModules) :
    (modules.update m).ofLoad? number =
      if number = m.number then (modules.ofLoad? number).map fun _ => m
      else modules.ofLoad? number := by
  induction modules with
  | nil => simp [update, ofLoad?]
  | cons entry rest ih =>
    obtain ⟨name, found⟩ := entry
    have hcons : update m ((name, found) :: rest) = (name, found.updated m) :: update m rest := rfl
    rw [hcons]
    cases found with
    | foreign => exact ih
    | container other =>
      rw [LoadedModule.updated, LoadedModule.isOfLoad, ofLoad?_container_cons]
      by_cases hm : other.number = m.number
      · rw [if_pos (by simpa using hm), ofLoad?_container_cons, ih, hm]
        by_cases hn : number = m.number
        · simp [hn]
        · simp [hn, Ne.symm hn]
      · rw [if_neg (by simpa using hm), ofLoad?_container_cons, ih]
        by_cases hn : number = m.number
        · simp [hn, hm]
        · simp [hn]

theorem ofLoad?_add (m : ContainerModule) (name : Text) (modules : LoadedModules) :
    (modules.add name (.container m)).ofLoad? number =
      (modules.ofLoad? number).or (if m.number = number then some m else none) := by
  rw [add, ofLoad?, List.findSome?_append, ← ofLoad?, ← ofLoad?, ofLoad?_container_cons]
  rfl

/-- A name can go unless it is that of a module of the load. -/
theorem ofLoad?_remove
    (h : ∀ entry ∈ modules, entry.2.load? = some number → entry.1 ≠ name) :
    (modules.remove name).ofLoad? number = modules.ofLoad? number := by
  induction modules with
  | nil => rfl
  | cons entry rest ih =>
    have hrest := ih fun entry he => h entry (List.mem_cons_of_mem _ he)
    obtain ⟨other, found⟩ := entry
    rw [remove] at hrest ⊢
    by_cases ho : other = name
    · rw [List.filter_cons_of_neg (by simpa using ho), hrest]
      cases found with
      | foreign => rfl
      | container m =>
        rw [ofLoad?_container_cons, if_neg]
        intro hm
        exact h _ List.mem_cons_self (congrArg some hm) ho
    · rw [List.filter_cons_of_pos (by simpa using ho)]
      cases found with
      | foreign => exact hrest
      | container m => rw [ofLoad?_container_cons, ofLoad?_container_cons, hrest]

theorem mem_update {m : ContainerModule} {entry : Text × LoadedModule}
    (h : entry ∈ modules.update m) :
    ∃ before ∈ modules, before.1 = entry.1 ∧ before.2.load? = entry.2.load? := by
  obtain ⟨before, hbefore, rfl⟩ := List.mem_map.1 h
  exact ⟨before, hbefore, rfl, (LoadedModule.load?_updated m before.2).symm⟩

theorem container?_eq_none_iff :
    (modules.find? name).bind LoadedModule.container? = none ↔
      ∀ load, modules.loads name ≠ some (some load) := by
  rw [loads]
  cases modules.find? name with
  | none => simp
  | some found => cases found <;> simp [LoadedModule.container?, LoadedModule.load?]

theorem mem_of_find? {found : LoadedModule} (h : modules.find? name = some found) :
    (name, found) ∈ modules := by
  induction modules with
  | nil => cases h
  | cons entry rest ih =>
    obtain ⟨other, first⟩ := entry
    rw [find?] at h
    split at h
    · next ho =>
      rw [ho, Option.some.inj h]
      exact List.mem_cons_self
    · exact List.mem_cons_of_mem _ (ih h)

theorem loads_ne_none_of_mem {entry : Text × LoadedModule} (h : entry ∈ modules) :
    modules.loads entry.1 ≠ none := by
  rw [Ne, loads_eq_none_iff]
  induction modules with
  | nil => cases h
  | cons first rest ih =>
    rw [find?]
    split
    · exact Option.some_ne_none _
    · next hne =>
      rcases List.mem_cons.1 h with rfl | hrest
      · exact absurd rfl hne
      · exact ih hrest

end LoadedModules

/-! ## Code of a load -/

/-- The name of the module that a class gives as its own. -/
def ClassBody.moduleName? (body : ClassBody) : Option Text :=
  (body.members.find? "__module__").bind Value.text?

namespace Workspace

/-- The load has the same module and the same memory in both. -/
structure AgreeOn (number : Nat) (first second : Workspace) : Prop where
  memory : first.memory.ofLoad number = second.memory.ofLoad number
  current : first.modules.ofLoad? number = second.modules.ofLoad? number

/-- Nothing was done to the load, nor to a name that holds it, and no other name has got it. -/
structure LeavesAlone (number : Nat) (before after : Workspace) : Prop where
  agree : after.AgreeOn number before
  found : ∀ name, before.modules.loads name = some (some number) →
    after.modules.find? name = before.modules.find? name
  entries : ∀ entry ∈ after.modules, entry.2.load? = some number →
    ∃ former ∈ before.modules, former.1 = entry.1 ∧ former.2.load? = some number

/-- A load that was not there at the start has one name and the same module and memory in both. The
first one has what was there at the start and may have more, the second one has nothing more. -/
structure Isolated (initial : Loads) (number : Nat) (name : Text) (first second : Workspace) :
    Prop where
  agree : first.AgreeOn number second
  found : first.modules.find? name = second.modules.find? name
  kept : ∀ other, initial other ≠ none → first.modules.loads other = initial other
  only : ∀ entry ∈ first.modules, entry.2.load? = some number →
    entry.1 = name ∨ initial entry.1 ≠ none
  apart : ∀ other, other ≠ name → second.modules.loads other = initial other
  fresh : ∀ other, initial other ≠ some (some number)

/-- The load of the container module whose name the class gives as that of its own. -/
def loadOf? (workspace : Workspace) (body : ClassBody) : Option Nat :=
  (body.moduleName?.bind workspace.modules.loads).join

/-- A class that is met in the load `own` does not lead into the load of the number from another
one, nor out of it. -/
def respects (number own : Nat) (workspace : Workspace) (body : ClassBody) : Bool :=
  (workspace.loadOf? body).all fun load => load = number ↔ own = number

variable {initial : Loads} {number : Nat} {name : Text} {workspace first second third : Workspace}
  {m home : ContainerModule} {body : ClassBody}

theorem AgreeOn.refl (workspace : Workspace) : workspace.AgreeOn number workspace := ⟨rfl, rfl⟩

theorem AgreeOn.trans (h : first.AgreeOn number second) (h' : second.AgreeOn number third) :
    first.AgreeOn number third :=
  ⟨h.memory.trans h'.memory, h.current.trans h'.current⟩

theorem LeavesAlone.refl (workspace : Workspace) : workspace.LeavesAlone number workspace :=
  ⟨.refl workspace, fun _ _ => rfl, fun entry he hload => ⟨entry, he, rfl, hload⟩⟩

theorem LeavesAlone.loads (h : first.LeavesAlone number second)
    (hload : first.modules.loads name = some (some number)) :
    second.modules.loads name = some (some number) := by
  rw [LoadedModules.loads, h.found name hload]
  exact hload

theorem LeavesAlone.trans (h : first.LeavesAlone number second)
    (h' : second.LeavesAlone number third) : first.LeavesAlone number third where
  agree := h'.agree.trans h.agree
  found := fun name hload => (h'.found name (h.loads hload)).trans (h.found name hload)
  entries := fun entry he hload => by
    obtain ⟨middle, hmiddle, hname, hmiddleLoad⟩ := h'.entries entry he hload
    obtain ⟨former, hformer, hformerName, hformerLoad⟩ := h.entries middle hmiddle hmiddleLoad
    exact ⟨former, hformer, hformerName.trans hname, hformerLoad⟩

/-- In isolation the load is under its name only. -/
theorem Isolated.eq_name (h : first.Isolated initial number name second) {other : Text}
    (hload : first.modules.loads other = some (some number)) : other = name := by
  obtain ⟨found, hfound, hnumber⟩ := LoadedModules.loads_eq_some_iff.1 hload
  refine (h.only _ (LoadedModules.mem_of_find? hfound) hnumber).resolve_right fun hinitial => ?_
  exact h.fresh other (h.kept other hinitial ▸ hload)

/-- What is done for other loads does not end the isolation of a load that has its name. -/
theorem Isolated.of_leavesAlone (h : first.Isolated initial number name second)
    (hleaves : first.LeavesAlone number third)
    (hholds : first.modules.loads name = some (some number))
    (hkept : ∀ other, initial other ≠ none → third.modules.loads other = initial other) :
    third.Isolated initial number name second where
  agree := hleaves.agree.trans h.agree
  found := (hleaves.found name hholds).trans h.found
  kept := hkept
  only := fun entry he hload => by
    obtain ⟨former, hformer, hname, hformerLoad⟩ := hleaves.entries entry he hload
    rw [← hname]
    exact h.only former hformer hformerLoad
  apart := h.apart
  fresh := h.fresh

@[simp]
theorem number_current (workspace : Workspace) (m : ContainerModule) :
    (workspace.current m).number = m.number := by
  rw [current]
  cases h : workspace.modules.ofLoad? m.number with
  | none => rfl
  | some found => exact LoadedModules.number_of_ofLoad? h

theorem current_eq_of_agreeOn (h : first.AgreeOn m.number second) :
    first.current m = second.current m := by
  rw [current, current, h.current]

/-! ### What a run leaves behind -/

section After

variable {α : Type} {ran : CodeRun α}

theorem AgreeOn.after (h : first.AgreeOn ran.result.number second) :
    (first.after ran).AgreeOn ran.result.number (second.after ran) where
  memory := by
    rw [Workspace.after, Workspace.after, Memories.ofLoad_keep_self, Memories.ofLoad_keep_self]
  current := by
    rw [Workspace.after, Workspace.after, LoadedModules.ofLoad?_update,
      LoadedModules.ofLoad?_update, h.current]

theorem Isolated.after (h : first.Isolated initial ran.result.number name second) :
    (first.after ran).Isolated initial ran.result.number name (second.after ran) where
  agree := h.agree.after
  found := by
    rw [Workspace.after, Workspace.after, LoadedModules.find?_update, LoadedModules.find?_update,
      h.found]
  kept := by
    rw [Workspace.after, LoadedModules.loads_update]
    exact h.kept
  only := fun entry he hload => by
    obtain ⟨former, hformer, hname, hformerLoad⟩ := LoadedModules.mem_update he
    rw [← hname]
    exact h.only former hformer (hformerLoad.trans hload)
  apart := by
    rw [Workspace.after, LoadedModules.loads_update]
    exact h.apart
  fresh := h.fresh

/-- What code has done in the module of one load does not concern another one. -/
theorem leavesAlone_after (workspace : Workspace) (hne : ran.result.number ≠ number) :
    workspace.LeavesAlone number (workspace.after ran) where
  agree :=
    { memory := Memories.ofLoad_keep_of_ne hne.symm _ _
      current := by
        rw [after, LoadedModules.ofLoad?_update, if_neg hne.symm] }
  found := by
    intro name hload
    obtain ⟨found, hfound, hnumber⟩ := LoadedModules.loads_eq_some_iff.1 hload
    rw [after, LoadedModules.find?_update, hfound, Option.map_some,
      LoadedModule.updated_of_ne hnumber hne]
  entries := fun entry he hload => by
    obtain ⟨former, hformer, hname, hformerLoad⟩ := LoadedModules.mem_update he
    exact ⟨former, hformer, hname, hformerLoad.trans hload⟩

end After

theorem Isolated.keep (h : first.Isolated initial number name second) (memory : Memory) :
    ({ first with memory := first.memory.keep number memory } : Workspace).Isolated initial number
      name { second with memory := second.memory.keep number memory } :=
  { h with agree := ⟨by simp, h.agree.current⟩ }

theorem leavesAlone_keep (workspace : Workspace) (memory : Memory) {other : Nat}
    (hne : other ≠ number) :
    workspace.LeavesAlone number
      { workspace with memory := workspace.memory.keep other memory } where
  agree := ⟨Memories.ofLoad_keep_of_ne hne.symm _ _, rfl⟩
  found := fun _ _ => rfl
  entries := fun entry he hload => ⟨entry, he, rfl, hload⟩

/-- A free name may be given to the module of another load. -/
theorem leavesAlone_add (workspace : Workspace) (hfree : workspace.modules.loads name = none)
    (hne : m.number ≠ number) :
    workspace.LeavesAlone number
      { workspace with modules := workspace.modules.add name (.container m) } where
  agree := ⟨rfl, by rw [LoadedModules.ofLoad?_add, if_neg hne, Option.or_none]⟩
  found := by
    intro other hload
    refine LoadedModules.find?_add_of_ne ?_ _ _
    rintro rfl
    rw [hfree] at hload
    cases hload
  entries := by
    intro entry he hload
    rcases List.mem_append.1 he with he | he
    · exact ⟨entry, he, rfl, hload⟩
    · obtain rfl := List.mem_singleton.1 he
      exact absurd (Option.some.inj hload) hne

/-- A name may be freed that holds the module of another load. -/
theorem leavesAlone_removeLoad (workspace : Workspace) (name : Text) {other : Nat}
    (hne : other ≠ number)
    (hnames : ∀ entry ∈ workspace.modules, entry.2.load? = some number →
      workspace.modules.loads entry.1 ≠ some (some other)) :
    workspace.LeavesAlone number
      { workspace with modules := workspace.modules.removeLoad name other } := by
  by_cases hload : workspace.modules.loads name = some (some other)
  · obtain ⟨found, hfound, hnumber⟩ := LoadedModules.loads_eq_some_iff.1 hload
    rw [LoadedModules.removeLoad, hfound]
    simp only [LoadedModule.isOfLoad_iff.2 hnumber, if_true]
    refine ⟨⟨rfl, LoadedModules.ofLoad?_remove ?_⟩, ?_, ?_⟩
    · rintro entry he hentry rfl
      exact hnames entry he hentry hload
    · intro third hthird
      refine LoadedModules.find?_remove_of_ne ?_ _
      rintro rfl
      rw [hload] at hthird
      exact hne (by simpa using hthird)
    · intro entry he hentry
      exact ⟨entry, (List.mem_filter.1 he).1, rfl, hentry⟩
  · rw [LoadedModules.removeLoad_of_ne hload]
    exact .refl workspace

/-! ### Running code -/

section Run

variable {α : Type} (code : Eval α)

/-- What running code in a module gives, before it is put back. -/
def ranIn (workspace : Workspace) (m : ContainerModule) : CodeRun α :=
  (workspace.current m).run (workspace.memory.ofLoad m.number) code

theorem number_ranIn (workspace : Workspace) (m : ContainerModule) :
    (workspace.ranIn code m).result.number = m.number :=
  number_current workspace m

/-- The code of a load cannot tell apart what agrees on the load. -/
theorem ranIn_eq_of_agreeOn (h : first.AgreeOn m.number second) :
    first.ranIn code m = second.ranIn code m := by
  rw [ranIn, ranIn, current_eq_of_agreeOn h, h.memory]

theorem result_run_of_agreeOn (h : first.AgreeOn m.number second) :
    (first.run m code).result = (second.run m code).result :=
  congrArg CodeRun.outcome (ranIn_eq_of_agreeOn code h)

theorem Isolated.run (h : first.Isolated initial m.number name second) :
    (first.run m code).workspace.Isolated initial m.number name (second.run m code).workspace := by
  show (first.after (first.ranIn code m)).Isolated initial m.number name
    (second.after (second.ranIn code m))
  rw [ranIn_eq_of_agreeOn code h.agree, ← number_ranIn code second m]
  exact Isolated.after (by rwa [number_ranIn])

/-- The code of a load leaves every other load alone. -/
theorem leavesAlone_run (workspace : Workspace) (hne : m.number ≠ number) :
    workspace.LeavesAlone number (workspace.run m code).workspace :=
  leavesAlone_after workspace ((number_ranIn code workspace m).trans_ne hne)

end Run

/-! ### Annotations -/

theorem moduleOf_of_moduleName? (h : body.moduleName? = some name) (workspace : Workspace) :
    workspace.moduleOf body =
      .ok ((workspace.modules.find? name).bind LoadedModule.container?) := by
  obtain ⟨value, hvalue, htext⟩ := Option.bind_eq_some_iff.1 h
  have hconstant : value = .text name := by
    cases value with
    | constant c => cases c <;> simp_all [Value.text?]
    | _ => cases htext
  rw [moduleOf, hvalue, hconstant]
  rfl

/-- A class that names no module belongs to none, whatever is loaded. -/
theorem moduleOf_of_none (h : body.moduleName? = none) :
    ∃ outcome : Except CodeFault (Option ContainerModule), (∀ m, outcome ≠ .ok (some m)) ∧
      ∀ workspace : Workspace, workspace.moduleOf body = outcome := by
  rw [ClassBody.moduleName?] at h
  cases hvalue : body.members.find? "__module__" with
  | none =>
    refine ⟨.ok none, by simp, fun workspace => ?_⟩
    simp only [moduleOf, hvalue]
  | some value =>
    rw [hvalue, Option.bind_some] at h
    cases hkind : value.changeable? with
    | none =>
      refine ⟨.ok none, by simp, fun workspace => ?_⟩
      simp only [moduleOf, hvalue, hkind, h, Option.bind_none]
    | some kind =>
      refine ⟨.error (.changeable kind), by simp, fun workspace => ?_⟩
      simp only [moduleOf, hvalue, hkind]

/-- The annotations of a class are evaluated in a module of the load that the class leads to. -/
theorem loadOf?_of_moduleOf (h : workspace.moduleOf body = .ok (some m)) :
    workspace.loadOf? body = some m.number := by
  cases hname : body.moduleName? with
  | none =>
    obtain ⟨outcome, houtcome, hmodule⟩ := moduleOf_of_none hname
    exact absurd ((hmodule workspace).symm.trans h) (houtcome m)
  | some name =>
    rw [moduleOf_of_moduleName? hname, Except.ok.injEq] at h
    obtain ⟨found, hfound, hm⟩ := Option.bind_eq_some_iff.1 h
    obtain rfl : found = .container m := by
      cases found with
      | foreign => cases hm
      | container other => rw [Option.some.inj hm]
    have hload : workspace.modules.loads name = some (some m.number) :=
      LoadedModules.loads_eq_some_iff.2 ⟨_, hfound, rfl⟩
    rw [loadOf?, hname, Option.bind_some, hload]
    rfl

theorem respects_iff_of_moduleOf {own : Nat} (h : workspace.moduleOf body = .ok (some m)) :
    workspace.respects number own body = true ↔ (m.number = number ↔ own = number) := by
  rw [respects, loadOf?_of_moduleOf h, Option.all_some, decide_eq_true_iff]

/-- In isolation a class that does not lead out of the load belongs to the same module in both. -/
theorem moduleOf_eq_of_isolated (h : first.Isolated initial number name second)
    (hclass : first.respects number number body = true) :
    first.moduleOf body = second.moduleOf body := by
  cases hname : body.moduleName? with
  | none =>
    obtain ⟨outcome, -, hmodule⟩ := moduleOf_of_none hname
    rw [hmodule first, hmodule second]
  | some other =>
    rw [moduleOf_of_moduleName? hname, moduleOf_of_moduleName? hname]
    by_cases ho : other = name
    · rw [ho, h.found]
    · -- Under another name neither has a container module.
      have hfirst : ∀ load, first.modules.loads other ≠ some (some load) := by
        intro load hload
        rw [respects, loadOf?, hname, Option.bind_some, hload, Option.join_some,
          Option.all_some, decide_eq_true_iff] at hclass
        obtain rfl : load = number := hclass.2 rfl
        exact ho (h.eq_name hload)
      have hsecond : ∀ load, second.modules.loads other ≠ some (some load) := by
        intro load hload
        have hinitial := (h.apart other ho).symm.trans hload
        refine hfirst load ((h.kept other ?_).trans hinitial)
        rw [hinitial]
        exact Option.some_ne_none _
      rw [LoadedModules.container?_eq_none_iff.2 hfirst,
        LoadedModules.container?_eq_none_iff.2 hsecond]

/-- Where a class leads depends on what the names hold only. -/
theorem respects_congr (h : first.modules.loads = second.modules.loads) (number own : Nat) :
    first.respects number own = second.respects number own := by
  funext body
  rw [respects, respects, loadOf?, loadOf?, h]

/-- **In isolation the annotations of a class are resolved alike**, if the class does not lead out
of the load. -/
theorem resolve_eq_of_isolated (h : first.Isolated initial home.number name second)
    (hclass : first.respects home.number home.number body = true) :
    (first.resolve home body).result = (second.resolve home body).result ∧
      (first.resolve home body).workspace.Isolated initial home.number name
        (second.resolve home body).workspace := by
  rw [resolve, resolve, ← moduleOf_eq_of_isolated h hclass]
  cases hmodule : first.moduleOf body with
  | error fault => exact ⟨rfl, h⟩
  | ok found =>
    cases found with
    | some m =>
      have hnumber : m.number = home.number := ((respects_iff_of_moduleOf hmodule).1 hclass).2 rfl
      rw [← hnumber] at h ⊢
      exact ⟨result_run_of_agreeOn _ h.agree, h.run _⟩
    | none =>
      simp only [h.agree.memory]
      exact ⟨trivial, h.keep _⟩

/-- Resolving the annotations of a class leaves every load alone that the class does not lead
into. -/
theorem leavesAlone_resolve (hne : home.number ≠ number)
    (hclass : workspace.respects number home.number body = true) :
    workspace.LeavesAlone number (workspace.resolve home body).workspace := by
  rw [resolve]
  cases hmodule : workspace.moduleOf body with
  | error fault => exact .refl workspace
  | ok found =>
    cases found with
    | some m =>
      have hother : m.number ≠ number := fun hnumber =>
        hne (((respects_iff_of_moduleOf hmodule).1 hclass).1 hnumber)
      exact leavesAlone_run _ _ hother
    | none => exact leavesAlone_keep _ _ hne

/-- The classes are taken one by one, each in what the one before it has left. -/
theorem resolveAll_eq_of_isolated (home : ContainerModule) {bodies : List ClassBody}
    (h : first.Isolated initial home.number name second)
    (hclasses : bodies.all (first.respects home.number home.number) = true) :
    (resolveAll home first bodies).result = (resolveAll home second bodies).result ∧
      (resolveAll home first bodies).workspace.Isolated initial home.number name
        (resolveAll home second bodies).workspace := by
  induction bodies generalizing first second with
  | nil => exact ⟨rfl, h⟩
  | cons body rest ih =>
    rw [List.all_cons, Bool.and_eq_true] at hclasses
    obtain ⟨hresult, hafter⟩ := resolve_eq_of_isolated h hclasses.1
    rw [resolveAll, resolveAll, ← hresult]
    cases (first.resolve home body).result with
    | error fault => exact ⟨rfl, hafter⟩
    | ok types =>
      have hrest : rest.all ((first.resolve home body).workspace.respects home.number home.number)
          = true := by
        rw [respects_congr (loads_resolve _ _ _)]
        exact hclasses.2
      obtain ⟨hlater, hend⟩ := ih hafter hrest
      exact ⟨congrArg (Except.map (types ++ ·)) hlater, hend⟩

theorem leavesAlone_resolveAll (home : ContainerModule) {bodies : List ClassBody}
    (hne : home.number ≠ number)
    (hclasses : bodies.all (workspace.respects number home.number) = true) :
    workspace.LeavesAlone number (resolveAll home workspace bodies).workspace := by
  induction bodies generalizing workspace with
  | nil => exact .refl workspace
  | cons body rest ih =>
    rw [List.all_cons, Bool.and_eq_true] at hclasses
    have hfirst := leavesAlone_resolve hne hclasses.1
    rw [resolveAll]
    cases (workspace.resolve home body).result with
    | error fault => exact hfirst
    | ok types =>
      refine hfirst.trans (ih ?_)
      rw [respects_congr (loads_resolve _ _ _)]
      exact hclasses.2

end Workspace

/-! ## Reading -/

namespace Scope

variable {scope : Scope} {initial : Loads} {name : Text} {number : Nat}
  {workspace first second : Workspace}

/-- None of the classes whose annotations are resolved to read the container leads into the load of
the number from another one, nor out of it. -/
def respects (number : Nat) (scope : Scope) (workspace : Workspace) : Bool :=
  let ready := (scope.entities workspace).workspace
  (scope.lineage ready).all (ready.respects number scope.number)

theorem lineage_eq_of_agreeOn (h : first.AgreeOn scope.number second) :
    scope.lineage first = scope.lineage second := by
  rw [lineage, lineage, h.memory]

theorem entities_eq_of_isolated (h : first.Isolated initial scope.number name second) :
    (scope.entities first).result = (scope.entities second).result ∧
      (scope.entities first).workspace.Isolated initial scope.number name
        (scope.entities second).workspace := by
  refine ⟨?_, h.run _⟩
  show ((first.run scope.home scope.registryItems).result.mapError Failure.registryFault).bind
      scope.entitiesOfItems = _
  rw [Workspace.result_run_of_agreeOn _ h.agree]
  rfl

theorem attributes_eq_of_isolated (h : first.Isolated initial scope.number name second)
    (hclasses : (scope.lineage first).all (first.respects scope.number scope.number) = true) :
    (scope.attributes first).result = (scope.attributes second).result ∧
      (scope.attributes first).workspace.Isolated initial scope.number name
        (scope.attributes second).workspace := by
  obtain ⟨hresult, hafter⟩ := Workspace.resolveAll_eq_of_isolated scope.home h hclasses
  rw [attributes, attributes, ← lineage_eq_of_agreeOn h.agree, Transition.andThen,
    Transition.andThen, Transition.ofEffect, Transition.ofEffect, ← hresult]
  cases (Workspace.resolveAll scope.home first (scope.lineage first)).result with
  | error fault => exact ⟨rfl, hafter⟩
  | ok types =>
    refine ⟨?_, hafter.run _⟩
    exact congrArg (Except.mapError scope.annotationFailure)
      (Workspace.result_run_of_agreeOn _ hafter.agree)

/-- **In isolation a container is read alike**, if its classes do not lead out of its load. -/
theorem snapshot_eq_of_isolated (h : first.Isolated initial scope.number name second)
    (hclasses : scope.respects scope.number first = true) :
    (scope.snapshot first).result = (scope.snapshot second).result ∧
      (scope.snapshot first).workspace.Isolated initial scope.number name
        (scope.snapshot second).workspace := by
  obtain ⟨hentities, hready⟩ := entities_eq_of_isolated h
  rw [snapshot, snapshot, Transition.andThen, Transition.andThen, ← hentities]
  cases (scope.entities first).result with
  | error failure => exact ⟨rfl, hready⟩
  | ok entities =>
    obtain ⟨hattributes, hafter⟩ := attributes_eq_of_isolated hready hclasses
    refine ⟨?_, hafter⟩
    simp only [Transition.andCheck, accessors, hattributes]

/-- **Reading a container leaves every other load alone** that its classes do not lead into. -/
theorem leavesAlone_snapshot (hne : scope.number ≠ number)
    (hclasses : scope.respects number workspace = true) :
    workspace.LeavesAlone number (scope.snapshot workspace).workspace := by
  have hentities : workspace.LeavesAlone number (scope.entities workspace).workspace :=
    Workspace.leavesAlone_run _ _ hne
  rw [snapshot, Transition.andThen]
  cases (scope.entities workspace).result with
  | error failure => exact hentities
  | ok entities =>
    refine hentities.trans ?_
    have htypes := Workspace.leavesAlone_resolveAll scope.home hne hclasses
    show Workspace.LeavesAlone number _ (scope.attributes _).workspace
    rw [attributes, Transition.andThen]
    split
    · exact htypes
    · exact htypes.trans (Workspace.leavesAlone_run _ _ hne)

/-! ## Entering and leaving -/

section Enter

variable {tree : Tree} {key : Nat} {identity : SchemaIdentity} {loaded : CodeRun Unit}

theorem statements?_congr {modules others : LoadedModules}
    (h : modules.has identity.containerNamespace = others.has identity.containerNamespace) :
    statements? tree identity modules = statements? tree identity others := by
  rw [statements?, statements?, h]

theorem makeContainer_eq_of_agreeOn (h : first.AgreeOn loaded.result.number second) :
    (makeContainer identity first loaded).result = (makeContainer identity second loaded).result ∧
      (makeContainer identity first loaded).workspace.AgreeOn loaded.result.number
        (makeContainer identity second loaded).workspace := by
  simp only [makeContainer]
  split
  · exact ⟨rfl, by simp, h.current⟩
  · exact ⟨rfl, by simp, h.current⟩
  · split
    · exact ⟨rfl, by simp, h.current⟩
    · refine ⟨rfl, by simp, ?_⟩
      simp only [LoadedModules.ofLoad?_add, h.current]

/-- A scope is entered alike where nothing of its load is there yet but the same, and the name is
free. -/
theorem enter_eq_of_agreeOn (tree : Tree) (h : first.AgreeOn key second)
    (hfirst : first.modules.loads identity.containerNamespace = none)
    (hsecond : second.modules.loads identity.containerNamespace = none) :
    (enter tree key identity first).result = (enter tree key identity second).result ∧
      (enter tree key identity first).workspace.AgreeOn key
        (enter tree key identity second).workspace := by
  have hhas : first.modules.has identity.containerNamespace =
      second.modules.has identity.containerNamespace := by
    rw [LoadedModules.has, LoadedModules.has, LoadedModules.loads_eq_none_iff.1 hfirst,
      LoadedModules.loads_eq_none_iff.1 hsecond]
  rw [enter, enter, statements?_congr hhas, h.memory]
  cases statements? tree identity second.modules with
  | error failure => exact ⟨rfl, h⟩
  | ok statements =>
    simp only
    split
    · refine ⟨rfl, by simp, ?_⟩
      simp only [modulesAfter]
      split
      · simp only [LoadedModules.ofLoad?_add, h.current]
      · exact h.current
    · exact makeContainer_eq_of_agreeOn h

theorem leavesAlone_makeContainer (hne : loaded.result.number ≠ number)
    (hfree : workspace.modules.loads identity.containerNamespace = none) :
    workspace.LeavesAlone number (makeContainer identity workspace loaded).workspace := by
  simp only [makeContainer]
  split
  · exact Workspace.leavesAlone_keep _ _ hne
  · exact Workspace.leavesAlone_keep _ _ hne
  · split
    · exact Workspace.leavesAlone_keep _ _ hne
    · refine (Workspace.leavesAlone_add workspace hfree ?_).trans
        (Workspace.leavesAlone_keep _ _ hne)
      exact hne

/-- **Entering a scope leaves every other load alone.** -/
theorem leavesAlone_enter (hne : key ≠ number) :
    workspace.LeavesAlone number (enter tree key identity workspace).workspace := by
  rw [enter]
  cases hs : statements? tree identity workspace.modules with
  | error failure => exact .refl workspace
  | ok statements =>
    have hfree := loads_eq_none_of_statements? hs
    simp only
    split
    · rw [modulesAfter]
      split
      · exact (Workspace.leavesAlone_add workspace hfree hne).trans
          (Workspace.leavesAlone_keep _ _ hne)
      · exact Workspace.leavesAlone_keep _ _ hne
    · exact leavesAlone_makeContainer hne hfree

end Enter

section Leave

/-- A scope is left alike in workspaces that agree on its load. -/
theorem result_leave_of_agreeOn (scope : Scope) (h : first.AgreeOn scope.number second) :
    (scope.leave first).result = (scope.leave second).result := by
  rw [leave, leave, Workspace.result_run_of_agreeOn _ h]
  cases (second.run scope.home scope.close).result <;> rfl

/-- **Leaving a scope leaves every other load alone**, if no name of that load holds the module of
the scope. -/
theorem leavesAlone_leave (hne : scope.number ≠ number)
    (hnames : ∀ entry ∈ workspace.modules, entry.2.load? = some number →
      workspace.modules.loads entry.1 ≠ some (some scope.number)) :
    workspace.LeavesAlone number (scope.leave workspace).workspace := by
  have hrun := Workspace.leavesAlone_run scope.close workspace hne
  have hremove := Workspace.leavesAlone_removeLoad (workspace.run scope.home scope.close).workspace
    scope.moduleName hne (by
      intro entry he hentry
      obtain ⟨before, hbefore, hname, hload⟩ := LoadedModules.mem_update he
      rw [Workspace.loads_run, ← hname]
      exact hnames before hbefore (hload.trans hentry))
  have hleave : (scope.leave workspace).workspace =
      { (workspace.run scope.home scope.close).workspace with
        modules := (workspace.run scope.home scope.close).workspace.modules.removeLoad
          scope.moduleName scope.number } := by
    rw [leave]
    split <;> rfl
  rw [hleave]
  exact hrun.trans hremove

end Leave

end Scope

end QueryScaffold
