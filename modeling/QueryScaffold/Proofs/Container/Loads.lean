import Mathlib.Logic.Function.Basic
import QueryScaffold.Container.Reading

/-!
# Which load a name holds

Code may change what is in a module, but it loads and unloads nothing: only entering and leaving a
scope does. Of a loaded module it is enough to know the number of its load, which stands for its
identity.

* `LoadedModules.loads`: what each name holds, with what `add`, `remove`, `removeLoad` and `update`
  do to it, and `Loads.release` for a name that gives up one load;
* `Workspace.loads_run`, `Scope.loads_snapshot`: running code and reading a schema change no name;
* `Scope.importEndsProgram`: the module of an identity ends the program while it is imported;
* `Scope.modules_enter_of_ok`, `Scope.loads_enter_of_ok`: **a scope that is entered takes a free
  name**;
* `Scope.modules_enter_of_error`, `Scope.modules_enter_of_endsProgram`: a scope that cannot be
  entered changes nothing, unless its module ends the program; then that stays under the name;
* `Scope.loads_enter`: what entering does to the names in any case;
* `Scope.loads_leave`: **leaving a scope frees its name if the name still holds its load**.
-/

namespace QueryScaffold

/-! ## Loads by name -/

/-- What each name holds: nothing, a module that no scope has loaded, or the load of a number. -/
abbrev Loads := Text → Option (Option Nat)

namespace Loads

/-- What the names hold after one has given up the load of a number, if it was holding that. -/
def release (loads : Loads) (name : Text) (number : Nat) : Loads := fun other =>
  if other = name ∧ loads other = some (some number) then none else loads other

variable {loads : Loads} {name other : Text} {number : Nat}

theorem release_of_ne (h : loads other ≠ some (some number)) :
    loads.release name number other = loads other :=
  if_neg fun hboth => h hboth.2

theorem release_eq_some_iff {load : Option Nat} :
    loads.release name number other = some load ↔
      loads other = some load ∧ ¬(other = name ∧ load = some number) := by
  rw [release]
  split
  · next hboth =>
    obtain ⟨rfl, hl⟩ := hboth
    simp [hl, eq_comm]
  · next hboth =>
    refine ⟨fun h => ⟨h, ?_⟩, And.left⟩
    rintro ⟨hn, hl⟩
    exact hboth ⟨hn, hl ▸ h⟩

end Loads

namespace LoadedModule

/-- The number of the load, for a module that a scope has loaded. -/
def load? : LoadedModule → Option Nat
  | .foreign => none
  | .container m => some m.number

theorem isOfLoad_iff {found : LoadedModule} {number : Nat} :
    found.isOfLoad number = true ↔ found.load? = some number := by
  cases found <;> simp [isOfLoad, load?]

/-- Running code in a module changes its names and not its load. -/
@[simp]
theorem load?_updated (m : ContainerModule) (found : LoadedModule) :
    (found.updated m).load? = found.load? := by
  rw [updated]
  split
  · next h => exact (isOfLoad_iff.1 h).symm
  · rfl

end LoadedModule

namespace LoadedModules

/-- What each name holds among loaded modules. -/
def loads (modules : LoadedModules) : Loads := fun name =>
  (modules.find? name).map LoadedModule.load?

variable {modules : LoadedModules} {name : Text}

theorem has_iff : modules.has name = true ↔ modules.loads name ≠ none := by
  simp [has, loads, Option.isSome_iff_ne_none]

theorem loads_eq_none_iff : modules.loads name = none ↔ modules.find? name = none := by
  simp [loads]

theorem loads_eq_some_iff {load : Option Nat} :
    modules.loads name = some load ↔ ∃ found, modules.find? name = some found ∧
      found.load? = load :=
  Option.map_eq_some_iff

theorem loads_add (h : modules.loads name = none) (added : LoadedModule) :
    (modules.add name added).loads = Function.update modules.loads name (some added.load?) := by
  funext other
  by_cases ho : other = name
  · subst ho
    rw [Function.update_self, loads, find?_add_self (loads_eq_none_iff.1 h), Option.map_some]
  · rw [Function.update_of_ne ho, loads, find?_add_of_ne ho, loads]

theorem loads_remove (name : Text) (modules : LoadedModules) :
    (modules.remove name).loads = Function.update modules.loads name none := by
  funext other
  by_cases ho : other = name
  · subst ho
    rw [Function.update_self, loads, find?_remove_self, Option.map_none]
  · rw [Function.update_of_ne ho, loads, find?_remove_of_ne ho, loads]

/-- A name that does not hold the load keeps what it holds. -/
theorem removeLoad_of_ne {number : Nat} (h : modules.loads name ≠ some (some number)) :
    modules.removeLoad name number = modules := by
  rw [removeLoad]
  split
  · next found hf =>
    refine if_neg fun hload => h ?_
    rw [loads, hf, Option.map_some, LoadedModule.isOfLoad_iff.1 hload]
  · rfl

/-- Only the load of the number is removed. -/
theorem loads_removeLoad (name : Text) (number : Nat) (modules : LoadedModules) :
    (modules.removeLoad name number).loads = modules.loads.release name number := by
  by_cases hl : modules.loads name = some (some number)
  · obtain ⟨found, hf, hfound⟩ := loads_eq_some_iff.1 hl
    have hremove : modules.removeLoad name number = modules.remove name := by
      rw [removeLoad, hf]
      exact if_pos (LoadedModule.isOfLoad_iff.2 hfound)
    funext other
    rw [hremove, loads_remove]
    by_cases ho : other = name
    · subst ho
      rw [Function.update_self, Loads.release, if_pos ⟨rfl, hl⟩]
    · rw [Function.update_of_ne ho, Loads.release, if_neg fun hboth => ho hboth.1]
  · funext other
    rw [removeLoad_of_ne hl, Loads.release]
    refine (if_neg ?_).symm
    rintro ⟨rfl, hboth⟩
    exact hl hboth

@[simp]
theorem loads_update (m : ContainerModule) (modules : LoadedModules) :
    (modules.update m).loads = modules.loads := by
  funext name
  rw [loads, find?_update, Option.map_map, loads]
  congr 1
  funext found
  exact LoadedModule.load?_updated m found

end LoadedModules

/-! ## Running code -/

@[simp]
theorem ContainerModule.number_load (number : Nat) (codeNamespace file : Text) (memory : Memory)
    (statements : List Statement) :
    (ContainerModule.load number codeNamespace file memory statements).result.number = number :=
  rfl

namespace Workspace

@[simp]
theorem loads_run {α : Type} (workspace : Workspace) (m : ContainerModule) (code : Eval α) :
    (workspace.run m code).workspace.modules.loads = workspace.modules.loads :=
  LoadedModules.loads_update _ _

theorem loads_resolve (workspace : Workspace) (home : ContainerModule) (body : ClassBody) :
    (workspace.resolve home body).workspace.modules.loads = workspace.modules.loads := by
  rw [resolve]
  split
  · rfl
  · exact loads_run _ _ _
  · rfl

/-- The classes are taken one by one, each in what the one before it has left. -/
theorem loads_resolveAll (home : ContainerModule) (workspace : Workspace)
    (bodies : List ClassBody) :
    (resolveAll home workspace bodies).workspace.modules.loads = workspace.modules.loads := by
  induction bodies generalizing workspace with
  | nil => rfl
  | cons body rest ih =>
    rw [resolveAll]
    have hfirst := loads_resolve workspace home body
    split
    · exact hfirst
    · exact (ih _).trans hfirst

end Workspace

/-! ## Reading -/

namespace Scope

theorem loads_entities (scope : Scope) (workspace : Workspace) :
    (scope.entities workspace).workspace.modules.loads = workspace.modules.loads :=
  Workspace.loads_run _ _ _

theorem loads_attributes (scope : Scope) (workspace : Workspace) :
    (scope.attributes workspace).workspace.modules.loads = workspace.modules.loads := by
  have htypes := Workspace.loads_resolveAll scope.home workspace (scope.lineage workspace)
  rw [attributes, Transition.andThen]
  split
  · exact htypes
  · exact (Workspace.loads_run _ _ _).trans htypes

/-- Reading the schema of a container loads and unloads nothing. -/
theorem loads_snapshot (scope : Scope) (workspace : Workspace) :
    (scope.snapshot workspace).workspace.modules.loads = workspace.modules.loads := by
  have hentities := loads_entities scope workspace
  rw [snapshot, Transition.andThen]
  split
  · exact hentities
  · exact (loads_attributes _ _).trans hentities

/-! ## Entering and leaving -/

/-- The name under which the module of a scope is loaded. -/
def moduleName (scope : Scope) : Text :=
  scope.identity.containerNamespace

/-- The module of an identity ends the program while it is imported as the load of a number. -/
def importEndsProgram (tree : Tree) (number : Nat) (identity : SchemaIdentity)
    (workspace : Workspace) : Bool :=
  match statements? tree identity workspace.modules with
  | .error _ => false
  | .ok statements =>
    let file := (tree.absolute (Path.ofText identity.moduleLocation)).text
    match (ContainerModule.load number identity.containerNamespace file
      (workspace.memory.ofLoad number) statements).outcome with
    | .error fault => fault.toRaised.endsProgram
    | .ok () => false

/-- A module is loaded only under a name that is free. -/
theorem loads_eq_none_of_statements? {tree : Tree} {identity : SchemaIdentity}
    {modules : LoadedModules} {statements : List Statement}
    (h : statements? tree identity modules = .ok statements) :
    modules.loads identity.containerNamespace = none := by
  by_contra hne
  have hhas := LoadedModules.has_iff.2 hne
  rw [statements?] at h
  split at h
  · cases h
  · cases h
  · rw [hhas] at h
    cases hf : ModuleFormat.ofPath? (Path.ofText identity.moduleLocation) with
    | none =>
      rw [hf] at h
      cases h
    | some format =>
      rw [hf] at h
      cases h

/-- Nothing is imported under a name that is taken. -/
theorem importEndsProgram_of_taken {tree : Tree} {number : Nat} {identity : SchemaIdentity}
    {workspace : Workspace} (h : workspace.modules.loads identity.containerNamespace ≠ none) :
    importEndsProgram tree number identity workspace = false := by
  rw [importEndsProgram]
  cases hs : statements? tree identity workspace.modules with
  | error failure => rfl
  | ok statements => exact absurd (loads_eq_none_of_statements? hs) h

section MakeContainer

variable {identity : SchemaIdentity} {workspace : Workspace} {loaded : CodeRun Unit}

/-- A container that cannot be made leaves the loaded modules as they were. -/
theorem modules_makeContainer_of_error {failure : Failure}
    (h : (makeContainer identity workspace loaded).result = .error failure) :
    (makeContainer identity workspace loaded).workspace.modules = workspace.modules := by
  revert h
  simp only [makeContainer]
  split
  · intro; rfl
  · intro; rfl
  · split
    · intro; rfl
    · intro h; cases h

/-- A container that is made belongs to the module as it was loaded, which now has the name. -/
theorem eq_of_makeContainer_ok {scope : Scope}
    (h : (makeContainer identity workspace loaded).result = .ok scope) :
    scope.identity = identity ∧ scope.number = loaded.result.number ∧
      (makeContainer identity workspace loaded).workspace.modules =
        workspace.modules.add identity.containerNamespace (.container scope.home) := by
  revert h
  simp only [makeContainer]
  split
  · intro h; cases h
  · intro h; cases h
  · split
    · intro h; cases h
    · intro h
      cases h
      exact ⟨rfl, rfl, rfl⟩

end MakeContainer

section Enter

variable {tree : Tree} {number : Nat} {identity : SchemaIdentity} {workspace : Workspace}

/-- **A scope that cannot be entered leaves the loaded modules as they were**, unless its module
ends the program. -/
theorem modules_enter_of_error (hend : importEndsProgram tree number identity workspace = false)
    {failure : Failure} (h : (enter tree number identity workspace).result = .error failure) :
    (enter tree number identity workspace).workspace.modules = workspace.modules := by
  revert h hend
  rw [importEndsProgram, enter]
  cases hs : statements? tree identity workspace.modules with
  | error refusal =>
    intros
    rfl
  | ok statements =>
    simp only
    cases (ContainerModule.load number identity.containerNamespace
      (tree.absolute (Path.ofText identity.moduleLocation)).text
      (workspace.memory.ofLoad number) statements).outcome with
    | error fault =>
      intro hend _
      exact if_neg (by simpa using hend)
    | ok =>
      intro _
      exact modules_makeContainer_of_error

/-- **A module that ends the program while it is imported stays loaded**, under a name that was
free. -/
theorem modules_enter_of_endsProgram
    (hend : importEndsProgram tree number identity workspace = true) :
    workspace.modules.loads identity.containerNamespace = none ∧
      ∃ m, m.number = number ∧ (enter tree number identity workspace).workspace.modules =
        workspace.modules.add identity.containerNamespace (.container m) := by
  revert hend
  rw [importEndsProgram, enter]
  cases hs : statements? tree identity workspace.modules with
  | error refusal =>
    intro hend
    cases hend
  | ok statements =>
    simp only
    cases (ContainerModule.load number identity.containerNamespace
      (tree.absolute (Path.ofText identity.moduleLocation)).text
      (workspace.memory.ofLoad number) statements).outcome with
    | error fault =>
      intro hend
      exact ⟨loads_eq_none_of_statements? hs, _, ContainerModule.number_load .., if_pos hend⟩
    | ok =>
      intro hend
      cases hend

/-- A scope that is entered has its module under the name of its namespace, which was free. -/
theorem modules_enter_of_ok {scope : Scope}
    (h : (enter tree number identity workspace).result = .ok scope) :
    scope.identity = identity ∧ scope.number = number ∧
      workspace.modules.loads identity.containerNamespace = none ∧
      (enter tree number identity workspace).workspace.modules =
        workspace.modules.add identity.containerNamespace (.container scope.home) := by
  revert h
  rw [enter]
  cases hs : statements? tree identity workspace.modules with
  | error refusal =>
    intro h
    cases h
  | ok statements =>
    simp only
    split
    · intro h
      cases h
    · intro h
      obtain ⟨hidentity, hnumber, hmodules⟩ := eq_of_makeContainer_ok h
      rw [ContainerModule.number_load] at hnumber
      exact ⟨hidentity, hnumber, loads_eq_none_of_statements? hs, hmodules⟩

/-- **A scope that is entered takes the name of its namespace**, which was free. -/
theorem loads_enter_of_ok {scope : Scope}
    (h : (enter tree number identity workspace).result = .ok scope) :
    scope.identity = identity ∧ scope.number = number ∧
      workspace.modules.loads identity.containerNamespace = none ∧
      (enter tree number identity workspace).workspace.modules.loads =
        Function.update workspace.modules.loads identity.containerNamespace
          (some (some number)) := by
  obtain ⟨hidentity, hnumber, hfree, hmodules⟩ := modules_enter_of_ok h
  have hload : LoadedModule.load? (.container scope.home) = some number := congrArg some hnumber
  refine ⟨hidentity, hnumber, hfree, ?_⟩
  rw [hmodules, LoadedModules.loads_add hfree, hload]

/-- Whatever comes of it, entering a scope changes nothing or takes the name of its namespace. -/
theorem loads_enter (tree : Tree) (number : Nat) (identity : SchemaIdentity)
    (workspace : Workspace) :
    (enter tree number identity workspace).workspace.modules.loads = workspace.modules.loads ∨
      workspace.modules.loads identity.containerNamespace = none ∧
        (enter tree number identity workspace).workspace.modules.loads =
          Function.update workspace.modules.loads identity.containerNamespace
            (some (some number)) := by
  cases hresult : (enter tree number identity workspace).result with
  | ok scope => exact .inr (loads_enter_of_ok hresult).2.2
  | error failure =>
    cases hend : importEndsProgram tree number identity workspace with
    | false => exact .inl (congrArg LoadedModules.loads (modules_enter_of_error hend hresult))
    | true =>
      obtain ⟨hfree, m, hnumber, hmodules⟩ := modules_enter_of_endsProgram hend
      refine .inr ⟨hfree, ?_⟩
      rw [hmodules, LoadedModules.loads_add hfree, LoadedModule.load?, hnumber]

end Enter

/-- **A scope that is left frees its name only if the name still holds its load.** It does not
matter whether its container can be closed. -/
theorem loads_leave (scope : Scope) (workspace : Workspace) :
    (scope.leave workspace).workspace.modules.loads =
      workspace.modules.loads.release scope.moduleName scope.number := by
  have hleave : (scope.leave workspace).workspace.modules =
      (workspace.run scope.home scope.close).workspace.modules.removeLoad
        scope.moduleName scope.number := by
    rw [leave]
    split <;> rfl
  rw [hleave, LoadedModules.loads_removeLoad, Workspace.loads_run]

end Scope

end QueryScaffold
