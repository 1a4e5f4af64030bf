import QueryScaffold.Container.Module
import QueryScaffold.Container.Preloaded

/-!
# Loaded modules

A name has at most one loaded module. Container modules come and go; other modules were there
before.

* `LoadedModules`: the names with their modules;
* `LoadedModules.update`: the modules after code has changed the names of one;
* `LoadedModules.initial`: what is there at the start.
-/

namespace QueryScaffold

/-- A loaded module. -/
inductive LoadedModule
  /-- A module that no container scope has loaded. -/
  | foreign
  | container (m : ContainerModule)

namespace LoadedModule

/-- The module is the container module of the load of a number. -/
def isOfLoad (number : Nat) : LoadedModule → Bool
  | .foreign => false
  | .container m => m.number = number

/-- The container module that the module is. -/
def container? : LoadedModule → Option ContainerModule
  | .foreign => none
  | .container m => some m

/-- The module after code has run in a container module, which may be this one. -/
def updated (m : ContainerModule) (found : LoadedModule) : LoadedModule :=
  if found.isOfLoad m.number then .container m else found

end LoadedModule

/-- The loaded modules by name. -/
abbrev LoadedModules := List (Text × LoadedModule)

namespace LoadedModules

/-- The module of a name. -/
def find? (name : Text) : LoadedModules → Option LoadedModule
  | [] => none
  | (other, found) :: rest => if other = name then some found else find? name rest

/-- A name has a module. -/
def has (modules : LoadedModules) (name : Text) : Bool :=
  (modules.find? name).isSome

/-- The modules with one more. -/
def add (name : Text) (added : LoadedModule) (modules : LoadedModules) : LoadedModules :=
  modules ++ [(name, added)]

/-- The modules without that of a name. -/
def remove (name : Text) (modules : LoadedModules) : LoadedModules :=
  modules.filter fun entry => entry.1 ≠ name

@[simp]
theorem find?_add_self {name : Text} {modules : LoadedModules} (h : modules.find? name = none)
    (added : LoadedModule) : (modules.add name added).find? name = some added := by
  unfold add
  induction modules with
  | nil => simp [find?]
  | cons entry rest ih =>
    obtain ⟨other, found⟩ := entry
    by_cases ho : other = name
    · simp [find?, ho] at h
    · simp only [find?, if_neg ho] at h
      simp [find?, ho, ih h]

theorem find?_add_of_ne {name other : Text} (h : other ≠ name) (added : LoadedModule)
    (modules : LoadedModules) : (modules.add name added).find? other = modules.find? other := by
  unfold add
  induction modules with
  | nil => simp [find?, h.symm]
  | cons entry rest ih =>
    obtain ⟨third, found⟩ := entry
    by_cases ht : third = other <;> simp [find?, ht, ih]

@[simp]
theorem find?_remove_self (name : Text) (modules : LoadedModules) :
    (modules.remove name).find? name = none := by
  unfold remove
  induction modules with
  | nil => rfl
  | cons entry rest ih =>
    obtain ⟨other, found⟩ := entry
    by_cases ho : other = name
    · simpa [ho] using ih
    · simpa [ho, find?] using ih

theorem find?_remove_of_ne {name other : Text} (h : other ≠ name) (modules : LoadedModules) :
    (modules.remove name).find? other = modules.find? other := by
  unfold remove
  induction modules with
  | nil => rfl
  | cons entry rest ih =>
    obtain ⟨third, found⟩ := entry
    by_cases ht : third = name
    · subst ht
      simpa [find?, h.symm] using ih
    · by_cases ho : third = other
      · subst ho
        simp [find?, ht]
      · simpa [find?, ht, ho] using ih

/-- The modules without that of a name, if it is the container module of the load of a number. -/
def removeLoad (name : Text) (number : Nat) (modules : LoadedModules) : LoadedModules :=
  match modules.find? name with
  | some found => if found.isOfLoad number then modules.remove name else modules
  | none => modules

/-- The modules after code has run in a container module. -/
def update (m : ContainerModule) (modules : LoadedModules) : LoadedModules :=
  modules.map fun entry => (entry.1, entry.2.updated m)

theorem find?_update (m : ContainerModule) (name : Text) (modules : LoadedModules) :
    (modules.update m).find? name = (modules.find? name).map (LoadedModule.updated m) := by
  unfold update
  induction modules with
  | nil => rfl
  | cons entry rest ih =>
    obtain ⟨other, found⟩ := entry
    by_cases h : other = name <;> simp [find?, h, ih]

/-- The container module of the load of a number, as it is now. -/
def ofLoad? (number : Nat) (modules : LoadedModules) : Option ContainerModule :=
  modules.findSome? fun entry => if entry.2.isOfLoad number then entry.2.container? else none

/-- The modules that are there at the start. -/
def initial : LoadedModules :=
  preloadedNames.map fun name => (name, .foreign)

end LoadedModules

end QueryScaffold
