import QueryScaffold.Container.Loaded
import QueryScaffold.Evaluation.Annotation

/-!
# Code in loaded modules

All code shares the loaded modules and may change them. What code makes besides belongs to the load
whose code it is: the code of one load meets nothing that the code of another has made, except where
a class gives itself out as one of another module.

* `Memories`: what the code of each load has made, `Memories.ofLoad` and `Memories.keep`;
* `Workspace`: what code shares;
* `Effect`: what running code does and gives;
* `Workspace.run`: code that runs in a module;
* `Workspace.resolve`: the annotations of a class.

The annotations of a class see the names of the container module that is loaded for its namespace,
then the attributes of the class, and then what is built in.
-/

namespace QueryScaffold

/-- What the code of each load has made, by the number of the load. -/
abbrev Memories := List (Nat × Memory)

namespace Memories

/-- What the code of the load of a number has made. -/
def ofLoad (number : Nat) : Memories → Memory
  | [] => {}
  | (other, memory) :: rest => if other = number then memory else ofLoad number rest

/-- The memories after the code of the load of a number has run. -/
def keep (number : Nat) (memory : Memory) : Memories → Memories
  | [] => [(number, memory)]
  | (other, old) :: rest =>
    if other = number then (number, memory) :: rest else (other, old) :: keep number memory rest

@[simp]
theorem ofLoad_keep_self (number : Nat) (memory : Memory) (memories : Memories) :
    (memories.keep number memory).ofLoad number = memory := by
  induction memories with
  | nil => simp [keep, ofLoad]
  | cons entry rest ih =>
    obtain ⟨other, old⟩ := entry
    by_cases h : other = number <;> simp [keep, ofLoad, h, ih]

theorem ofLoad_keep_of_ne {number other : Nat} (h : other ≠ number) (memory : Memory)
    (memories : Memories) : (memories.keep number memory).ofLoad other = memories.ofLoad other := by
  induction memories with
  | nil => simp [keep, ofLoad, h.symm]
  | cons entry rest ih =>
    obtain ⟨third, old⟩ := entry
    by_cases ht : third = number
    · subst ht
      simp [keep, ofLoad, h.symm]
    · rw [keep, if_neg ht, ofLoad, ofLoad, ih]

end Memories

/-- What all code shares. -/
structure Workspace where
  modules : LoadedModules
  memory : Memories

/-- What running code does and gives. -/
structure Effect (α : Type) where
  workspace : Workspace
  events : List ContainerEvent
  result : Except CodeFault α

namespace Workspace

/-- What is there at the start. -/
def initial : Workspace := { modules := .initial, memory := {} }

/-- A container module as it is now; one that is loaded no longer is as it was before. -/
def current (workspace : Workspace) (m : ContainerModule) : ContainerModule :=
  (workspace.modules.ofLoad? m.number).getD m

/-- What a run of code in a module leaves. -/
def after {α : Type} (workspace : Workspace) (ran : CodeRun α) : Workspace :=
  { modules := workspace.modules.update ran.result
    memory := workspace.memory.keep ran.result.number ran.memory }

/-- What running code in a module does and gives. -/
def run {α : Type} (workspace : Workspace) (m : ContainerModule) (code : Eval α) : Effect α :=
  let ran := (workspace.current m).run (workspace.memory.ofLoad m.number) code
  { workspace := workspace.after ran, events := ran.events, result := ran.outcome }

/-- The container module that is loaded for the namespace of a class. A namespace that can change
is refused. -/
def moduleOf (workspace : Workspace) (body : ClassBody) :
    Except CodeFault (Option ContainerModule) :=
  match body.members.find? "__module__" with
  | some value =>
    match value.changeable? with
    | some kind => .error (.changeable kind)
    | none =>
      .ok ((value.text?.bind fun name => workspace.modules.find? name).bind
        LoadedModule.container?)
  | none => .ok none

/-- The types of the annotations of a class, each under the name of its attribute. The names that
are built in stand among the attributes. -/
def annotationTypes (body : ClassBody) : Eval (List (Text × Value)) := do
  let attributes := body.members.set "__builtins__" (Eval.dictionaryOf builtinNames)
  modify fun env => { env with level := .annotating attributes }
  body.annotations.mapM fun (name, written) => do
    return (name, ← Eval.resolve written)

/-- The annotations of a class with their types, where its container was made from a module. -/
def resolve (workspace : Workspace) (home : ContainerModule) (body : ClassBody) :
    Effect (List (Text × Value)) :=
  match workspace.moduleOf body with
  | .error fault => { workspace, events := [], result := .error fault }
  | .ok (some m) => workspace.run m (annotationTypes body)
  | .ok none =>
    let ran :=
      { home with names := [] }.run (workspace.memory.ofLoad home.number) (annotationTypes body)
    { workspace := { workspace with memory := workspace.memory.keep home.number ran.memory }
      events := ran.events
      result := ran.outcome }

/-- The annotations of classes with their types, up to the first fault. -/
def resolveAll (home : ContainerModule) :
    Workspace → List ClassBody → Effect (List (Text × Value))
  | workspace, [] => { workspace, events := [], result := .ok [] }
  | workspace, body :: rest =>
    let first := workspace.resolve home body
    match first.result with
    | .error fault => { first with result := .error fault }
    | .ok types =>
      let later := resolveAll home first.workspace rest
      { later with
        events := first.events ++ later.events
        result := later.result.map (types ++ ·) }

end Workspace

end QueryScaffold
