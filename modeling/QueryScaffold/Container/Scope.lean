import QueryScaffold.Container.Workspace
import QueryScaffold.Files.Tree
import QueryScaffold.Report.Failure
import QueryScaffold.Report.Notice

/-!
# Container scopes

A container is used within a scope: entering it loads the module of the container and makes the
container, leaving it closes the container and unloads the module.

* `Transition`: what an operation on a scope does to what code shares, and what is reported of it;
* `Scope`: a container that is in use;
* `Scope.enter`, `Scope.leave`.

A scope that cannot be entered leaves the loaded modules as they were, except where the module ends
the program while it is loaded. Leaving a scope removes its module only while the module is still
the one that the scope has loaded.
-/

namespace QueryScaffold

/-- What an operation on a scope does. -/
structure Transition (α : Type) where
  workspace : Workspace
  events : List ContainerEvent
  records : List Record
  result : Except Failure α

/-- A container that is in use. -/
structure Scope where
  identity : SchemaIdentity
  container : Value
  /-- The class of the container. -/
  containerClass : ClassRef
  /-- The module of the container, as this scope has loaded it. -/
  home : ContainerModule

namespace Transition

/-- Nothing but a failure. -/
def refused {α : Type} (workspace : Workspace) (failure : Failure) : Transition α :=
  { workspace, events := [], records := [], result := .error failure }

/-- What running code does, with the failures that its faults are. -/
def ofEffect {α : Type} (failureOf : CodeFault → Failure) (effect : Effect α) : Transition α :=
  { workspace := effect.workspace
    events := effect.events
    records := []
    result := effect.result.mapError failureOf }

end Transition

/-- The ways in which a file can be loaded as a module. -/
inductive ModuleFormat
  /-- A text of statements. -/
  | statements
  /-- Compiled statements, which no file here holds. -/
  | compiled
  /-- A part of the system, which no file here is. -/
  | system
deriving DecidableEq, Repr

namespace ModuleFormat

/-- The format of the file at a path, known by the ending of the path. -/
def ofPath? (path : Path) : Option ModuleFormat :=
  if path.endsWith ".so" then some .system
  else if path.endsWith ".py" then some .statements
  else if path.endsWith ".pyc" then some .compiled
  else none

end ModuleFormat

namespace Scope

/-- The least number of bytes of a part of the system. -/
def minSystemBytes : Nat := 64

/-- Why the file at a path is no part of the system. -/
def systemFailure (tree : Tree) (path : Path) : Failure :=
  let reason : Text :=
    if tree.isShorter minSystemBytes path then "file too short" else "invalid ELF header"
  .raised (.ofKind "ImportError" ((tree.absolute path).text ++ (": " : Text) ++ reason))

/-- The number of bytes by which compiled statements are known. -/
def formatBytes : Nat := 4

/-- The statements of the module of an identity, unless it cannot be loaded. -/
def statements? (tree : Tree) (identity : SchemaIdentity) (modules : LoadedModules) :
    Except Failure (List Statement) :=
  let path := Path.ofText identity.moduleLocation
  match tree.isFile path with
  | .error fault => .error (.path fault)
  | .ok false => .error (.resolution (.moduleMissing path.text))
  | .ok true =>
    match ModuleFormat.ofPath? path, modules.has identity.containerNamespace with
    | none, _ => .error (.resolution (.notModule path.text))
    | some _, true => .error (.resolution (.nameTaken identity.containerNamespace))
    | some .statements, false => .ok (tree.statements path)
    | some .compiled, false =>
      .error (.resolution
        (.notCompiled path.text identity.containerNamespace (tree.start formatBytes path)))
    | some .system, false => .error (systemFailure tree path)

/-- What becomes of a fault at which the making of the container has stopped. -/
def constructionFailure (identity : SchemaIdentity) (fault : CodeFault) : Failure :=
  if fault.toRaised.refusesArgument then .resolution (.rejected identity.schemaName fault)
  else .raised fault.toRaised.leavingScope

/-- What becomes of a fault at which the statements of the module have stopped. -/
def importFailure (identity : SchemaIdentity) (fault : CodeFault) : Failure :=
  if fault.toRaised.endsProgram then .raised fault.toRaised
  else .resolution (.importFailed (Path.ofText identity.moduleLocation).text fault)

/-- Makes the container: an instance of a class, with the class that it is an instance of. -/
def construct (ref : ClassRef) (connectionString : Text) : Eval (Value × ClassRef) := do
  let container ←
    interpreter.call {} (.ofClass ref) { places := [.text connectionString] }
  return (container, (← get).classOf container)

/-- Makes the container in a module that was loaded; only then the module stays loaded. -/
def makeContainer (identity : SchemaIdentity) (workspace : Workspace) (loaded : CodeRun Unit) :
    Transition Scope :=
  let found := loaded.result.run loaded.memory (Eval.containerClass identity.schemaName)
  let failed (memory : Memory) (events : List ContainerEvent) (failure : Failure) :
      Transition Scope :=
    { workspace :=
        { workspace with memory := workspace.memory.keep loaded.result.number memory }
      events := loaded.events ++ found.events ++ events
      records := []
      result := .error failure }
  match found.outcome with
  | .error fault => failed found.memory [] (.raised fault.toRaised.leavingScope)
  | .ok none =>
    failed found.memory []
      (.resolution (.noContainer identity.containerNamespace identity.schemaName))
  | .ok (some ref) =>
    let made := found.result.run found.memory (construct ref identity.connectionString)
    match made.outcome with
    | .error fault => failed made.memory made.events (constructionFailure identity fault)
    | .ok (container, containerClass) =>
      { workspace :=
          { modules :=
              workspace.modules.add identity.containerNamespace (.container made.result)
            memory := workspace.memory.keep loaded.result.number made.memory }
        events := loaded.events ++ found.events ++ made.events
        records := [⟨none, .opened identity.schemaName⟩]
        result := .ok { identity, container, containerClass, home := made.result } }

/-- The modules after the statements of one have stopped at a fault. A fault that ends the program
leaves the module behind. -/
def modulesAfter (identity : SchemaIdentity) (modules : LoadedModules) (m : ContainerModule)
    (fault : CodeFault) : LoadedModules :=
  if fault.toRaised.endsProgram then modules.add identity.containerNamespace (.container m)
  else modules

/-- Loads the module of an identity as the load of a number, and makes the container. -/
def enter (tree : Tree) (number : Nat) (identity : SchemaIdentity) (workspace : Workspace) :
    Transition Scope :=
  match statements? tree identity workspace.modules with
  | .error failure => .refused workspace failure
  | .ok statements =>
    let file := (tree.absolute (Path.ofText identity.moduleLocation)).text
    let loaded := ContainerModule.load number identity.containerNamespace file
      (workspace.memory.ofLoad number) statements
    match loaded.outcome with
    | .error fault =>
      { workspace :=
          { modules := modulesAfter identity workspace.modules loaded.result fault
            memory := workspace.memory.keep number loaded.memory }
        events := loaded.events
        records := []
        result := .error (importFailure identity fault) }
    | .ok () => makeContainer identity workspace loaded

/-- The number of the load of the module. -/
def number (scope : Scope) : Nat := scope.home.number

/-- Calls the attribute `close` of the container, if there is one that can be called. -/
def close (scope : Scope) : Eval Unit := do
  let closer ← Eval.partOr scope.container "close" (pure .null)
  if (← get).isCallable closer then
    let _ ← interpreter.call {} closer {}
  else pure ()

/-- Closes the container and unloads its module. A failure to close takes the place of any other
outcome of the scope. -/
def leave (scope : Scope) (workspace : Workspace) : Transition Unit :=
  let effect := workspace.run scope.home scope.close
  let remaining : Workspace :=
    { effect.workspace with
      modules :=
        effect.workspace.modules.removeLoad scope.identity.containerNamespace scope.number }
  match effect.result with
  | .error fault =>
    { workspace := remaining
      events := effect.events
      records := []
      result := .error (.raised fault.toRaised.leavingScope) }
  | .ok () =>
    { workspace := remaining
      events := effect.events
      records := [⟨none, .closed scope.identity.schemaName⟩]
      result := .ok () }

end Scope

end QueryScaffold
