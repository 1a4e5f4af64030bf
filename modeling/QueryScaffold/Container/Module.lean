import QueryScaffold.Container.Declaration
import QueryScaffold.Container.Statement

/-!
# Loading container modules

The statements of a module run one after the other and give its names their meaning.

* `ContainerModule`: a module that was loaded, or that failed while it was loaded;
* `ContainerModule.run`: what running code in a module gives;
* `Statement.run`: the code of a statement;
* `ContainerModule.load`: the module that statements give;
* `Eval.containerClass`: the class that a name stands for in a module.

The code of a module runs in the memory of its load.
-/

namespace QueryScaffold

/-- A container module after its load, or as far as it has been loaded. -/
structure ContainerModule where
  /-- The number of the load. -/
  number : Nat
  codeNamespace : Text
  names : NameTable

/-- What running code gives: the module and the memory after it, what was reported, and the result
or the fault at which the code stopped. -/
structure CodeRun (α : Type) where
  result : ContainerModule
  memory : Memory
  events : List ContainerEvent
  outcome : Except CodeFault α

namespace ContainerModule

/-- The name of the file in which a loaded file is kept in a form that loads faster. -/
def keptFile (file : Text) : Text :=
  let parts := file.split (CodePoint.ofChar '/')
  let directory := parts.dropLast.flatMap fun part => part ++ ("/" : Text)
  let stem := ((parts.getLastD []).split (CodePoint.ofChar '.')).dropLast
  directory ++ ("__pycache__/" : Text) ++ Text.joined "." stem ++ (".cpython-311.pyc" : Text)

/-- The names that a module has before its statements run, which are read from a file. -/
def ownNames (codeNamespace file : Text) : NameTable :=
  let package := (codeNamespace.split (CodePoint.ofChar '.')).dropLast
  [("__name__", .text codeNamespace), ("__doc__", .null),
    ("__package__", .text (Text.joined "." package)), ("__loader__", .other "SourceFileLoader" []),
    ("__spec__", .other "ModuleSpec" []), ("__file__", .text file),
    ("__cached__", .text (keptFile file)), ("__builtins__", Eval.dictionaryOf builtinNames)]

/-- A module of which no statement has run. -/
def empty (number : Nat) (codeNamespace file : Text) : ContainerModule :=
  { number, codeNamespace, names := ownNames codeNamespace file }

/-- Where the code of the module runs. -/
def environment (m : ContainerModule) (memory : Memory) : Environment :=
  { memory with names := m.names, load := m.number }

/-- What running code in the module gives. -/
def run {α : Type} (m : ContainerModule) (memory : Memory) (code : Eval α) : CodeRun α :=
  let (outcome, env) := StateT.run (ExceptT.run code) (m.environment memory)
  { result := { m with names := env.names }
    memory := env.toMemory
    events := env.events
    outcome }

end ContainerModule

namespace Statement

/-- The code of a statement. -/
def run : Statement → Eval Unit
  | .provide names => names.forM fun entry => Eval.define entry.1 entry.2
  | .declare declaration => do Eval.define declaration.name (← declaration.declare)
  | .assign name source => do Eval.define name (← Eval.valueOf source)
  | .value name literal => Eval.define name (.ofJson literal)
  | .function name => do
    let space := CodeNamespace.ofValue (← Eval.nameValue "__name__")
    Eval.define name (.function space.text none name)
  | .fail failure => Eval.raise interpreter {} failure

end Statement

/-- What loading a module gives, as the load of a number from a file. -/
def ContainerModule.load (number : Nat) (codeNamespace file : Text) (memory : Memory)
    (statements : List Statement) : CodeRun Unit :=
  (empty number codeNamespace file).run memory (statements.forM Statement.run)

namespace Eval

/-- What a module makes of a name that it does not have, if it has a function for that. -/
def missingName (name : Text) : Eval (Option Value) := do
  match (← get).names.find? "__getattr__" with
  | none => return none
  | some function =>
    tryCatch (some <$> interpreter.call {} function { places := [.text name] }) fun fault =>
      if fault.toRaised.isOf "AttributeError" then pure none else throw fault

/-- The class that a name stands for in a module. Every module has its own class and its own names
under two names more. -/
def containerClass (name : Text) : Eval (Option ClassRef) := do
  if name = ("__class__" : Text) then return some .module
  else if name = ("__dict__" : Text) then return none
  else
    let value ← match (← get).names.find? name with
      | some value => pure (some value)
      | none => missingName name
    return value.bind Value.class?

end Eval

end QueryScaffold
