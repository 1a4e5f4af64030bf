import QueryScaffold.Evaluation.Making

/-!
# The code of modules' functions

* `Eval.raise`: the exception that code raises;
* `Eval.runConstructor`, `Eval.runCloser`: the code of a class's functions;
* `Eval.callFunction`: what a call of a function of a module gives.

The code of a container sees its own parameters, and then the names of its module. A function of a
module takes any arguments and gives null.
-/

namespace QueryScaffold

namespace Eval

/-- Raises what a call with a message gives. -/
def raise {α : Type} (run : Interpreter) (place : Place) (raising : Raising) : Eval α := do
  let message := Expression.constant (.text raising.message)
  raiseValue run place (← run.evaluate place (.call raising.kind [(.byPlace, message)]))

/-- The name of the class of an instance, as code asks for it. -/
def askClassName (run : Interpreter) (place : Place) : Eval Text := do
  let asked := Expression.part (.call (.name "type") [(.byPlace, .name "self")]) "__name__"
  return (← run.evaluate place asked).plainText

/-- The name of a constructor's parameter for the connection string. -/
def connectionName : Text := "connection_string"

/-- How code refuses a connection string that does not start as it should. -/
def refusal : Raising := ⟨.name "ValueError", "unsupported connection string"⟩

/-- The code of a constructor: it refuses a text that does not start as it should, then it fails if
it is to fail, and at last it reports its class. -/
def runConstructor (run : Interpreter) (place : Place) (constructor : Constructor) :
    Eval Unit := do
  match constructor.expectedStart with
  | some start =>
    let asked := Expression.call (.part (.name connectionName) "startswith")
      [(.byPlace, .constant (.text start))]
    if (← run.evaluate place asked).isTruthy then pure () else raise run place refusal
  | none => pure ()
  match constructor.failure with
  | some raising => raise run place raising
  | none => pure ()
  if constructor.reported then
    let name ← askClassName run place
    let source ← run.evaluate place (.name connectionName)
    report (.made name source.plainText)
  else pure ()

/-- The code that closes a container: it reports its class, and then it fails if it is to fail. -/
def runCloser (run : Interpreter) (place : Place) (failure : Option Raising) (reported : Bool) :
    Eval Unit := do
  if reported then report (.closing (← askClassName run place)) else pure ()
  match failure with
  | some raising => raise run place raising
  | none => pure ()

/-- The parameters of the functions that take an instance alone. -/
def selfSignature : Signature := [(⟨.plain, "self"⟩, none)]

/-- Where the code of a function runs whose parameters have values. -/
def enterFunction (name : Text) (signature : Signature) (arguments : CallArguments) : Eval Place := do
  let given ← bindAll name signature arguments
  let own := signature.map fun parameter => parameter.1.name
  let frame ← addFrame { name, isFunction := true, own, names := given }
  return { frames := [frame] }

/-- What a call of a function of a module gives. -/
def callFunction (run : Interpreter) (owner : Option ClassRef) (name : Text)
    (arguments : CallArguments) : Eval Value := do
  let env ← get
  let full := Value.functionName owner name
  match (owner.bind env.class?).bind fun c => c.function? name with
  | some (.construction signature constructor) =>
    runConstructor run (← enterFunction full signature arguments) constructor
    return .null
  | some (.closing failure reported) =>
    runCloser run (← enterFunction full selfSignature arguments) failure reported
    return .null
  | none => return .null

end Eval

end QueryScaffold
