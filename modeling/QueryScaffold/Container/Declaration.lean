import QueryScaffold.Evaluation.Evaluator

/-!
# Class statements

A class statement looks its bases up, settles what they stand for as bases, runs the body of the
class and then makes the class.

* `ClassDeclaration.runBody`: the body of the class;
* `ClassDeclaration.declare`: the value that a class statement makes.

If the bases are no classes but values of another kind, that kind is called in place of the making
of a class.
-/

namespace QueryScaffold

/-- Named values with one of them put: in the place of an earlier one of its name, or else at the
end. -/
def putNamed {α : Type} (name : Text) (value : α) : List (Text × α) → List (Text × α)
  | [] => [(name, value)]
  | (other, earlier) :: rest =>
    if other = name then (name, value) :: rest
    else (other, earlier) :: putNamed name value rest

/-- Named values with the last value of each name in the first place of the name. -/
def lastValues {α : Type} (named : List (Text × α)) : List (Text × α) :=
  named.foldl (fun done entry => putNamed entry.1 entry.2 done) []

namespace Eval

/-- Gives a name a value in the code of a class or of a module. -/
def define (name : Text) (value : Value) : Eval Unit :=
  modify fun env => env.giveOutside name value

/-- The value of a name in the code of a class or of a module. -/
def nameValue (name : Text) : Eval Value := do
  return ((← get).outside? name).getD .null

/-- Runs code as the body of a class, with names that are there before, and gives the names that it
leaves as well. What is around it is as before, also after a fault. -/
def inClassBody {α : Type} (names : NameTable) (code : Eval α) : Eval (α × NameTable) := do
  let around := (← get).level
  modify fun env => { env with level := .classBody names }
  let restore : Eval Unit := modify fun env => { env with level := around }
  let result ← tryCatch code fun fault => do
    restore
    throw fault
  let left : NameTable := match (← get).level with
    | .classBody names => names
    | _ => []
  restore
  return (result, left)

end Eval

namespace RegistryMember

/-- The value of an item of a registry. -/
def value : RegistryMember → Eval Value
  | .reference item => Eval.valueOf item
  | .literal value => pure (.ofJson value)

end RegistryMember

namespace RegistryForm

/-- The value of a registry. -/
def value : RegistryForm → Eval Value
  | .members items => do return .tuple (← items.mapM RegistryMember.value)
  | .literal value => pure (.ofJson value)

end RegistryForm

namespace Constructor

/-- The parameters of a constructor with the values of their defaults. -/
def signature (constructor : Constructor) : Eval Signature :=
  constructor.parameters.mapM fun parameter => do
    let default ← match parameter.default with
      | some e => some <$> Eval.valueOf e
      | none => pure none
    return (⟨parameter.way, parameter.name⟩, default)

end Constructor

namespace ClassDeclaration

/-- The names that the body of a class has at its start. -/
def namesAtStart (declaration : ClassDeclaration) (codeNamespace : Value) : NameTable :=
  let written := (lastValues declaration.annotations).map fun (name, written) =>
    (Value.text name, Value.text written)
  let annotations : NameTable :=
    if written.isEmpty then [] else [("__annotations__", .dictionary written)]
  ("__module__", codeNamespace) :: ("__qualname__", .text declaration.name) :: annotations

/-- Runs the body of the class: gives names their values, and gives the functions that belong to the
class, by their names. -/
def runBody (declaration : ClassDeclaration) : Eval (List (Text × ClassFunction)) := do
  match declaration.registry with
  | some form => Eval.define "entity_types" (← form.value)
  | none => pure ()
  let constructions ← declaration.construction.toList.mapM fun (constructor : Constructor) => do
    return (("__init__" : Text), ClassFunction.construction (← constructor.signature) constructor)
  match declaration.closer with
  | some (.method failure reported) =>
    return constructions ++ [(("close" : Text), ClassFunction.closing failure reported)]
  | some (.attribute value) =>
    Eval.define "close" (.ofJson value)
    return constructions
  | none => return constructions

/-- The values of the bases, with the items of spreads among them. -/
def baseValues (declaration : ClassDeclaration) : Eval (List Value) := do
  let values ← declaration.bases.mapM fun (base : Expression) => do
    let place := Place.outside (← get) base
    Eval.evaluateItems interpreter interpreter.spread place [base]
  return values.flatten

/-- What comes of a class with bases of a kind: a class, or what a call of the kind gives. -/
def make (kind : Text) (plan : ClassPlan) : Eval Value := do
  if Class.isKindOf kind Metaclass.type.name then Eval.createClass plan
  else
    let env ← get
    let maker := (plan.bases.find? fun base => env.kindName base = kind).map env.classOf
    interpreter.call {} (.ofClass (maker.getD .type))
      { places := [.text plan.name, .tuple plan.bases, Eval.dictionaryOf plan.members] }

/-- The value that a class statement makes. -/
def declare (declaration : ClassDeclaration) : Eval Value := do
  let written ← declaration.baseValues
  let bases ← written.mapM fun (base : Value) => do
    match (← get).basesOf written base with
    | .ok bases => pure bases
    | .error fault => throw (.creation fault)
  let bases := bases.flatten
  let kind ← match (← get).kindOfBases bases with
    | .ok kind => pure kind
    | .error fault => throw (.creation fault)
  let codeNamespace ← Eval.nameValue "__name__"
  let (functions, names) ←
    Eval.inClassBody (declaration.namesAtStart codeNamespace) declaration.runBody
  let space := CodeNamespace.ofValue codeNamespace
  let env ← get
  let ref := ClassRef.declared env.load env.nextClass space declaration.name
  let members := functions.map fun function =>
    (function.1, Value.function space.text (some ref) function.1)
  make kind
    { name := declaration.name, written, bases, functions
      members := (names.filter fun entry => entry.1 ≠ ("__qualname__" : Text)) ++ members }

end ClassDeclaration

end QueryScaffold
