import QueryScaffold.Evaluation.Interpreter

/-!
# Arguments and parameters

A call hands over arguments without and with names, and a function gives them to its parameters.

* `CallArguments.bind`: the parameters with their values, or why the arguments do not fit;
* `CallArguments.placed`, `CallArguments.giveNamed`: the steps before the defaults.

Arguments without names go to the parameters in order, and those with names to the parameters of
these names. What is left of either is kept together if the function has a parameter for it. A
parameter that is not given takes its default.
-/

namespace QueryScaffold

namespace Signature

/-- The names of the parameters that are taken in some ways. -/
def namesOf (ways : List ParameterWay) (signature : Signature) : List Text :=
  (signature.filter fun parameter => ways.contains parameter.1.way).map fun parameter =>
    parameter.1.name

/-- The names of the parameters that are taken by their places. -/
def byPlace (signature : Signature) : List Text :=
  signature.namesOf [.byPlace, .plain]

/-- The names of the parameters that are taken by their names. -/
def byName (signature : Signature) : List Text :=
  signature.namesOf [.plain, .byName]

/-- The name of the parameter that is taken in one way. -/
def only? (way : ParameterWay) (signature : Signature) : Option Text :=
  (signature.namesOf [way]).head?

/-- The default of a parameter. -/
def default? (name : Text) (signature : Signature) : Option Value :=
  (signature.find? fun parameter => parameter.1.name = name).bind Prod.snd

end Signature

namespace CallArguments

/-- The parameters that get their values by their places. -/
def placed (signature : Signature) (arguments : CallArguments) : NameTable :=
  signature.byPlace.zip arguments.places

/-- Parameters with those values besides that arguments with names give them, and the arguments that
belong to no parameter. -/
def giveNamed (signature : Signature) (names : List Text) :
    List (Text × Value) → NameTable → Except BindingFault (NameTable × List (Text × Value))
  | [], given => .ok (given, [])
  | (name, value) :: rest, given =>
    if signature.byName.contains name then
      if (given.find? name).isSome then .error (.repeated name)
      else giveNamed signature names rest (given ++ [(name, value)])
    else if (signature.only? .restByName).isSome then
      (giveNamed signature names rest given).map fun (given, others) =>
        (given, (name, value) :: others)
    else
      match (signature.namesOf [.byPlace]).filter names.contains with
      | [] => .error (.unexpected name)
      | placed => .error (.byPlaceAlone placed)

/-- The parameters among some that have neither a value nor a default. -/
def missing (signature : Signature) (given : NameTable) (names : List Text) : List Text :=
  names.filter fun name => (given.find? name).isNone && (signature.default? name).isNone

/-- Why parameters with some of their values do not fit so many arguments without names. -/
def countFault? (signature : Signature) (given : NameTable) (places : Nat) :
    Option BindingFault :=
  let names := signature.byPlace
  let defaults := names.countP fun name => (signature.default? name).isSome
  let apart := signature.namesOf [.byName]
  if names.length < places && (signature.only? .rest).isNone then
    let named := apart.countP fun name => (given.find? name).isSome
    some (.tooMany (names.length - defaults) names.length places named)
  else if missing signature given names ≠ [] then
    some (.missing false (missing signature given names))
  else if missing signature given apart ≠ [] then
    some (.missing true (missing signature given apart))
  else none

/-- The values of parameters that have a default and no other value. -/
def defaults (signature : Signature) (given : NameTable) : NameTable :=
  signature.filterMap fun (parameter, default) =>
    match given.find? parameter.name, default with
    | none, some value => some (parameter.name, value)
    | _, _ => none

/-- The parameters of a function with the values that arguments give them. -/
def bind (signature : Signature) (arguments : CallArguments) : Except BindingFault NameTable :=
  match giveNamed signature (arguments.named.map Prod.fst) arguments.named
    (arguments.placed signature) with
  | .error fault => .error fault
  | .ok (given, others) =>
    match countFault? signature given arguments.places.length with
    | some fault => .error fault
    | none =>
      let rest := (signature.only? .rest).toList.map fun name =>
        (name, Value.tuple (arguments.places.drop signature.byPlace.length))
      let restByName := (signature.only? .restByName).toList.map fun name =>
        (name, Value.dictionary (others.map fun other => (.text other.1, other.2)))
      .ok (given ++ defaults signature given ++ rest ++ restByName)

end CallArguments

namespace Eval

/-- The parameters of a function of a name with the values that arguments give them. -/
def bindAll (name : Text) (signature : Signature) (arguments : CallArguments) : Eval NameTable :=
  match arguments.bind signature with
  | .ok given => pure given
  | .error fault => throw (.binding name fault)

end Eval

end QueryScaffold
