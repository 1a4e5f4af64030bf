import QueryScaffold.Expression.Basic

/-!
# Rules on expressions

Some expressions can be read and yet have no meaning, because of what stands around a part of them.

* `Expression.Standing`: what stands around a part of an expression;
* `Expression.occurrences`: the parts of an expression with what stands around each;
* `Expression.isLawful`: no part breaks a rule;
* `Expression.ownNames`: the names that the code of a function gives to values.

A value can be handed out within a function alone, but not in a comprehension. No name is given to a
value where the items of a comprehension are from, nor is a name of its items taken for another one.
The names of a function's parameters differ, and so do those of a call's arguments.
-/

namespace QueryScaffold

namespace Expression

/-- What stands around a part of an expression. -/
structure Standing where
  /-- The number of functions around the part. -/
  depth : Nat := 0
  /-- The innermost scope around the part is a function. -/
  inFunction : Bool := false
  /-- The part belongs to what the items of a comprehension are from. -/
  inItems : Bool := false
  /-- The part belongs to a comprehension. -/
  inComprehension : Bool := false
  /-- The names of the items of the comprehensions around the part, as far as a function. -/
  iterated : List Text := []

/-- The standing of a function's body. -/
def Standing.inBody (standing : Standing) : Standing :=
  { depth := standing.depth + 1, inFunction := true, inItems := standing.inItems }

/-- The standing of the inside of a comprehension whose items have names. -/
def Standing.inside (standing : Standing) (names : List Text) : Standing :=
  { standing with
    inFunction := false, inComprehension := true, iterated := names ++ standing.iterated }

/-- The standing of what the items of a comprehension are from. -/
def Standing.ofItems (standing : Standing) : Standing :=
  { standing with inItems := true }

mutual

/-- The names that a target gives to values. -/
def targetNames : Expression → List Text
  | .name n => [n]
  | .tuple items | .list items => targetNamesOfAll items
  | .spread e => targetNames e
  | _ => []

/-- The names that targets give to values. -/
def targetNamesOfAll : List Expression → List Text
  | [] => []
  | e :: rest => targetNames e ++ targetNamesOfAll rest

end

/-- The names that the clauses of a comprehension give to their items. -/
def clauseNames (clauses : List (Bool × Expression × Expression × List Expression)) : List Text :=
  clauses.flatMap fun clause => targetNames clause.2.1

mutual

/-- The expression can be given a value: names, parts, and lists of such, of which one may take what
the others leave. -/
def isTarget : Expression → Bool
  | .name _ | .part _ _ | .subscript _ _ => true
  | .tuple items | .list items => areTargets items && items.countP isSpread ≤ 1
  | _ => false

/-- The expressions, or what is spread by them, can be given values. -/
def areTargets : List Expression → Bool
  | [] => true
  | .spread e :: rest => isTarget e && areTargets rest
  | e :: rest => isTarget e && areTargets rest

end

mutual

/-- The parts of an expression with what stands around each, the expression itself among them. -/
def occurrences (standing : Standing) : Expression → List (Standing × Expression)
  | .name n => [(standing, .name n)]
  | .constant c => [(standing, .constant c)]
  | .template parts => occurrencesInAll standing parts
  | .field value conversion form =>
    occurrences standing value ++
      (match form with
        | some e => occurrences standing e
        | none => []) ++ [(standing, .field (.constant .null) conversion none)]
  | .tuple items => occurrencesInAll standing items
  | .list items => occurrencesInAll standing items
  | .set items => occurrencesInAll standing items
  | .dictionary entries => occurrencesInEntries standing entries
  | .spread e => occurrences standing e
  | .part owner n => (standing, .part owner n) :: occurrences standing owner
  | .subscript head argument => occurrences standing head ++ occurrences standing argument
  | .slice start stop step =>
    (match start with
      | some e => occurrences standing e
      | none => []) ++
    (match stop with
      | some e => occurrences standing e
      | none => []) ++
    (match step with
      | some e => occurrences standing e
      | none => [])
  | .call head arguments =>
    (standing, .call head arguments) ::
      (occurrences standing head ++ occurrencesInArguments standing arguments)
  | .signed _ operand => occurrences standing operand
  | .operation _ left right => occurrences standing left ++ occurrences standing right
  | .comparison first links => occurrences standing first ++ occurrencesInLinks standing links
  | .choice condition yes no =>
    occurrences standing condition ++ occurrences standing yes ++ occurrences standing no
  | .function parameters body =>
    (standing, .function parameters body) ::
      (occurrencesInParameters standing parameters ++ occurrences standing.inBody body)
  | .naming n value => (standing, .naming n value) :: occurrences standing value
  | .comprehension form element value clauses =>
    let inside := standing.inside (clauseNames clauses)
    (standing, .comprehension form element value clauses) ::
      (occurrences inside element ++
        (match value with
          | some e => occurrences inside e
          | none => []) ++
        occurrencesInClauses standing inside clauses)
  | .handing all value =>
    (standing, .handing all value) ::
      (match value with
        | some e => occurrences standing e
        | none => [])

/-- The same for each of some expressions. -/
def occurrencesInAll (standing : Standing) : List Expression → List (Standing × Expression)
  | [] => []
  | e :: rest => occurrences standing e ++ occurrencesInAll standing rest

/-- The same for the entries of a dictionary. -/
def occurrencesInEntries (standing : Standing) :
    List (Option Expression × Expression) → List (Standing × Expression)
  | [] => []
  | (some key, value) :: rest =>
    occurrences standing key ++ occurrences standing value ++ occurrencesInEntries standing rest
  | (none, value) :: rest => occurrences standing value ++ occurrencesInEntries standing rest

/-- The same for the arguments of a call. -/
def occurrencesInArguments (standing : Standing) :
    List (ArgumentWay × Expression) → List (Standing × Expression)
  | [] => []
  | (_, e) :: rest => occurrences standing e ++ occurrencesInArguments standing rest

/-- The same for the links of a comparison. -/
def occurrencesInLinks (standing : Standing) :
    List (Operator × Expression) → List (Standing × Expression)
  | [] => []
  | (_, e) :: rest => occurrences standing e ++ occurrencesInLinks standing rest

/-- The same for the defaults of parameters. -/
def occurrencesInParameters (standing : Standing) :
    List (FunctionParameter × Option Expression) → List (Standing × Expression)
  | [] => []
  | (_, some e) :: rest => occurrences standing e ++ occurrencesInParameters standing rest
  | (_, none) :: rest => occurrencesInParameters standing rest

/-- The same for the clauses of a comprehension, of which the first one's items are from outside. -/
def occurrencesInClauses (outside inside : Standing) :
    List (Bool × Expression × Expression × List Expression) → List (Standing × Expression)
  | [] => []
  | (_, target, items, conditions) :: rest =>
    occurrences inside target ++ occurrences outside.ofItems items ++
      occurrencesInAll inside conditions ++ occurrencesInClauses inside inside rest

end

/-- The name that no value can be given. -/
def fixedName : Text := "__debug__"

/-- The names are told apart, and values can be given to them. -/
def areDistinct (names : List Text) : Bool :=
  names.eraseDups.length = names.length && !names.contains fixedName

/-- The names of arguments. -/
def argumentNames (arguments : List (ArgumentWay × Expression)) : List Text :=
  arguments.filterMap fun argument =>
    match argument.1 with
    | .byName n => some n
    | _ => none

/-- A part of an expression keeps the rules. -/
def keepsRules : Standing × Expression → Bool
  | (standing, .handing _ _) => standing.inFunction
  | (standing, .naming n _) =>
    !standing.inItems && !standing.iterated.contains n && n ≠ fixedName
  | (_, .function parameters _) => areDistinct (parameters.map fun p => p.1.name)
  | (_, .call _ arguments) => areDistinct (argumentNames arguments)
  | (_, .comprehension form _ _ clauses) =>
    (clauses.all fun clause => isTarget clause.2.1) && !(clauseNames clauses).contains fixedName &&
      (form = .stream || clauses.all fun clause => !clause.1)
  | _ => true

/-- No part of the expression breaks a rule. -/
def isLawful (e : Expression) : Bool :=
  (occurrences {} e).all keepsRules

/-- The names that the code of a function gives to values on the way, without that of the functions
within it. -/
def ownNames (body : Expression) : List Text :=
  (occurrences {} body).filterMap fun occurrence =>
    match occurrence with
    | (standing, .naming n _) => if standing.depth = 0 then some n else none
    | _ => none

/-- The names that the comprehensions of an expression give to values outside themselves. -/
def outerNames (e : Expression) : List Text :=
  (occurrences {} e).filterMap fun occurrence =>
    match occurrence with
    | (standing, .naming n _) =>
      if standing.depth = 0 && standing.inComprehension then some n else none
    | _ => none

/-- The code of a function hands values out. -/
def handsOut (body : Expression) : Bool :=
  (occurrences {} body).any fun occurrence =>
    match occurrence with
    | (standing, .handing _ _) => standing.depth = 0
    | _ => false

end Expression

end QueryScaffold
