import QueryScaffold.Expression.Basic

/-!
# Expressions in writing

* `Expression.write`: the expression as it stands in a place that needs a strength;
* `Expression.text`: the expression by itself.

Where an expression holds together less strongly than its place needs, parentheses stand around it.
-/

namespace QueryScaffold

namespace Expression

/-- The strength that a place needs in which commas have no meaning of their own. -/
def itemStrength : Nat := 1

/-- The strength of the operands of a choice. -/
def choiceStrength : Nat := Operator.or.strength

/-- The strength of the operands of a comparison. -/
def operandStrength : Nat := Operator.bar.strength

/-- The strength of what has no operands. -/
def atomStrength : Nat := 15

/-- A text in parentheses. -/
def inParentheses (t : Text) : Text :=
  ("(" : Text) ++ t ++ (")" : Text)

/-- A text in parentheses if its place needs more strength than it has. -/
def enclosed (needed strength : Nat) (t : Text) : Text :=
  if strength < needed then inParentheses t else t

/-- A constant as an expression writes it. A number without an end is one too large to be read. -/
def constantText : Constant → Text
  | .ellipsis => "..."
  | .real (.infinite negative) => if negative then "-1e309" else "1e309"
  | c => c.display

/-- The text of a template, with its braces doubled. -/
def doubledBraces (t : Text) : Text :=
  t.flatMap fun c =>
    if c = CodePoint.ofChar '\x7b' || c = CodePoint.ofChar '\x7d' then [c, c] else [c]

/-- The brace that opens a field; a blank keeps it apart from another brace. -/
def fieldOpening (shown : Text) : Text :=
  if shown.head? = some (CodePoint.ofChar '\x7b') then "\x7b " else "\x7b"

/-- The brackets around a comprehension. -/
def bracketsOf : ComprehensionForm → Text × Text
  | .list => ("[", "]")
  | .set | .dictionary => ("\x7b", "\x7d")
  | .stream => ("(", ")")

/-- The word that starts a function without a name: a blank follows it if the function takes values
by their places. -/
def functionWord (parameters : List FunctionParameter) : Text :=
  let byPlace := parameters.any fun p => p.way = .byPlace || p.way = .plain
  if byPlace then "lambda " else "lambda"

/-- What stands before a parameter: the mark that ends the parameters by place, and stars. -/
def parameterMark (earlier : Option ParameterWay) (way : ParameterWay) : Text :=
  let ending : Text := if earlier = some .byPlace && way ≠ .byPlace then "/, " else []
  match way with
  | .rest => ending ++ ("*" : Text)
  | .restByName => ending ++ ("**" : Text)
  | .byName =>
    if earlier = some .rest || earlier = some .byName then ending else ending ++ ("*, " : Text)
  | .byPlace | .plain => ending

mutual

/-- The expression as it stands in a place that needs a strength. -/
def write (needed : Nat) : Expression → Text
  | .name n => n
  | .constant c => constantText c
  | .template parts => ("f" : Text) ++ (writeParts parts).quote
  | .field value conversion form =>
    let shown := write choiceStrength value
    fieldOpening shown ++ shown ++
      (match conversion with
        | some way => ("!" : Text) ++ way.letter
        | none => []) ++
      (match form with
        | some (.template parts) => (":" : Text) ++ writeParts parts
        | some e => (":" : Text) ++ write itemStrength e
        | none => []) ++
      ("\x7d" : Text)
  | .tuple items => enclosed (if items.isEmpty then 0 else needed) 0 (writeTuple items)
  | .list items => ("[" : Text) ++ writeItems items ++ ("]" : Text)
  | .set items => ("\x7b" : Text) ++ writeItems items ++ ("\x7d" : Text)
  | .dictionary entries => ("\x7b" : Text) ++ writeEntries entries ++ ("\x7d" : Text)
  | .spread items => ("*" : Text) ++ write operandStrength items
  | .part (.constant (.integer k)) n => constantText (.integer k) ++ (" ." : Text) ++ n
  | .part owner n => write atomStrength owner ++ ("." : Text) ++ n
  | .subscript head argument =>
    write atomStrength head ++ ("[" : Text) ++ write 0 argument ++ ("]" : Text)
  | .slice start stop step =>
    let written := writeOption start ++ (":" : Text) ++ writeOption stop
    if step.isNone then written else written ++ (":" : Text) ++ writeOption step
  | .call head [(.byPlace, .comprehension .stream element value clauses)] =>
    write atomStrength head ++ ("(" : Text) ++ write itemStrength element ++
      (match value with
        | some v => (": " : Text) ++ write itemStrength v
        | none => []) ++
      writeClauses clauses ++ (")" : Text)
  | .call head arguments =>
    write atomStrength head ++
      inParentheses (Text.joined ", " (writePlaced arguments ++ writeNamed arguments))
  | .signed sign operand =>
    enclosed needed sign.strength (sign.text ++ write sign.strength operand)
  | .operation operator left right =>
    let (before, after) :=
      if operator = .power then (operator.strength + 1, operator.strength)
      else (operator.strength, operator.strength + 1)
    enclosed needed operator.strength
      (write before left ++ (" " : Text) ++ operator.text ++ (" " : Text) ++ write after right)
  | .comparison first links =>
    enclosed needed Operator.equal.strength (write operandStrength first ++ writeLinks links)
  | .choice condition yes no =>
    enclosed needed itemStrength
      (write choiceStrength yes ++ (" if " : Text) ++ write choiceStrength condition ++
        (" else " : Text) ++ write itemStrength no)
  | .function parameters body =>
    enclosed needed itemStrength
      (functionWord (parameters.map Prod.fst) ++ Text.joined ", " (writeParameters none parameters) ++
        (": " : Text) ++ write itemStrength body)
  | .naming n value => inParentheses (n ++ (" := " : Text) ++ write atomStrength value)
  | .comprehension form element value clauses =>
    (bracketsOf form).1 ++ write itemStrength element ++
      (match value with
        | some v => (": " : Text) ++ write itemStrength v
        | none => []) ++
      writeClauses clauses ++ (bracketsOf form).2
  | .handing _ none => "(yield)"
  | .handing all (some value) =>
    inParentheses
      ((if all then ("yield from " : Text) else "yield ") ++ write itemStrength value)

/-- The expression, or nothing. -/
def writeOption : Option Expression → Text
  | none => []
  | some e => write itemStrength e

/-- The expressions with commas between them. -/
def writeItems : List Expression → Text
  | [] => []
  | [e] => write itemStrength e
  | e :: rest => write itemStrength e ++ (", " : Text) ++ writeItems rest

/-- The items of a tuple; one alone has a comma behind it. -/
def writeTuple : List Expression → Text
  | [] => "()"
  | [e] => write itemStrength e ++ ("," : Text)
  | e :: rest => write itemStrength e ++ (", " : Text) ++ writeItems rest

/-- The entries of a dictionary with commas between them. -/
def writeEntries : List (Option Expression × Expression) → Text
  | [] => []
  | (key, value) :: rest =>
    (match key with
      | some k => write itemStrength k ++ (": " : Text) ++ write itemStrength value
      | none => ("**" : Text) ++ write operandStrength value) ++
    (if rest.isEmpty then [] else (", " : Text)) ++ writeEntries rest

/-- The arguments without names. -/
def writePlaced : List (ArgumentWay × Expression) → List Text
  | [] => []
  | (way, e) :: rest =>
    if way = .byPlace then write itemStrength e :: writePlaced rest else writePlaced rest

/-- The arguments with names. -/
def writeNamed : List (ArgumentWay × Expression) → List Text
  | [] => []
  | (.byPlace, _) :: rest => writeNamed rest
  | (.byName n, e) :: rest => (n ++ ("=" : Text) ++ write itemStrength e) :: writeNamed rest
  | (.entries, e) :: rest => (("**" : Text) ++ write itemStrength e) :: writeNamed rest

/-- The links of a comparison. -/
def writeLinks : List (Operator × Expression) → Text
  | [] => []
  | (operator, e) :: rest =>
    (" " : Text) ++ operator.text ++ (" " : Text) ++ write operandStrength e ++ writeLinks rest

/-- The parameters of a function, after one of a way. -/
def writeParameters (earlier : Option ParameterWay) :
    List (FunctionParameter × Option Expression) → List Text
  | [] => if earlier = some .byPlace then ["/"] else []
  | (parameter, default) :: rest =>
    (parameterMark earlier parameter.way ++ parameter.name ++
      (match default with
        | some e => ("=" : Text) ++ write itemStrength e
        | none => [])) ::
    writeParameters (some parameter.way) rest

/-- The clauses of a comprehension. -/
def writeClauses : List (Bool × Expression × Expression × List Expression) → Text
  | [] => []
  | (waits, target, items, conditions) :: rest =>
    (if waits then (" async for " : Text) else " for ") ++ write 0 target ++ (" in " : Text) ++
      write choiceStrength items ++ writeConditions conditions ++ writeClauses rest

/-- The conditions of a clause. -/
def writeConditions : List Expression → Text
  | [] => []
  | e :: rest => (" if " : Text) ++ write choiceStrength e ++ writeConditions rest

/-- The parts of a template between its quotes. -/
def writeParts : List Expression → Text
  | [] => []
  | .constant (.text t) :: rest => doubledBraces t ++ writeParts rest
  | .template parts :: rest => writeParts parts ++ writeParts rest
  | e :: rest => write itemStrength e ++ writeParts rest

end

/-- The expression by itself. -/
def text (e : Expression) : Text :=
  e.write itemStrength

end Expression

end QueryScaffold
