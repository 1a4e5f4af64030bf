import QueryScaffold.Expression.Constant

/-!
# Expressions

Annotations, bases and other references to what a module knows are written as expressions.

* `Expression`: an expression;
* `Operator`, `Sign`: what stands between two operands, and before one, with its strength;
* `FunctionParameter`, `ArgumentWay`: how a function takes values, and how a call gives them;
* `privateName`: a name as it stands inside a class.
-/

namespace QueryScaffold

/-- What stands between two operands. -/
inductive Operator
  | or
  | and
  | less
  | greater
  | atMost
  | atLeast
  | equal
  | different
  | inside
  | outside
  | identical
  | distinct
  | bar
  | caret
  | ampersand
  | shiftLeft
  | shiftRight
  | plus
  | minus
  | times
  | over
  | wholeOver
  | modulo
  | matrixTimes
  | power
deriving DecidableEq, Repr

namespace Operator

/-- The operator as it is written. -/
def text : Operator → Text
  | .or => "or"
  | .and => "and"
  | .less => "<"
  | .greater => ">"
  | .atMost => "<="
  | .atLeast => ">="
  | .equal => "=="
  | .different => "!="
  | .inside => "in"
  | .outside => "not in"
  | .identical => "is"
  | .distinct => "is not"
  | .bar => "|"
  | .caret => "^"
  | .ampersand => "&"
  | .shiftLeft => "<<"
  | .shiftRight => ">>"
  | .plus => "+"
  | .minus => "-"
  | .times => "*"
  | .over => "/"
  | .wholeOver => "//"
  | .modulo => "%"
  | .matrixTimes => "@"
  | .power => "**"

/-- All operators. -/
def all : List Operator :=
  [.or, .and, .less, .greater, .atMost, .atLeast, .equal, .different, .inside, .outside, .identical,
    .distinct, .bar, .caret, .ampersand, .shiftLeft, .shiftRight, .plus, .minus, .times, .over,
    .wholeOver, .modulo, .matrixTimes, .power]

/-- The operator that is written so. -/
def ofText? (t : Text) : Option Operator :=
  all.find? fun operator => operator.text = t

/-- How strongly the operator binds its operands. -/
def strength : Operator → Nat
  | .or => 2
  | .and => 3
  | .less | .greater | .atMost | .atLeast | .equal | .different => 5
  | .inside | .outside | .identical | .distinct => 5
  | .bar => 6
  | .caret => 7
  | .ampersand => 8
  | .shiftLeft | .shiftRight => 9
  | .plus | .minus => 10
  | .times | .over | .wholeOver | .modulo | .matrixTimes => 11
  | .power => 13

/-- The operator compares its operands. -/
def isComparison (operator : Operator) : Bool :=
  operator.strength = 5

/-- The operator asks which of its operands is greater. -/
def asksForOrder : Operator → Bool
  | .less | .greater | .atMost | .atLeast => true
  | _ => false

end Operator

/-- What stands before an operand. -/
inductive Sign
  | not
  | plus
  | minus
  | tilde
deriving DecidableEq, Repr

namespace Sign

/-- The sign as it is written. -/
def text : Sign → Text
  | .not => "not "
  | .plus => "+"
  | .minus => "-"
  | .tilde => "~"

/-- How strongly the sign binds its operand. -/
def strength : Sign → Nat
  | .not => 4
  | _ => 12

end Sign

/-- How a function takes a parameter. -/
inductive ParameterWay
  /-- By its place alone. -/
  | byPlace
  /-- By its place or by its name. -/
  | plain
  /-- All that is left of the arguments without names. -/
  | rest
  /-- By its name alone. -/
  | byName
  /-- All that is left of the arguments with names. -/
  | restByName
deriving DecidableEq, Repr

/-- A parameter of a function. -/
structure FunctionParameter where
  way : ParameterWay
  name : Text
deriving DecidableEq

/-- How a call gives an argument. -/
inductive ArgumentWay
  | byPlace
  | byName (name : Text)
  /-- The entries of the argument are arguments with names. -/
  | entries
deriving DecidableEq

/-- What a comprehension makes of its items. -/
inductive ComprehensionForm
  | list
  | set
  | dictionary
  /-- The items one at a time, as they are asked for. -/
  | stream
deriving DecidableEq, Repr

/-- How a field of a template shows its value. -/
inductive Conversion
  | plain
  | quoted
  | ascii
deriving DecidableEq, Repr

/-- The letter of the conversion. -/
def Conversion.letter : Conversion → Text
  | .plain => "s"
  | .quoted => "r"
  | .ascii => "a"

/-- An expression. -/
inductive Expression
  | name (n : Text)
  | constant (c : Constant)
  /-- A text with fields in it. -/
  | template (parts : List Expression)
  /-- A field of a template: a value, how to show it, and a form to bring it into. -/
  | field (value : Expression) (conversion : Option Conversion) (form : Option Expression)
  | tuple (items : List Expression)
  | list (items : List Expression)
  | set (items : List Expression)
  /-- Entries, and values whose entries are taken over, which have no key. -/
  | dictionary (entries : List (Option Expression × Expression))
  /-- All items of a value, in the place of one item. -/
  | spread (items : Expression)
  /-- A part of a value, by its name. -/
  | part (owner : Expression) (n : Text)
  /-- A value with another one in brackets after it. -/
  | subscript (head argument : Expression)
  /-- A range of places. -/
  | slice (start stop step : Option Expression)
  | call (head : Expression) (arguments : List (ArgumentWay × Expression))
  | signed (sign : Sign) (operand : Expression)
  | operation (operator : Operator) (left right : Expression)
  /-- Each operand is compared with the next one. -/
  | comparison (first : Expression) (links : List (Operator × Expression))
  /-- One of two expressions, as a condition holds or not. -/
  | choice (condition yes no : Expression)
  /-- A function without a name; its parameters may have defaults. -/
  | function (parameters : List (FunctionParameter × Option Expression)) (body : Expression)
  /-- A value that a name is given on the way. -/
  | naming (n : Text) (value : Expression)
  /-- An element, or a key and a value, for each way through clauses: whether a clause waits for its
  items, what they are called, where they are from, and the conditions on them. -/
  | comprehension (form : ComprehensionForm) (element : Expression) (value : Option Expression)
    (clauses : List (Bool × Expression × Expression × List Expression))
  /-- A place at which a function hands a value out, or all items of a value, and goes on later. -/
  | handing (all : Bool) (value : Option Expression)

instance : Inhabited Expression := ⟨.constant .null⟩

namespace Expression

/-- The expression is a spread. -/
def isSpread : Expression → Bool
  | .spread _ => true
  | _ => false

end Expression

/-- A name as it stands inside a class: one that starts with two underscores and does not end so is
the class's own, and carries the name of the class. -/
def privateName (className name : Text) : Text :=
  let owner := className.dropWhile (· = CodePoint.ofChar '_')
  let ownMark : Text := "__"
  if ownMark.isPrefixOf name && !ownMark.isSuffixOf name && owner ≠ [] then
    ("_" : Text) ++ owner ++ name
  else name

end QueryScaffold
