import QueryScaffold.Class.Creation
import QueryScaffold.Class.Exception
import QueryScaffold.Class.Making
import QueryScaffold.Expression.Reader

/-!
# Why code stops

* `TypePlace`: the places that ask for a type;
* `BindingFault`: why a function does not take the arguments of a call;
* `CodeFault`: why code stops;
* `CodeFault.kind`, `CodeFault.message`, `CodeFault.raised`: the exception that the fault is.
-/

namespace QueryScaffold

namespace SourceFault

/-- The class of the exception that the fault is. -/
def kind : SourceFault → Text
  | .empty => "IndexError"
  | .unencodable _ => "UnicodeEncodeError"
  | .malformed _ => "SyntaxError"

/-- The fault in words. -/
def message : SourceFault → Text
  | .empty => "string index out of range"
  | .unencodable fault => fault.message
  | .malformed source =>
    ("Forward reference must be an expression -- got " : Text) ++ source.quote

end SourceFault

/-- A place that asks for a type. -/
inductive TypePlace
  /-- A string that is read as a type. -/
  | reference
  /-- The brackets of a generic class. -/
  | parameter
  /-- The brackets of `Union`, and either side of a bar. -/
  | member
  /-- The brackets of a form for one type. -/
  | single (form : Form)
  /-- The first place in the brackets of a type with remarks. -/
  | remarked
  /-- The limits of a type variable. -/
  | limit
  /-- What a type variable stands for at most. -/
  | bound
deriving DecidableEq

namespace TypePlace

/-- What the place asks for. -/
def rule : TypePlace → Text
  | .reference => "Forward references must evaluate to types."
  | .parameter => "Parameters to generic types must be types."
  | .member => "Union[arg, ...]: each arg must be a type."
  | .single .optional => Form.optional.display ++ (" requires a single type." : Text)
  | .single form => form.display ++ (" accepts only single type." : Text)
  | .remarked => "Annotated[t, ...]: t must be a type."
  | .limit => "TypeVar(name, constraint, ...): constraints must be types."
  | .bound => "Bound must be a type."

end TypePlace

/-- Why a function does not take the arguments of a call. -/
inductive BindingFault
  /-- Parameters are not given, which are given by their places or by their names. -/
  | missing (byName : Bool) (parameters : List Text)
  /-- There are more arguments than the function takes, from the least to the greatest number;
  `named` is the number of those that can only be given by name. -/
  | tooMany (least greatest given named : Nat)
  | unexpected (name : Text)
  | repeated (name : Text)
  /-- Parameters that are given by their places alone are given by name. -/
  | byPlaceAlone (names : List Text)
deriving DecidableEq

/-- The fault in words, behind the name of the function. -/
def BindingFault.message : BindingFault → Text
  | .missing byName parameters =>
    let way : Text := if byName then "keyword-only " else "positional "
    ("missing " : Text) ++ Text.ofNat parameters.length ++ (" required " : Text) ++ way ++
      countedWord parameters.length "argument" ++ (": " : Text) ++ enumeration parameters
  | .tooMany least greatest given named =>
    let bounds : Text :=
      if least = greatest then Text.ofNat greatest
      else ("from " : Text) ++ Text.ofNat least ++ (" to " : Text) ++ Text.ofNat greatest
    let extra : Text :=
      if named = 0 then []
      else
        (" positional " : Text) ++ countedWord given "argument" ++ (" (and " : Text) ++
          Text.ofNat named ++ (" keyword-only " : Text) ++ countedWord named "argument" ++
          (")" : Text)
    let verb : Text := if given = 1 && named = 0 then " was given" else " were given"
    ("takes " : Text) ++ bounds ++ (" positional " : Text) ++
      (if least = greatest && greatest = 1 then ("argument" : Text) else "arguments") ++
      (" but " : Text) ++ Text.ofNat given ++ extra ++ verb
  | .unexpected name =>
    ("got an unexpected keyword argument '" : Text) ++ name ++ ("'" : Text)
  | .repeated name => ("got multiple values for argument '" : Text) ++ name ++ ("'" : Text)
  | .byPlaceAlone names =>
    ("got some positional-only arguments passed as keyword arguments: '" : Text) ++
      Text.joined (", " : Text) names ++ ("'" : Text)

/-- Why code stops. -/
inductive CodeFault
  | undefinedName (name : Text)
  /-- The name has no value yet; `around` tells whether it belongs to a function further out. -/
  | unbound (name : Text) (around : Bool)
  | unreadable (fault : SourceFault)
  /-- A value, given in the words of the message, has no attribute of this name. -/
  | noAttribute (owner name : Text)
  /-- A form, or a type from one or from a generic class, has no part of this name. -/
  | noPart (name : Text)
  /-- A class takes nothing in brackets. -/
  | classNotSubscriptable (name : Text)
  /-- A value of a kind that takes nothing in brackets. -/
  | valueNotSubscriptable (kind : Text)
  /-- A value of a kind whose items have numbers has something else in brackets. -/
  | badIndex (kind index : Text)
  /-- A value of a kind has not as many items. -/
  | outOfRange (kind : Text)
  | noKey (display : Text)
  /-- A type has no type variable that takes what is in brackets. -/
  | notGeneric (display : Text)
  | tooMany (display : Text) (actual expected : Nat)
  | tooFew (display : Text) (actual expected : Nat) (atLeast : Bool)
  /-- A type that is only allowed on the outside stands inside. -/
  | notArgument (display : Text)
  /-- A form that needs brackets has none. -/
  | bareForm (display : Text)
  /-- Several values stand where one type belongs. -/
  | notType (place : TypePlace) (display : Text)
  /-- A type with remarks has no remark. -/
  | noRemark
  | emptyUnion
  | emptyGeneric
  /-- A class says that it is generic over something else than type variables. -/
  | notVariables
  | repeatedVariable
  | subscriptedTwice (display : Text)
  /-- A value that can change stands where values are told apart. -/
  | changeable (kind : Text)
  /-- An operator has no meaning for these kinds of values. -/
  | noOperation (operator : Operator) (left right : Text)
  /-- A number is divided by zero; `real` tells whether one of the two is a double. -/
  | dividedByZero (operator : Operator) (real : Bool)
  | negativeShift
  /-- An integer, or the quotient of two, is too large for a double. -/
  | noDouble (isQuotient : Bool)
  /-- The items of a value of a kind cannot be followed by those of a value of another kind. -/
  | notJoined (kind other : Text)
  /-- Items are to be repeated as often as a value of this kind says. -/
  | notRepeated (kind : Text)
  /-- A bound of a range of places is no integer. -/
  | badBound
  | zeroStep
  | noSign (sign : Sign) (kind : Text)
  /-- A value of a kind that has no items is spread. -/
  | noItems (kind : Text)
  /-- A value of a kind that refuses to give items. -/
  | notPassedThrough (kind : Text)
  /-- A value of a kind among whose items nothing can be looked for. -/
  | noContainer (kind : Text)
  /-- A value of a kind other than text is looked for in a text. -/
  | notPartOfText (kind : Text)
  | notCallable (kind : Text)
  /-- A form is called. -/
  | formCalled (form : Form)
  /-- A class that is called makes no instance. -/
  | making (fault : MakingFault)
  /-- No class comes of some bases. -/
  | creation (fault : CreationFault)
  /-- A function, given by its name, does not take the arguments of a call. -/
  | binding (function : Text) (fault : BindingFault)
  /-- Something built in refuses what it is given, as an exception of a class. -/
  | refused (kind notice : Text)
  /-- What code raises is no exception. -/
  | notException
  /-- Code needs itself, and so on without an end. -/
  | endless
  | raised (failure : Raised)
deriving DecidableEq

namespace CodeFault

/-- The class of the exception that the fault is. -/
def kind : CodeFault → Text
  | .undefinedName _ | .unbound _ true => "NameError"
  | .unbound _ false => "UnboundLocalError"
  | .unreadable fault => fault.kind
  | .noAttribute _ _ | .noPart _ => "AttributeError"
  | .outOfRange _ => "IndexError"
  | .noKey _ => "KeyError"
  | .dividedByZero _ _ => "ZeroDivisionError"
  | .noDouble _ => "OverflowError"
  | .negativeShift | .zeroStep => "ValueError"
  | .making fault => fault.kind
  | .refused kind _ => kind
  | .endless => "RecursionError"
  | .raised failure => failure.kind
  | _ => "TypeError"

/-- The most characters of a value that does not fit that a message shows. -/
def maxDisplayed : Nat := 100

/-- The words on a count that does not fit. -/
def counted (tooWhat display : Text) (actual : Nat) (expected : Text) : Text :=
  ("Too " : Text) ++ tooWhat ++ (" arguments for " : Text) ++ display ++ ("; actual " : Text) ++
    Text.ofNat actual ++ (", expected " : Text) ++ expected

/-- The operator as a message on its operands shows it. -/
def operatorLabel : Operator → Text
  | .power => "** or pow()"
  | operator => operator.text

/-- The words on a division by zero. -/
def divisionNotice : Operator → Bool → Text
  | .over, false => "division by zero"
  | .over, true => "float division by zero"
  | .wholeOver, false => "integer division or modulo by zero"
  | .wholeOver, true => "float floor division by zero"
  | .modulo, false => "integer modulo by zero"
  | .modulo, true => "float modulo"
  | _, _ => "0.0 cannot be raised to a negative power"

/-- The fault in words. -/
def message : CodeFault → Text
  | .undefinedName name => ("name '" : Text) ++ name ++ ("' is not defined" : Text)
  | .unbound name false =>
    ("cannot access local variable '" : Text) ++ name ++
      ("' where it is not associated with a value" : Text)
  | .unbound name true =>
    ("cannot access free variable '" : Text) ++ name ++
      ("' where it is not associated with a value in enclosing scope" : Text)
  | .unreadable fault => fault.message
  | .noAttribute owner name =>
    owner ++ (" has no attribute '" : Text) ++ name ++ ("'" : Text)
  | .noPart name => name
  | .classNotSubscriptable name =>
    ("type '" : Text) ++ name ++ ("' is not subscriptable" : Text)
  | .valueNotSubscriptable kind =>
    ("'" : Text) ++ kind ++ ("' object is not subscriptable" : Text)
  | .badIndex kind index =>
    if kind = ("str" : Text) then
      ("string indices must be integers, not '" : Text) ++ index ++ ("'" : Text)
    else if kind = ("memoryview" : Text) then "memoryview: invalid slice key"
    else
      (if kind = ("bytes" : Text) then ("byte" : Text) else kind) ++
        (" indices must be integers or slices, not " : Text) ++ index
  | .outOfRange kind =>
    if kind = ("str" : Text) then "string index out of range"
    else if kind = ("bytes" : Text) then "index out of range"
    else if kind = ("memoryview" : Text) then "index out of bounds on dimension 1"
    else kind ++ (" index out of range" : Text)
  | .noKey display => display
  | .notGeneric display => display ++ (" is not a generic class" : Text)
  | .tooMany display actual expected => counted "many" display actual (Text.ofNat expected)
  | .tooFew display actual expected atLeast =>
    let least : Text := if atLeast then "at least " else []
    counted "few" display actual (least ++ Text.ofNat expected)
  | .notArgument display => display ++ (" is not valid as type argument" : Text)
  | .bareForm display =>
    ("Plain " : Text) ++ display ++ (" is not valid as type argument" : Text)
  | .notType place display =>
    place.rule ++ (" Got " : Text) ++ display.take maxDisplayed ++ ("." : Text)
  | .noRemark =>
    "Annotated[...] should be used with at least two arguments (a type and an annotation)."
  | .emptyUnion => "Cannot take a Union of no types."
  | .emptyGeneric => "Parameter list to Generic[...] cannot be empty"
  | .notVariables =>
    ("Parameters to Generic[...] must all be type variables " : Text) ++
      ("or parameter specification variables." : Text)
  | .repeatedVariable => "Parameters to Generic[...] must all be unique"
  | .subscriptedTwice display => ("Cannot subscript already-subscripted " : Text) ++ display
  | .changeable kind => ("unhashable type: '" : Text) ++ kind ++ ("'" : Text)
  | .noOperation operator left right =>
    if operator.asksForOrder then
      ("'" : Text) ++ operator.text ++ ("' not supported between instances of '" : Text) ++ left ++
        ("' and '" : Text) ++ right ++ ("'" : Text)
    else
      ("unsupported operand type(s) for " : Text) ++ operatorLabel operator ++ (": '" : Text) ++
        left ++ ("' and '" : Text) ++ right ++ ("'" : Text)
  | .dividedByZero operator real => divisionNotice operator real
  | .negativeShift => "negative shift count"
  | .noDouble false => "int too large to convert to float"
  | .noDouble true => "integer division result too large for a float"
  | .notJoined kind other =>
    ("can only concatenate " : Text) ++ kind ++ (" (not \"" : Text) ++ other ++
      ("\") to " : Text) ++ kind
  | .notRepeated kind =>
    ("can't multiply sequence by non-int of type '" : Text) ++ kind ++ ("'" : Text)
  | .badBound => "slice indices must be integers or None or have an __index__ method"
  | .zeroStep => "slice step cannot be zero"
  | .noSign sign kind =>
    ("bad operand type for unary " : Text) ++ sign.text ++ (": '" : Text) ++ kind ++ ("'" : Text)
  | .noItems kind => ("Value after * must be an iterable, not " : Text) ++ kind
  | .notPassedThrough kind => ("'" : Text) ++ kind ++ ("' object is not iterable" : Text)
  | .noContainer kind =>
    ("argument of type '" : Text) ++ kind ++ ("' is not iterable" : Text)
  | .notPartOfText kind =>
    ("'in <string>' requires string as left operand, not " : Text) ++ kind
  | .notCallable kind => ("'" : Text) ++ kind ++ ("' object is not callable" : Text)
  | .formCalled form =>
    match form with
    | .list => "Type List cannot be instantiated; use list() instead"
    | .set => "Type Set cannot be instantiated; use set() instead"
    | form => ("Cannot instantiate " : Text) ++ form.display
  | .making fault => fault.message
  | .creation fault => fault.message
  | .binding function fault => function ++ ("() " : Text) ++ fault.message
  | .refused _ notice => notice
  | .notException => "exceptions must derive from BaseException"
  | .endless => "maximum recursion depth exceeded"
  | .raised failure => failure.text

/-- The exception that the fault is. -/
def toRaised : CodeFault → Raised
  | .raised failure => failure
  | fault => .ofKind fault.kind fault.message

/-- The fault is that a name has no value. -/
def isNameFault (fault : CodeFault) : Bool :=
  fault.toRaised.isOf "NameError"

end CodeFault

end QueryScaffold
