import QueryScaffold.Text.Quoted

/-!
# Why a class makes no instance

A class makes an instance in two steps: it makes the instance, and then it sets it up. Either step
can refuse what the class is called with.

* `MakingFault`: why a class makes no instance;
* `MakingFault.kind`, `MakingFault.message`: the exception that the fault is;
* `enumeration`, `countedWord`: lists and numbers of things in words.
-/

namespace QueryScaffold

/-- Names in quotes, with commas and an `and` between them. -/
def enumeration : List Text → Text
  | [] => []
  | [a] => a.quote
  | [a, b] => a.quote ++ (" and " : Text) ++ b.quote
  | names =>
    Text.joined (", " : Text) (names.dropLast.map Text.quote) ++ (", and " : Text) ++
      (names.getLastD []).quote

/-- The word for one thing or for several of them. -/
def countedWord (count : Nat) (word : Text) : Text :=
  if count = 1 then word else word ++ ("s" : Text)

/-- Why a class makes no instance. -/
inductive MakingFault
  /-- The class takes no arguments at all. -/
  | takesNothing (className : Text)
  /-- The class hands its arguments over to `object`, which takes none. -/
  | handedOver
  /-- The instance takes no arguments when it is set up; the class may be named in front. -/
  | setUpAlone (className : Option Text)
  /-- The class lacks methods that instances need. -/
  | abstract (className : Text) (methods : List Text)
  /-- The class refuses all arguments. -/
  | refused (notice : Text)
  /-- One class would make an instance of another one that is kept in the way of a third one. -/
  | foreignMaker (maker className keeper : Text)
  | notInteger (base : Nat) (display : Text)
  | tooManyDigits (digits : Nat)
  | notReal (display : Text)
  /-- The text writes no complex number; `strayUnderscored` tells whether an underscore of it is at
  fault. -/
  | notComplex (display : Text) (strayUnderscored : Bool)
  /-- What should be an entry is no pair but has another length. -/
  | notPair (index length : Nat)
  /-- The class takes so many arguments at least or at most. -/
  | count (className : Text) (bound : Text) (limit given : Nat)
deriving DecidableEq

namespace MakingFault

/-- The most characters of a quoted text that a message shows which should write an integer. -/
def maxQuoted : Nat := 200

/-- The fault in words. -/
def message : MakingFault → Text
  | .takesNothing className => className ++ ("() takes no arguments" : Text)
  | .handedOver => "object.__new__() takes exactly one argument (the type to instantiate)"
  | .setUpAlone className =>
    className.getD "object" ++
      (".__init__() takes exactly one argument (the instance to initialize)" : Text)
  | .abstract className methods =>
    ("Can't instantiate abstract class " : Text) ++ className ++ (" with abstract " : Text) ++
      countedWord methods.length "method" ++ (" " : Text) ++ Text.joined (", " : Text) methods
  | .refused notice => notice
  | .foreignMaker maker className keeper =>
    maker ++ (".__new__(" : Text) ++ className ++ (") is not safe, use " : Text) ++ keeper ++
      (".__new__()" : Text)
  | .notInteger base display =>
    ("invalid literal for int() with base " : Text) ++ Text.ofNat base ++ (": " : Text) ++
      display.take maxQuoted
  | .tooManyDigits digits =>
    ("Exceeds the limit (4300 digits) for integer string conversion: value has " : Text) ++
      Text.ofNat digits ++
      (" digits; use sys.set_int_max_str_digits() to increase the limit" : Text)
  | .notReal display => ("could not convert string to float: " : Text) ++ display
  | .notComplex display true => ("could not convert string to complex: " : Text) ++ display
  | .notComplex _ false => "complex() arg is a malformed string"
  | .notPair index length =>
    ("dictionary update sequence element #" : Text) ++ Text.ofNat index ++
      (" has length " : Text) ++ Text.ofNat length ++ ("; 2 is required" : Text)
  | .count className bound limit given =>
    className ++ (" expected " : Text) ++ bound ++ (" " : Text) ++ Text.ofNat limit ++
      (" " : Text) ++ countedWord limit "argument" ++ (", got " : Text) ++ Text.ofNat given

/-- The class of the exception that the fault is. -/
def kind : MakingFault → Text
  | .notInteger _ _ | .tooManyDigits _ | .notReal _ | .notComplex _ _ | .notPair _ _ =>
    "ValueError"
  | _ => "TypeError"

end MakingFault

end QueryScaffold
