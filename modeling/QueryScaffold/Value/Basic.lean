import QueryScaffold.Expression.Constant
import QueryScaffold.Value.ClassRef

/-!
# Values

* `Form`: the special forms of annotations;
* `Value`: what a name stands for, and what an expression evaluates to;
* `Value.ofJson`: the value that a JSON value is;
* `Value.items?`: what one goes through item by item;
* `NameTable`: names with what they stand for, `NameTable.find?` and `NameTable.set`.

A value that is used up or changed on the way, such as the items still to come of a list, is known by
a number under which it is kept elsewhere.
-/

namespace QueryScaffold

/-- A form that gives a type from types in brackets, without being a class. -/
inductive Form
  | classVar
  | final
  | literal
  | optional
  | union
  | list
  | set
  /-- The items of a type in place of the type. -/
  | unpack
deriving DecidableEq, Repr

namespace Form

/-- The name of the form. -/
def name : Form → Text
  | .classVar => "ClassVar"
  | .final => "Final"
  | .literal => "Literal"
  | .optional => "Optional"
  | .union => "Union"
  | .list => "List"
  | .set => "Set"
  | .unpack => "Unpack"

/-- The form as messages show it. -/
def display (form : Form) : Text :=
  ("typing." : Text) ++ form.name

/-- The class that the form is a spelling of. -/
def origin? : Form → Option ClassRef
  | .list => some (.builtin "list")
  | .set => some (.builtin "set")
  | _ => none

end Form

/-- What stands before the brackets of a type. -/
inductive TypeHead
  /-- A generic class. -/
  | generic (ref : ClassRef)
  /-- A class that takes any arguments. -/
  | collection (ref : ClassRef)
  | form (f : Form)
deriving DecidableEq

namespace TypeHead

/-- The class that the head stands for. -/
def origin? : TypeHead → Option ClassRef
  | .generic ref => some ref
  | .collection ref => some ref
  | .form f => f.origin?

/-- The head as messages show it. -/
def label : TypeHead → Text
  | .generic ref => ref.label
  | .collection ref => ref.label
  | .form f => f.display

end TypeHead

/-- What a name stands for, or an expression evaluates to. -/
inductive Value
  | constant (c : Constant)
  | ofClass (ref : ClassRef)
  /-- A form without brackets. -/
  | form (f : Form)
  /-- A type variable. -/
  | variable (name : Text)
  /-- A function of a module, or of a class of it. -/
  | function (codeNamespace : Text) (owner : Option ClassRef) (name : Text)
  | builtinFunction (name : Text)
  /-- A function without a name, by its number. -/
  | closure (number : Nat)
  /-- A function that a value has for itself. -/
  | method (owner : Value) (name : Text)
  /-- A function that a class has for its instances, which is asked of the class; `isSlot` tells
  whether it stands for an operator or the like. -/
  | unbound (isSlot : Bool) (owner : ClassRef) (name : Text)
  | tuple (items : List Value)
  | list (items : List Value)
  /-- Bytes that can be changed, or a view of bytes. -/
  | buffer (isView : Bool) (content : List UInt8)
  | set (isFrozen : Bool) (items : List Value)
  | dictionary (entries : List (Value × Value))
  /-- A dictionary that cannot be changed. -/
  | proxy (entries : List (Value × Value))
  /-- The keys, the values or the entries of a dictionary, as its kind says. -/
  | view (kind : Text) (items : List Value)
  /-- The integers from one to another, without the latter, so many apart. -/
  | range (start stop step : Int)
  /-- A range of places, each with null for a bound that is not given. -/
  | slice (start stop step : Value)
  /-- The items still to come of something, by the number of the iteration. -/
  | iterator (kind : Text) (number : Nat)
  /-- An instance of a class, by its number. -/
  | object (number : Nat) (ref : ClassRef)
  /-- An exception, which is an instance of a class and keeps what it was made from; some classes
  give it parts besides. -/
  | exception (number : Nat) (ref : ClassRef) (arguments : List Value)
    (parts : List (Text × Value))
  /-- A string that is to be read as a type; special forms may or may not be allowed there. -/
  | forward (source : Text) (allowsSpecial : Bool)
  /-- A head with arguments in brackets. -/
  | apply (head : TypeHead) (arguments : List Value)
  /-- A type with remarks. -/
  | remarked (inner : Value) (remarks : List Value)
  /-- One of several types; `plain` if they are all classes or collections. -/
  | union (plain : Bool) (members : List Value)
  /-- A module that is not one of a container. -/
  | module (name : Text)
  /-- Anything else: its kind, and the form in which messages show it. -/
  | other (kind display : Text)

instance : Inhabited Value := ⟨.constant .null⟩

namespace Value

/-- The name of a function behind the name of the class that it belongs to. -/
def functionName (owner : Option ClassRef) (name : Text) : Text :=
  match owner with
  | some ref => ref.name ++ ("." : Text) ++ name
  | none => name

/-- The value null. -/
abbrev null : Value := .constant .null

/-- A truth value. -/
abbrev truth (holds : Bool) : Value := .constant (.truth holds)

/-- An integer. -/
abbrev integer (n : Int) : Value := .constant (.integer n)

/-- A text. -/
abbrev text (t : Text) : Value := .constant (.text t)

/-- The class of null, as a value. -/
def nullClass : Value := .ofClass .null

mutual

/-- The value that a JSON value is: an array is a list, and an object a dictionary. -/
def ofJson : Json → Value
  | .null => null
  | .bool holds => truth holds
  | .int n => integer n
  | .float x => .constant (.real x)
  | .string t => text t
  | .array items => .list (ofItems items)
  | .object entries => .dictionary (ofEntries entries)

/-- The values of some items. -/
def ofItems : List Json → List Value
  | [] => []
  | item :: rest => ofJson item :: ofItems rest

/-- The entries that the entries of an object are. -/
def ofEntries : List (Text × Json) → List (Value × Value)
  | [] => []
  | (key, value) :: rest => (text key, ofJson value) :: ofEntries rest

end

/-- The class that the value is, if it is one. -/
def class? : Value → Option ClassRef
  | .ofClass ref => some ref
  | _ => none

/-- The class that the value is a collection of: its head stands for a class, and its only argument
is a class. -/
def element? : Value → Option ClassRef
  | .apply head [argument] =>
    match head.origin? with
    | some _ => argument.class?
    | none => none
  | _ => none

/-- The text that the value is. -/
def text? : Value → Option Text
  | .constant (.text t) => some t
  | _ => none

/-- The bytes that the value holds. -/
def bytes? : Value → Option (List UInt8)
  | .constant (.bytes content) | .buffer _ content => some content
  | _ => none

/-- The integer that the value counts as. -/
def integer? : Value → Option Int
  | .constant c => c.integer?
  | _ => none

/-- The value is null. -/
def isNull : Value → Bool
  | .constant .null => true
  | _ => false

/-- The value is the class of null. -/
def isNullClass : Value → Bool
  | .ofClass ref => ref = .null
  | _ => false

/-! ## Parts -/

mutual

/-- The type variables of the value, in order of their first place. -/
def parameters : Value → List Text
  | .variable name => [name]
  | .tuple items => (parametersAll items).eraseDups
  | .apply _ arguments => (parametersAll arguments).eraseDups
  | .remarked inner _ => parameters inner
  | .union _ members => (parametersAll members).eraseDups
  | _ => []

/-- The type variables of the values. -/
def parametersAll : List Value → List Text
  | [] => []
  | value :: rest => parameters value ++ parametersAll rest

end

/-- The number of integers from one to another, so many apart. -/
def rangeLength (start stop step : Int) : Nat :=
  if 0 < step then ((stop - start + step - 1).fdiv step).toNat
  else if step < 0 then ((start - stop - step - 1).fdiv (-step)).toNat
  else 0

/-- So many integers from one on, so many apart. -/
def integersFrom (step : Int) : Nat → Int → List Value
  | 0, _ => []
  | count + 1, start => integer start :: integersFrom step count (start + step)

/-- The values that one goes through, item by item, if they are all there. -/
def items? : Value → Option (List Value)
  | .tuple items | .list items | .set _ items | .view _ items => some items
  | .constant (.text t) => some (t.map fun c => text [c])
  | .constant (.bytes content) | .buffer _ content =>
    some (content.map fun byte => integer byte.toNat)
  | .dictionary entries | .proxy entries => some (entries.map Prod.fst)
  | .range start stop step => some (integersFrom step (rangeLength start stop step) start)
  | _ => none

/-- The entries of the dictionary that the value is, whether it can be changed or not. -/
def entries? : Value → Option (List (Value × Value))
  | .dictionary entries | .proxy entries => some entries
  | _ => none

/-- The letters of a text. -/
def letters (value : Value) : Text :=
  value.text?.getD []

/-- The byte that the value is. -/
def byte (value : Value) : UInt8 :=
  UInt8.ofNat (value.integer?.getD 0).toNat

/-- The value with these items that is of the kind of another one. -/
def ofItemsLike (value : Value) (items : List Value) : Value :=
  match value with
  | .constant (.text _) => text (items.flatMap letters)
  | .constant (.bytes _) => .constant (.bytes (items.map byte))
  | .buffer isView _ => .buffer isView (items.map byte)
  | .tuple _ => .tuple items
  | _ => .list items

/-- The value counts as true where a condition is needed. -/
def isTruthy : Value → Bool
  | .constant c => c.isTruthy
  | .tuple [] | .list [] | .buffer _ [] | .set _ [] | .dictionary [] | .proxy [] | .view _ [] => false
  | .range start stop step => rangeLength start stop step ≠ 0
  | _ => true

end Value

/-- Names with what they stand for. -/
abbrev NameTable := List (Text × Value)

namespace NameTable

/-- What a name stands for. -/
def find? (name : Text) : NameTable → Option Value
  | [] => none
  | (other, value) :: rest => if other = name then some value else find? name rest

/-- The names with one of them given a value, in place of any it had. -/
def set (name : Text) (value : Value) : NameTable → NameTable
  | [] => [(name, value)]
  | (other, old) :: rest =>
    if other = name then (name, value) :: rest else (other, old) :: set name value rest

@[simp]
theorem find?_set_self (name : Text) (value : Value) (names : NameTable) :
    find? name (set name value names) = some value := by
  induction names with
  | nil => simp [set, find?]
  | cons entry rest ih =>
    obtain ⟨other, old⟩ := entry
    by_cases h : other = name <;> simp [set, find?, h, ih]

theorem find?_set_of_ne {name other : Text} (h : other ≠ name) (value : Value)
    (names : NameTable) : find? other (set name value names) = find? other names := by
  induction names with
  | nil => simp [set, find?, h.symm]
  | cons entry rest ih =>
    obtain ⟨third, old⟩ := entry
    by_cases ht : third = name
    · subst ht
      simp [set, find?, h.symm]
    · rw [set, if_neg ht, find?, find?, ih]

end NameTable

end QueryScaffold
