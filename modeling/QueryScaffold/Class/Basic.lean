import QueryScaffold.Class.Declaration
import QueryScaffold.Value.Basic

/-!
# Classes

* `Maker`, `Initializer`: the two steps in which a class makes an instance;
* `ClassFunction`: the code of a function that belongs to a class;
* `ClassBody`: what one class says itself;
* `Class`: a class with the classes it inherits from, nearest first;
* `linearize`: that order for a class with given bases, or the classes that stand in its way.

In the order every class stands before those it inherits from, and the bases of a class keep the
order in which it lists them. Whatever several classes of the order say, the nearest one decides.
-/

namespace QueryScaffold

/-- What a class takes in brackets. -/
inductive Brackets
  /-- As many types as the class has type variables. -/
  | parameters
  /-- Any number of arguments, which are kept as they are. -/
  | anything
  /-- The same, but not for classes that inherit from it. -/
  | anythingItself
  /-- A type and remarks on it. -/
  | remarks
deriving DecidableEq, Repr

/-- How a class makes an instance. -/
inductive Maker
  /-- As the built-in class of this name does it. -/
  | builtin (name : Text)
  /-- It refuses with a notice; a class that inherits from it goes on to the next maker. -/
  | abstract (notice : Text)
deriving DecidableEq

/-- How a class sets up an instance that was made. -/
inductive Initializer
  /-- As the built-in class of this name does it. -/
  | builtin (name : Text)
  /-- By a call of this value. -/
  | call (function : Value)

/-- The parameters of a function, each with its default if it has one. -/
abbrev Signature := List (FunctionParameter × Option Value)

/-- The code of a function that belongs to a class. -/
inductive ClassFunction
  /-- It sets an instance up. -/
  | construction (signature : Signature) (constructor : Constructor)
  /-- It closes an instance, and may fail; its calls may be reported as events. -/
  | closing (failure : Option Raising) (reported : Bool)

/-- What becomes of classes that inherit from a class. -/
inductive Heritage
  | free
  /-- There are none. -/
  | final
  /-- They are refused with a notice, which starts with the namespace of the new class if it has a
  place for it. -/
  | refused (beforeNamespace afterNamespace : Text) (namesNamespace : Bool)
  /-- They have to say over what they are generic. -/
  | generic
deriving DecidableEq

/-- The class that a class belongs to itself. -/
inductive Metaclass
  | type
  | abstract
  | any
deriving DecidableEq, Repr

namespace Metaclass

/-- The name of the metaclass. -/
def name : Metaclass → Text
  | .type => "type"
  | .abstract => "ABCMeta"
  | .any => "_AnyMeta"

end Metaclass

/-- What a class says itself. -/
structure ClassBody where
  ref : ClassRef
  brackets : Option Brackets := none
  /-- The type variables of the class. -/
  parameters : List Text := []
  /-- The attributes that the class gives a value. -/
  members : NameTable := []
  /-- The functions that belong to the class, by their names. -/
  functions : List (Text × ClassFunction) := []
  maker : Option Maker := none
  initializer : Option Initializer := none
  /-- The methods that its instances need; the marked ones are still missing. -/
  methods : List (Text × Bool) := []
  heritage : Heritage := .free
  metaclass : Metaclass := .type
  /-- The classes that the class names as its bases. -/
  bases : List ClassRef := [.object]
  /-- The base that fixes how instances are kept. -/
  base : Option ClassRef := some .object
  /-- Instances keep attributes that are given to them. -/
  keepsAttributes : Bool := true
  /-- Instances can be referred to without being kept. -/
  keepsMarks : Bool := true

/-- The attributes that the class annotates, each with its annotation. -/
def ClassBody.annotations (body : ClassBody) : List (Text × Value) :=
  match body.members.find? "__annotations__" with
  | some (.dictionary entries) =>
    entries.filterMap fun entry => entry.1.text?.map fun name => (name, entry.2)
  | _ => []

/-- A class with everything it inherits: its own body, and those of the classes it inherits from,
nearest first. -/
structure Class where
  body : ClassBody
  inherited : List ClassBody
  /-- The class that fixes how instances are kept; others than `object` exclude each other unless
  one inherits from the other. -/
  layout : ClassRef

namespace Class

/-- The identity of the class. -/
def ref (c : Class) : ClassRef := c.body.ref

/-- The name of the class. -/
def name (c : Class) : Text := c.ref.name

/-- The class and those it inherits from, nearest first. -/
def lineage (c : Class) : List ClassBody := c.body :: c.inherited

/-- The class is another one, or inherits from it. -/
def isA (c : Class) (ref : ClassRef) : Bool :=
  c.lineage.any fun body => body.ref = ref

/-- The names of the built-in classes among the class and those it inherits from, nearest first. -/
def builtinAncestry (c : Class) : List Text :=
  c.lineage.filterMap fun body => if body.ref.isBuiltin then some body.ref.name else none

/-- The class that the class belongs to itself. -/
def metaclass (c : Class) : Metaclass :=
  ((c.lineage.map ClassBody.metaclass).find? (· ≠ .type)).getD .type

/-- What an attribute of the class stands for. -/
def member? (c : Class) (name : Text) : Option Value :=
  c.lineage.findSome? fun body => body.members.find? name

/-- What the class takes in brackets. -/
def brackets? (c : Class) : Option Brackets :=
  c.lineage.findSome? fun body =>
    if body.brackets = some .anythingItself && body.ref ≠ c.ref then none else body.brackets

/-- The initializer of the class, and the class that it is from. -/
def initializer? (c : Class) : Option (ClassRef × Initializer) :=
  c.lineage.findSome? fun body => body.initializer.map fun made => (body.ref, made)

/-- The makers of classes, with the classes that they are from. -/
def makersOf (bodies : List ClassBody) : List (ClassRef × Maker) :=
  bodies.filterMap fun body => body.maker.map fun made => (body.ref, made)

/-- The makers of the class, nearest first. -/
def makers (c : Class) : List (ClassRef × Maker) :=
  makersOf c.lineage

/-- The code of a function that belongs to the class. -/
def function? (c : Class) (name : Text) : Option ClassFunction :=
  (c.body.functions.find? fun function => function.1 = name).map Prod.snd

/-- The maker that the class has from the way in which its instances are kept: so many classes after
it are looked at, each of which fixes that for the one before. -/
def keeper? (c : Class) : Nat → ClassRef → Option (ClassRef × Text)
  | 0, _ => none
  | count + 1, ref =>
    (c.lineage.find? fun body => body.ref = ref).bind fun body =>
      match body.maker with
      | some (.builtin name) => some (ref, name)
      | _ => body.base.bind fun base => c.keeper? count base

/-- The built-in maker that the class has from the way in which its instances are kept, and the class
that it is from. -/
def nativeMaker (c : Class) : ClassRef × Text :=
  (c.keeper? c.lineage.length c.ref).getD (.object, ClassRef.object.name)

/-- The methods that instances of the class need and the class does not have, in order of name. -/
def missingMethods (c : Class) : List Text :=
  let methods := c.lineage.flatMap ClassBody.methods
  let nearest := (methods.map Prod.fst).eraseDups.filter fun name =>
    (methods.find? fun method => method.1 = name).any fun method => method.2
  nearest.mergeSort Text.le

end Class

/-! ## The order of inheritance -/

/-- The head of a list that stands in no tail of the lists. -/
def nextInLine? (lists : List (List ClassBody)) : Option ClassBody :=
  lists.findSome? fun list =>
    match list with
    | [] => none
    | head :: _ =>
      if lists.any fun other => other.tail.any fun body => body.ref = head.ref then none
      else some head

/-- The heads of lists, each class once. -/
def headsOf : List (List ClassBody) → List ClassRef
  | [] => []
  | [] :: rest => headsOf rest
  | (head :: _) :: rest => head.ref :: (headsOf rest).filter (· ≠ head.ref)

/-- Merges orders into one that respects each of them, or gives the classes that stand in each
other's way. -/
def mergeOrders : Nat → List (List ClassBody) → Except (List ClassRef) (List ClassBody)
  | 0, _ => .ok []
  | fuel + 1, lists =>
    let rest := lists.filter fun list => !list.isEmpty
    if rest.isEmpty then .ok []
    else
      match nextInLine? rest with
      | none => .error (headsOf rest)
      | some body =>
        let shortened := rest.map fun list =>
          match list with
          | head :: tail => if head.ref = body.ref then tail else head :: tail
          | [] => []
        (mergeOrders fuel shortened).map (body :: ·)

/-- The classes that a class with these bases inherits from, nearest first. -/
def linearize (bases : List Class) : Except (List ClassRef) (List ClassBody) :=
  let lists := bases.map Class.lineage ++ [bases.map Class.body]
  mergeOrders (lists.flatten.length + 1) lists

end QueryScaffold
