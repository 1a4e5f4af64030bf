import QueryScaffold.Expression.Reader

/-!
# Classes as written

* `Raising`: how code raises an exception;
* `Constructor`, `Closer`, `RegistryForm`: parts of a class;
* `ClassDeclaration`: a class statement.
-/

namespace QueryScaffold

/-- How code raises an exception: what it calls, and the message that it hands over. -/
structure Raising where
  kind : Expression
  message : Text

/-- A parameter of a constructor. -/
structure Parameter where
  way : ParameterWay
  name : Text
  default : Option Expression

/-- A constructor that takes a connection string. -/
structure Constructor where
  /-- The parameters, among them the instance and the connection string in the first two places. -/
  parameters : List Parameter
  /-- What the connection string has to start with. -/
  expectedStart : Option Text
  failure : Option Raising
  /-- Whether a finished call is reported as an event. -/
  reported : Bool

/-- The attribute `close` of a class. -/
inductive Closer
  /-- A method, which may fail; its calls may be reported as events. -/
  | method (failure : Option Raising) (reported : Bool)
  /-- A value that cannot be called. -/
  | attribute (value : Json)

/-- An item of a registry of entity types. -/
inductive RegistryMember
  | reference (item : Expression)
  | literal (value : Json)

/-- The attribute `entity_types` of a class. -/
inductive RegistryForm
  | members (items : List RegistryMember)
  /-- Any other value. -/
  | literal (value : Json)

/-- A class statement. -/
structure ClassDeclaration where
  name : Text
  bases : List Expression
  registry : Option RegistryForm
  /-- The attributes that are annotated, each with the text of its annotation. -/
  annotations : List (Text × Text)
  construction : Option Constructor
  closer : Option Closer

end QueryScaffold
