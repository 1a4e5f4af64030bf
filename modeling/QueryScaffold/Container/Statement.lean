import QueryScaffold.Class.Declaration
import QueryScaffold.Value.Basic

/-!
# Container modules as written

* `Statement`: one statement.

A container module is a list of statements. They declare the container class, the entity classes and
the generic collection classes, or fail while the module is loaded.
-/

namespace QueryScaffold

/-- A statement of a container module. -/
inductive Statement
  /-- Takes names from elsewhere. -/
  | provide (names : NameTable)
  | declare (declaration : ClassDeclaration)
  /-- Gives a name to the value of an expression. -/
  | assign (name : Text) (source : Expression)
  | value (name : Text) (literal : Json)
  | function (name : Text)
  | fail (failure : Raising)

end QueryScaffold
