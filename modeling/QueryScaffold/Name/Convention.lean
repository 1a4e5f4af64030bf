import QueryScaffold.Text.Lowercase

/-!
# Naming conventions

Accessor `Customers` gives method `GetCustomers` and, with prefix `dbContext`, the context variable
`dbContext_Customers`; parameter `dbContextFactory` gives field `_dbContextFactory`. Accessor names
are taken as they are.
-/

namespace QueryScaffold

/-- The method that queries an accessor. -/
def methodName (accessor : Text) : Text :=
  ("Get" : Text) ++ accessor

/-- The variable that holds the context while an accessor is queried. -/
def contextVariableName (stem accessor : Text) : Text :=
  stem ++ ("_" : Text) ++ accessor

/-- The private field behind a constructor parameter. -/
def fieldName (parameter : Text) : Text :=
  ("_" : Text) ++ parameter.decapitalize

end QueryScaffold
