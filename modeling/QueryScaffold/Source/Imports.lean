import QueryScaffold.Settings.Basic

/-!
# Imports

The generated file uses the configured namespaces, that of the data access library and that of the
entities. `Settings.imports` lists them once each: first `System` and what is inside it, and in each
group by code point.
-/

namespace QueryScaffold

/-- The namespace of the data access library. -/
def dataAccessNamespace : Text := "Microsoft.EntityFrameworkCore"

/-- The namespace is `System` or inside it. -/
def isSystemNamespace (name : Text) : Bool :=
  name = ("System" : Text) || ("System." : Text).isPrefixOf name

/-- One import may stand before another. -/
def importLe (a b : Text) : Bool :=
  if isSystemNamespace a = isSystemNamespace b then Text.le a b else isSystemNamespace a

/-- Puts a name into its place among sorted ones, unless it is there. -/
def insertImport (name : Text) : List Text → List Text
  | [] => [name]
  | other :: rest =>
    if name = other then other :: rest
    else if importLe name other then name :: other :: rest
    else other :: insertImport name rest

/-- The names in the order of imports, once each. -/
def sortImports (names : List Text) : List Text :=
  names.foldr insertImport []

/-- The namespaces that the generated file uses. -/
def Settings.imports (settings : Settings) : List Text :=
  sortImports (dataAccessNamespace :: settings.entityNamespace :: settings.usings)

end QueryScaffold
