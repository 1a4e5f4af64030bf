import QueryScaffold.Text.Basic

/-!
# Settings

* `SchemaIdentity`: which container to load, and how to connect to it;
* `Capability`: the behaviours that every generated method gets;
* `Settings`: everything a run is configured by.
-/

namespace QueryScaffold

/-- Which schema container to load. -/
structure SchemaIdentity where
  /-- The container's class. -/
  schemaName : Text
  connectionString : Text
  /-- The file of the module that declares the class. -/
  moduleLocation : Text
  /-- The name under which the module is loaded. -/
  containerNamespace : Text
deriving DecidableEq

/-- A behaviour of a generated query method. -/
inductive Capability
  | paging
  | projection
  | filtering
  | sorting
deriving DecidableEq, Repr

namespace Capability

/-- All capabilities, in the order in which a method has them by default. -/
def all : List Capability := [.paging, .projection, .filtering, .sorting]

/-- The name of a capability in the settings. -/
def name : Capability → Text
  | .paging => "paging"
  | .projection => "projection"
  | .filtering => "filtering"
  | .sorting => "sorting"

/-- The attribute that gives a method the capability. -/
def attributeName : Capability → Text
  | .paging => "UsePaging"
  | .projection => "UseProjection"
  | .filtering => "UseFiltering"
  | .sorting => "UseSorting"

/-- The capability of a name. -/
def ofName? (name : Text) : Option Capability :=
  all.find? (·.name = name)

theorem ofName?_name (c : Capability) : ofName? c.name = some c := by
  cases c <;> decide

end Capability

/-- What a run is configured by. -/
structure Settings where
  /-- The namespace of the generated class. -/
  codeNamespace : Text
  className : Text
  baseTypeName : Text
  schemaIdentity : SchemaIdentity
  /-- Namespaces that the generated file uses besides those it needs. -/
  usings : List Text
  /-- The namespace of the entity types, if it is not the container's. -/
  modelNamespace : Option Text
  queryCapabilities : List Capability
  contextVariablePrefix : Text
  queryHelperName : Text
  directoryName : Text
  fileName : Text
deriving DecidableEq

namespace Settings

/-- The namespace of the entity types. -/
def entityNamespace (settings : Settings) : Text :=
  settings.modelNamespace.getD settings.schemaIdentity.containerNamespace

end Settings

end QueryScaffold
