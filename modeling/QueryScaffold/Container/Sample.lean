import QueryScaffold.Class.Standard
import QueryScaffold.Container.Statement

/-!
# The sample container

A container of a demonstration database, with the settings to generate its query class.

* `Sample.statements`: the container module;
* `Sample.settings`: the settings.
-/

namespace QueryScaffold

namespace Sample

/-- Names that the module takes from elsewhere. -/
def names : NameTable :=
  [annotationsFeature, ("dataclass", .function "dataclasses" none "dataclass"),
    ("date", .ofClass .date), ("Generic", .ofClass .generic),
    ("TypeVar", .ofClass .typeVariable), ("T", .variable "T")]

/-- A parameter that has to be given. -/
def required (name : Text) : Parameter := ⟨.plain, name, none⟩

/-- A parameter that can be left out. -/
def optional (name : Text) : Parameter := ⟨.plain, name, some (.constant .null)⟩

/-- A constructor that reports nothing, with parameters behind the instance. -/
def silentConstructor (parameters : List Parameter) : Constructor :=
  { parameters := required "self" :: parameters
    expectedStart := none, failure := none, reported := false }

/-- A class of rows whose constructor takes a value for each column. -/
def rowClass (name : Text) (columns : List Parameter) : Statement :=
  .declare
    { name, bases := [], registry := none, annotations := []
      construction := some (silentConstructor columns), closer := none }

/-- The names of the accessors and of their entities. -/
def collections : List (Text × Text) :=
  [("Departments", "Department"), ("Employees", "Employee"),
    ("VEmployeeDepartmentHistories", "VEmployeeDepartmentHistory")]

/-- The sign with which the text of the module starts. -/
def moduleStart : Text := "\"\"\""

/-- The container module. -/
def statements : List Statement :=
  [.provide names,
    .declare
      { name := "Query"
        bases := [.subscript (.name "Generic") (.name "T")]
        registry := none, annotations := [], construction := none, closer := none },
    rowClass "Department" [required "department_id", required "name", required "group_name"],
    rowClass "Employee"
      [required "business_entity_id", required "job_title", required "hire_date"],
    rowClass "VEmployeeDepartmentHistory"
      [required "business_entity_id", required "first_name", required "last_name",
        required "department", required "start_date", optional "end_date"],
    .declare
      { name := "AdventureWorksContext", bases := []
        registry := some (.members (collections.map fun c => .reference (.name c.2)))
        annotations := collections.map fun c =>
          (c.1, ("Query[" : Text) ++ c.2 ++ ("]" : Text))
        construction := some (silentConstructor [required "connection_string"])
        closer := some (.method none false) }]

/-- The settings. -/
def settings : Json :=
  .object
    [("Namespace", .string "AdventureWorksGraphQLDemo.GraphQL"),
      ("BaseTypeName", .string "QueryBase"),
      ("Schema", .object
        [("SchemaName", .string "AdventureWorksContext"),
          ("ConnectionString",
            .string "Server=localhost;Database=AdventureWorks;Trusted_Connection=True;"),
          ("ModuleLocation", .string "schema/adventure_works.py"),
          ("ContainerNamespace", .string "AdventureWorksGraphQLDemo.Models")]),
      ("Usings", .array
        [.string "HotChocolate", .string "HotChocolate.Data", .string "Microsoft.AspNetCore.Http",
          .string "Microsoft.Extensions.Configuration"]),
      ("DirectoryName", .string "generated"),
      ("FileName", .string "Query.cs")]

end Sample

end QueryScaffold
