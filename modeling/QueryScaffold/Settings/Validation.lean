import QueryScaffold.Json.Value
import QueryScaffold.Settings.Basic
import QueryScaffold.Text.Blank

/-!
# Validating settings

Settings are a JSON object. Each field may stand under its published key, such as `ClassName`, or
under its plain name, such as `class_name`; the published key counts if both are there, and other
keys are ignored.

* `Checked`: a value, or all the places that are at fault;
* `Settings.ofJson`: the settings that a JSON value holds.

A check never stops at the first fault: the offending places of all fields come out together, in the
order of the fields.
-/

namespace QueryScaffold

/-- A place in the settings: keys and indices from the outside in. -/
abbrev FieldPath := List Text

namespace FieldPath

/-- The place with points between its parts. -/
def text (path : FieldPath) : Text :=
  Text.joined ("." : Text) path

end FieldPath

/-- The outcome of a check. -/
inductive Checked (α : Type) where
  | accepted (value : α)
  /-- The places at fault; there is at least one. -/
  | rejected (offenders : List FieldPath)

namespace Checked

/-- The outcome with a function applied to an accepted value. -/
def map {α β : Type} (f : α → β) : Checked α → Checked β
  | .accepted a => .accepted (f a)
  | .rejected offenders => .rejected offenders

/-- The outcome of two checks of which the first gives a function; both may have offenders. -/
def both {α β : Type} : Checked (α → β) → Checked α → Checked β
  | .accepted f, .accepted a => .accepted (f a)
  | .accepted _, .rejected offenders => .rejected offenders
  | .rejected offenders, .accepted _ => .rejected offenders
  | .rejected first, .rejected second => .rejected (first ++ second)

/-- The places at fault. -/
def offenders {α : Type} : Checked α → List FieldPath
  | .accepted _ => []
  | .rejected offenders => offenders

instance : Functor Checked where
  map := map

instance : Seq Checked where
  seq f a := both f (a ())

theorem offenders_both {α β : Type} (f : Checked (α → β)) (a : Checked α) :
    (both f a).offenders = f.offenders ++ a.offenders := by
  cases f <;> cases a <;> simp [both, offenders]

theorem offenders_map {α β : Type} (f : α → β) (a : Checked α) :
    (map f a).offenders = a.offenders := by
  cases a <;> rfl

end Checked

/-- The two spellings of a field. -/
structure FieldKey where
  published : Text
  plain : Text

namespace FieldKey

/-- The key under which the field stands, with its value. -/
def find? (key : FieldKey) (entries : Entries) : Option (Text × Json) :=
  match entries.get? key.published with
  | some value => some (key.published, value)
  | none => (entries.get? key.plain).map fun value => (key.plain, value)

end FieldKey

/-- A check of the value at a place. -/
abbrev FieldCheck (α : Type) := FieldPath → Json → Checked α

namespace FieldCheck

/-- A text that is not blank, without the white space around it. -/
def nonBlank : FieldCheck Text := fun path value =>
  match value with
  | .string s =>
    let trimmed := s.trim CodePoint.isWhiteSpace
    if s.hasSurrogate || trimmed.isEmpty then .rejected [path] else .accepted trimmed
  | _ => .rejected [path]

/-- The name of a capability. -/
def capability : FieldCheck Capability := fun path value =>
  match value with
  | .string s =>
    match Capability.ofName? s with
    | some c => .accepted c
    | none => .rejected [path]
  | _ => .rejected [path]

/-- Null, or what a check accepts. -/
def nullable {α : Type} (check : FieldCheck α) : FieldCheck (Option α) := fun path value =>
  match value with
  | .null => .accepted none
  | value => (check path value).map some

/-- Items that a check accepts, from an index on. -/
def items {α : Type} (check : FieldCheck α) (path : FieldPath) (index : Nat) :
    List Json → Checked (List α)
  | [] => .accepted []
  | item :: rest =>
    (check (path ++ [Text.ofNat index]) item).map List.cons |>.both
      (items check path (index + 1) rest)

/-- An array of items that a check accepts. -/
def listOf {α : Type} (check : FieldCheck α) : FieldCheck (List α) := fun path value =>
  match value with
  | .array values => items check path 0 values
  | _ => .rejected [path]

/-- A field that has to be there. -/
def required {α : Type} (check : FieldCheck α) (key : FieldKey) (path : FieldPath)
    (entries : Entries) : Checked α :=
  match key.find? entries with
  | some (used, value) => check (path ++ [used]) value
  | none => .rejected [path ++ [key.published]]

/-- A field that takes a default when it is not there. -/
def withDefault {α : Type} (check : FieldCheck α) (key : FieldKey) (value : α) (entries : Entries) :
    Checked α :=
  match key.find? entries with
  | some (used, found) => check [used] found
  | none => .accepted value

end FieldCheck

namespace SchemaIdentity

/-- The identity in the entries of a JSON object at a place. -/
def ofEntries (path : FieldPath) (entries : Entries) : Checked SchemaIdentity :=
  SchemaIdentity.mk
    <$> FieldCheck.nonBlank.required ⟨"SchemaName", "schema_name"⟩ path entries
    <*> FieldCheck.nonBlank.required ⟨"ConnectionString", "connection_string"⟩ path entries
    <*> FieldCheck.nonBlank.required ⟨"ModuleLocation", "module_location"⟩ path entries
    <*> FieldCheck.nonBlank.required ⟨"ContainerNamespace", "container_namespace"⟩ path entries

/-- The identity in a JSON value. -/
def check : FieldCheck SchemaIdentity := fun path value =>
  match value with
  | .object entries => ofEntries path entries
  | _ => .rejected [path]

end SchemaIdentity

namespace Settings

/-- The settings in the entries of a JSON object. -/
def ofEntries (entries : Entries) : Checked Settings :=
  Settings.mk
    <$> FieldCheck.nonBlank.withDefault ⟨"Namespace", "namespace"⟩ "GraphQL" entries
    <*> FieldCheck.nonBlank.withDefault ⟨"ClassName", "class_name"⟩ "Query" entries
    <*> FieldCheck.nonBlank.withDefault ⟨"BaseTypeName", "base_type_name"⟩ "QueryBase" entries
    <*> SchemaIdentity.check.required ⟨"Schema", "schema_identity"⟩ [] entries
    <*> FieldCheck.nonBlank.listOf.withDefault ⟨"Usings", "usings"⟩ [] entries
    <*> FieldCheck.nonBlank.nullable.withDefault ⟨"ModelNamespace", "model_namespace"⟩ none entries
    <*> FieldCheck.capability.listOf.withDefault ⟨"QueryCapabilities", "query_capabilities"⟩
      Capability.all entries
    <*> FieldCheck.nonBlank.withDefault ⟨"ContextVariablePrefix", "context_variable_prefix"⟩
      "dbContext" entries
    <*> FieldCheck.nonBlank.withDefault ⟨"QueryHelperName", "query_helper_name"⟩
      "ApplyQueryBehaviors" entries
    <*> FieldCheck.nonBlank.withDefault ⟨"DirectoryName", "directory_name"⟩ "generated" entries
    <*> FieldCheck.nonBlank.withDefault ⟨"FileName", "file_name"⟩ "Query.cs" entries

/-- The settings in a JSON value. A value that is not an object is at fault as a whole. -/
def ofJson : Json → Checked Settings
  | .object entries => ofEntries entries
  | _ => .rejected [[]]

end Settings

end QueryScaffold
