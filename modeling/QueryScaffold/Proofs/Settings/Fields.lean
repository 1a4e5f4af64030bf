import Mathlib.Data.List.Basic
import QueryScaffold.Settings.Validation

/-!
# The fields of settings

What settings may hold, said field by field and without the checks. A field is known by what it is
for; which of its two keys an object has for it is another matter, and so is the order of the
object.

* `FieldKey.value?`, `FieldKey.used`: the value of a field, and the key by which faults name it;
* `SchemaIdentity.Field`, `Settings.Field`: the fields in the order of their declaration;
* `Settings.Kind`: what a field is to hold, and `Kind.Takes` when a value is of a kind;
* `Settings.IsAcceptable`: an object that has what settings need;
* `Settings.Holds`, `Settings.Holds.unique`: the settings that are what an object says, and no
  others.
-/

namespace QueryScaffold

namespace Json

/-- A text of scalar values that is not blank. -/
def isText : Json → Bool
  | .string s => !s.hasSurrogate && s.any fun c => !c.isWhiteSpace
  | _ => false

/-- The name of a capability. -/
def isCapability : Json → Bool
  | .string s => Capability.all.any (·.name = s)
  | _ => false

/-- The value without the white space around it, if it is a text. -/
def trimmedText : Json → Json
  | .string s => .string (s.trim CodePoint.isWhiteSpace)
  | value => value

/-- The value without the white space around its texts. -/
def trimmed : Json → Json
  | .array items => .array (items.map trimmedText)
  | value => value.trimmedText

end Json

namespace FieldKey

/-- The value of the field; the one under the published key counts if both are there. -/
def value? (key : FieldKey) (entries : Entries) : Option Json :=
  (entries.get? key.published).or (entries.get? key.plain)

/-- The key by which faults name the field: the one under which it stands, and the published one if
it does not stand there at all. -/
def used (key : FieldKey) (entries : Entries) : Text :=
  if (entries.get? key.published).isNone && (entries.get? key.plain).isSome then key.plain
  else key.published

theorem find?_eq (key : FieldKey) (entries : Entries) :
    key.find? entries = (key.value? entries).map fun value => (key.used entries, value) := by
  unfold find? value? used
  cases entries.get? key.published with
  | some value => rfl
  | none => cases entries.get? key.plain <;> rfl

theorem used_of_value?_eq_none {key : FieldKey} {entries : Entries}
    (h : key.value? entries = none) : key.used entries = key.published := by
  rw [value?, Option.or_eq_none_iff] at h
  simp [used, h]

end FieldKey

theorem Capability.name_injective : Function.Injective Capability.name := by
  intro c d h
  exact Option.some.inj ((ofName?_name c).symm.trans (h ▸ ofName?_name d))

/-- The names of capabilities have no white space around them. -/
theorem Capability.trim_name (capability : Capability) :
    capability.name.trim CodePoint.isWhiteSpace = capability.name := by
  cases capability <;> decide

/-! ## Fields -/

namespace SchemaIdentity

/-- The fields of an identity, in the order of their declaration. -/
inductive Field
  | schemaName
  | connectionString
  | moduleLocation
  | containerNamespace
deriving DecidableEq

namespace Field

def all : List Field := [.schemaName, .connectionString, .moduleLocation, .containerNamespace]

theorem mem_all (field : Field) : field ∈ all := by
  cases field <;> decide

/-- The number of a field in the order of declaration. -/
def rank (field : Field) : Nat := all.idxOf field

def key : Field → FieldKey
  | .schemaName => ⟨"SchemaName", "schema_name"⟩
  | .connectionString => ⟨"ConnectionString", "connection_string"⟩
  | .moduleLocation => ⟨"ModuleLocation", "module_location"⟩
  | .containerNamespace => ⟨"ContainerNamespace", "container_namespace"⟩

end Field

/-- What an identity has in a field. -/
def text (identity : SchemaIdentity) : Field → Text
  | .schemaName => identity.schemaName
  | .connectionString => identity.connectionString
  | .moduleLocation => identity.moduleLocation
  | .containerNamespace => identity.containerNamespace

theorem text_injective : Function.Injective text := by
  rintro ⟨⟩ ⟨⟩ h
  rw [mk.injEq]
  exact ⟨congrFun h .schemaName, congrFun h .connectionString, congrFun h .moduleLocation,
    congrFun h .containerNamespace⟩

end SchemaIdentity

namespace Settings

/-- The fields of settings, in the order of their declaration. -/
inductive Field
  | codeNamespace
  | className
  | baseTypeName
  | schemaIdentity
  | usings
  | modelNamespace
  | queryCapabilities
  | contextVariablePrefix
  | queryHelperName
  | directoryName
  | fileName
deriving DecidableEq

/-- What a single value is to be. -/
inductive Item
  | text
  | capability

/-- What a field is to hold. -/
inductive Kind
  | single (item : Item)
  /-- A value or null. -/
  | optional (item : Item)
  | list (item : Item)
  | identity

/-- The value is what it is to be. -/
def Item.admits : Item → Json → Bool
  | .text, value => value.isText
  | .capability, value => value.isCapability

/-- Single values are texts, which have no items to trim. -/
theorem Item.trimmed_of_admits {item : Item} {value : Json} (h : item.admits value) :
    value.trimmed = value.trimmedText := by
  cases value with
  | array values => cases item <;> cases h
  | _ => rfl

namespace Field

def all : List Field :=
  [.codeNamespace, .className, .baseTypeName, .schemaIdentity, .usings, .modelNamespace,
    .queryCapabilities, .contextVariablePrefix, .queryHelperName, .directoryName, .fileName]

theorem mem_all (field : Field) : field ∈ all := by
  cases field <;> decide

/-- The number of a field in the order of declaration. -/
def rank (field : Field) : Nat := all.idxOf field

def key : Field → FieldKey
  | .codeNamespace => ⟨"Namespace", "namespace"⟩
  | .className => ⟨"ClassName", "class_name"⟩
  | .baseTypeName => ⟨"BaseTypeName", "base_type_name"⟩
  | .schemaIdentity => ⟨"Schema", "schema_identity"⟩
  | .usings => ⟨"Usings", "usings"⟩
  | .modelNamespace => ⟨"ModelNamespace", "model_namespace"⟩
  | .queryCapabilities => ⟨"QueryCapabilities", "query_capabilities"⟩
  | .contextVariablePrefix => ⟨"ContextVariablePrefix", "context_variable_prefix"⟩
  | .queryHelperName => ⟨"QueryHelperName", "query_helper_name"⟩
  | .directoryName => ⟨"DirectoryName", "directory_name"⟩
  | .fileName => ⟨"FileName", "file_name"⟩

def kind : Field → Kind
  | .schemaIdentity => .identity
  | .usings => .list .text
  | .modelNamespace => .optional .text
  | .queryCapabilities => .list .capability
  | _ => .single .text

/-- What stands in a field that an object does not have; the identity has no such value. -/
def default : Field → Json
  | .codeNamespace => .string "GraphQL"
  | .className => .string "Query"
  | .baseTypeName => .string "QueryBase"
  | .schemaIdentity | .modelNamespace => .null
  | .usings => .array []
  | .queryCapabilities => .array (Capability.all.map fun capability => .string capability.name)
  | .contextVariablePrefix => .string "dbContext"
  | .queryHelperName => .string "ApplyQueryBehaviors"
  | .directoryName => .string "generated"
  | .fileName => .string "Query.cs"

end Field

/-- What settings have in a field, as a value. -/
def value (settings : Settings) : Field → Json
  | .codeNamespace => .string settings.codeNamespace
  | .className => .string settings.className
  | .baseTypeName => .string settings.baseTypeName
  | .schemaIdentity => .object (SchemaIdentity.Field.all.map fun field =>
      (field.key.published, .string (settings.schemaIdentity.text field)))
  | .usings => .array (settings.usings.map .string)
  | .modelNamespace => settings.modelNamespace.elim .null .string
  | .queryCapabilities =>
      .array (settings.queryCapabilities.map fun capability => .string capability.name)
  | .contextVariablePrefix => .string settings.contextVariablePrefix
  | .queryHelperName => .string settings.queryHelperName
  | .directoryName => .string settings.directoryName
  | .fileName => .string settings.fileName

/-! ## What is accepted -/

/-- A value of the kind. -/
def Kind.Takes : Kind → Json → Prop
  | .single item, value => item.admits value
  | .optional item, value => value = .null ∨ item.admits value
  | .list item, value => ∃ values, value = .array values ∧ ∀ v ∈ values, item.admits v
  | .identity, value => ∃ entries, value = .object entries ∧ ∀ field : SchemaIdentity.Field,
      ∃ v, field.key.value? entries = some v ∧ v.isText

/-- An object that has an identity and in which every field that is there holds what it should. -/
def IsAcceptable (data : Json) : Prop :=
  ∃ entries, data = .object entries ∧
    (∃ value, Field.schemaIdentity.key.value? entries = some value) ∧
      ∀ (field : Field) (value : Json), field.key.value? entries = some value →
        field.kind.Takes value

/-- The settings are what an object says: the values that are there without white space around their
texts, lists in their order and with their repetitions, and defaults for fields that are not
there. -/
structure Holds (entries : Entries) (settings : Settings) : Prop where
  value : ∀ field ≠ .schemaIdentity,
    settings.value field = (field.key.value? entries).elim field.default Json.trimmed
  identity : ∃ inner, Field.schemaIdentity.key.value? entries = some (.object inner) ∧
    ∀ field : SchemaIdentity.Field, ∃ v, field.key.value? inner = some v ∧
      .string (settings.schemaIdentity.text field) = v.trimmedText

/-- Settings are known by what they have in each field. -/
theorem eq_of_value_eq {settings settings' : Settings}
    (hvalue : ∀ field ≠ .schemaIdentity, settings.value field = settings'.value field)
    (htext : settings.schemaIdentity.text = settings'.schemaIdentity.text) :
    settings = settings' := by
  have htexts : Function.Injective Json.string := fun _ _ => Json.string.inj
  have hnames : Function.Injective fun c : Capability => Json.string c.name :=
    htexts.comp Capability.name_injective
  have hoptional : Function.Injective fun t : Option Text => t.elim Json.null .string := by
    rintro (_ | _) (_ | _) h
    · rfl
    · cases h
    · cases h
    · exact congrArg some (Json.string.inj h)
  cases settings
  cases settings'
  rw [mk.injEq]
  refine ⟨htexts (hvalue .codeNamespace nofun), htexts (hvalue .className nofun),
    htexts (hvalue .baseTypeName nofun), SchemaIdentity.text_injective htext,
    htexts.list_map (Json.array.inj (hvalue .usings nofun)),
    hoptional (hvalue .modelNamespace nofun),
    hnames.list_map (Json.array.inj (hvalue .queryCapabilities nofun)),
    htexts (hvalue .contextVariablePrefix nofun), htexts (hvalue .queryHelperName nofun),
    htexts (hvalue .directoryName nofun), htexts (hvalue .fileName nofun)⟩

/-- An object says what the settings are. -/
theorem Holds.unique {entries : Entries} {settings settings' : Settings}
    (h : Holds entries settings) (h' : Holds entries settings') : settings = settings' := by
  refine eq_of_value_eq (fun field hfield => (h.value field hfield).trans (h'.value field hfield).symm)
    (funext fun field => ?_)
  obtain ⟨inner, hinner, htext⟩ := h.identity
  obtain ⟨inner', hinner', htext'⟩ := h'.identity
  obtain rfl := Json.object.inj (Option.some.inj (hinner.symm.trans hinner'))
  obtain ⟨v, hv, heq⟩ := htext field
  obtain ⟨v', hv', heq'⟩ := htext' field
  obtain rfl := Option.some.inj (hv.symm.trans hv')
  exact Json.string.inj (heq.trans heq'.symm)

end Settings

end QueryScaffold
