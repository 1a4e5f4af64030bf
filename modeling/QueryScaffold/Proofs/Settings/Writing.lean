import Mathlib.Data.List.Nodup
import QueryScaffold.Proofs.Settings.Reading
import QueryScaffold.Proofs.Settings.Spelling

/-!
# Writing settings

Settings are written as an object of all their fields, each under either of its names. What is read
is a normal form: its texts have no white space left around them and its defaults are filled in, so
that reading it back changes nothing.

* `Settings.entries`: what settings are written as;
* `Json.trimmed_trimmed`, `Settings.Kind.Takes.trimmed`: values as they are read are accepted, and
  stay as they are;
* `Settings.validate_entries`: **settings that were read are read back from what they are written
  as**;
* `Settings.validate_normal`: so reading depends on no spelling, and what it gives is normal.
-/

namespace QueryScaffold

namespace Json

theorem trimmedText_trimmedText (value : Json) :
    value.trimmedText.trimmedText = value.trimmedText := by
  cases value with
  | string s => exact congrArg Json.string (Text.trim_trim s)
  | _ => rfl

/-- Trimming a second time takes nothing away. -/
theorem trimmed_trimmed (value : Json) : value.trimmed.trimmed = value.trimmed := by
  cases value with
  | array items => simp [trimmed, trimmedText_trimmedText]
  | string s => exact trimmedText_trimmedText (.string s)
  | _ => rfl

/-- Trimming a text that is not blank leaves one that is not blank. -/
theorem isText_trimmedText {value : Json} (h : value.isText) : value.trimmedText.isText := by
  cases value with
  | string s =>
    obtain ⟨hscalar, hblank⟩ := Bool.and_eq_true_iff.1 h
    have hscalar' : (s.trim CodePoint.isWhiteSpace).hasSurrogate = false := by
      rw [Bool.not_eq_true'] at hscalar
      exact List.any_eq_false.2 fun c hc =>
        List.any_eq_false.1 hscalar c ((Text.trim_infix s).subset hc)
    have hblank' : (s.trim CodePoint.isWhiteSpace).any fun c => !c.isWhiteSpace := by
      rw [← Bool.not_eq_false', ← Text.isEmpty_trim, Text.trim_trim, Text.isEmpty_trim,
        hblank]
      rfl
    exact Bool.and_eq_true_iff.2 ⟨congrArg not hscalar', hblank'⟩
  | _ => exact h

theorem trimmedText_of_isCapability {value : Json} (h : value.isCapability) :
    value.trimmedText = value := by
  cases value with
  | string s =>
    obtain ⟨c, -, hname⟩ := List.any_eq_true.1 h
    obtain rfl := of_decide_eq_true hname
    exact congrArg Json.string (Capability.trim_name c)
  | _ => rfl

end Json

/-! ## Values as they are read -/

namespace Settings

theorem Item.admits_trimmedText {item : Item} {value : Json} (h : item.admits value) :
    item.admits value.trimmedText := by
  cases item with
  | text => exact Json.isText_trimmedText h
  | capability => exact (Json.trimmedText_of_isCapability h).symm ▸ h

/-- A value that is accepted is accepted without the white space around its texts. -/
theorem Kind.Takes.trimmed {kind : Kind} {value : Json} (hkind : kind ≠ .identity)
    (h : kind.Takes value) : kind.Takes value.trimmed := by
  cases kind with
  | single item =>
    rw [Item.trimmed_of_admits h]
    exact Item.admits_trimmedText h
  | optional item =>
    obtain rfl | h := h
    · exact .inl rfl
    · rw [Item.trimmed_of_admits h]
      exact .inr (Item.admits_trimmedText h)
  | list item =>
    obtain ⟨values, rfl, hvalues⟩ := h
    refine ⟨values.map Json.trimmedText, rfl, List.forall_mem_map.2 fun v hv => ?_⟩
    exact Item.admits_trimmedText (hvalues v hv)
  | identity => exact absurd rfl hkind

namespace Field

variable {field : Field}

theorem kind_ne_identity (hfield : field ≠ .schemaIdentity) : field.kind ≠ .identity := by
  cases field with
  | schemaIdentity => exact absurd rfl hfield
  | _ => nofun

/-- Every default passes its own check. -/
theorem takes_default (hfield : field ≠ .schemaIdentity) : field.kind.Takes field.default := by
  rw [← Kind.offenders_eq_nil_iff]
  cases field with
  | schemaIdentity => exact absurd rfl hfield
  | _ => rfl

theorem trimmed_default (field : Field) : field.default.trimmed = field.default := by
  cases field <;> rfl

end Field

section

variable {entries : Entries} {settings : Settings} {field : Field}

/-- What settings have in a field would be accepted there. -/
theorem Holds.takes_value (hholds : Holds entries settings) (hfield : field ≠ .schemaIdentity)
    (htakes : ∀ value, field.key.value? entries = some value → field.kind.Takes value) :
    field.kind.Takes (settings.value field) := by
  rw [hholds.value field hfield]
  cases hvalue : field.key.value? entries with
  | none => exact Field.takes_default hfield
  | some value => exact (htakes value hvalue).trimmed (Field.kind_ne_identity hfield)

/-- What settings have in a field has no white space left around its texts. -/
theorem Holds.trimmed_value (hholds : Holds entries settings) (hfield : field ≠ .schemaIdentity) :
    (settings.value field).trimmed = settings.value field := by
  rw [hholds.value field hfield]
  cases field.key.value? entries with
  | none => exact field.trimmed_default
  | some value => exact value.trimmed_trimmed

end

end Settings

/-! ## Writing -/

/-- A field that is written with others is the only one under its names. -/
theorem FieldKey.value?_map {F : Type} [DecidableEq F] {key : F → FieldKey} (hapart : Apart key)
    {fields : List F} (hnodup : fields.Nodup) {field : F} (hfield : field ∈ fields)
    (spelling : F → Spelling) (value : F → Json) :
    (key field).value? (fields.map fun other => ((key other).name (spelling other), value other)) =
      some (value field) := by
  have hname (other : F) :
      (key field).isName ((key other).name (spelling other)) = decide (other = field) := by
    by_cases h : other = field
    · subst h
      simp [isName_name]
    · simp [h, hapart.isName_name_eq_false (Ne.symm h)]
  have hfilter : fields.filter (fun other => decide (other = field)) = [field] := by
    rw [List.filter_eq, List.count_eq_one_of_mem hnodup hfield]
    rfl
  refine value?_of_standing_eq_singleton ?_
  simp [standing, List.filter_map, Function.comp_def, hname, hfilter]

/-- What an identity is written as, with its fields in some spelling. -/
def SchemaIdentity.entries (identity : SchemaIdentity) (spelling : Field → Spelling) : Entries :=
  Field.all.map fun field => (field.key.name (spelling field), .string (identity.text field))

theorem SchemaIdentity.value?_entries (identity : SchemaIdentity) (spelling : Field → Spelling)
    (field : Field) :
    field.key.value? (identity.entries spelling) = some (.string (identity.text field)) :=
  FieldKey.value?_map Field.apart (by decide) field.mem_all spelling _

namespace Settings

/-- What settings are written as, with their fields and those of their identity in some spelling. -/
def entries (settings : Settings) (spelling : Field → Spelling)
    (inner : SchemaIdentity.Field → Spelling) : Entries :=
  Field.all.map fun field => (field.key.name (spelling field),
    if field = .schemaIdentity then .object (settings.schemaIdentity.entries inner)
    else settings.value field)

theorem value?_entries (settings : Settings) (spelling : Field → Spelling)
    (inner : SchemaIdentity.Field → Spelling) (field : Field) :
    field.key.value? (settings.entries spelling inner) =
      some (if field = .schemaIdentity then .object (settings.schemaIdentity.entries inner)
        else settings.value field) :=
  FieldKey.value?_map Field.apart (by decide) field.mem_all spelling _

/-- **Settings that were read are read back from what they are written as.** -/
theorem validate_entries {data : Json} {settings : Settings} (h : validate data = .ok settings)
    (spelling : Field → Spelling) (inner : SchemaIdentity.Field → Spelling) :
    validate (.object (settings.entries spelling inner)) = .ok settings := by
  obtain ⟨⟨entries, rfl, -, htakes⟩, hholds⟩ := validate_eq_ok_iff.1 h
  have hvalue := settings.value?_entries spelling inner
  have htext := settings.schemaIdentity.value?_entries inner
  -- Each text of the identity is one that was read, and so trimmed already.
  have hidentity (field : SchemaIdentity.Field) :
      (Json.string (settings.schemaIdentity.text field)).isText ∧
        .string (settings.schemaIdentity.text field) =
          (Json.string (settings.schemaIdentity.text field)).trimmedText := by
    obtain ⟨given, hgiven, htexts⟩ := hholds.identity
    obtain ⟨_, hobject, hfields⟩ := htakes .schemaIdentity _ hgiven
    obtain rfl := Json.object.inj hobject
    obtain ⟨v, hv, htrimmed⟩ := htexts field
    obtain ⟨_, hv', hisText⟩ := hfields field
    obtain rfl := Option.some.inj (hv.symm.trans hv')
    rw [htrimmed]
    exact ⟨Json.isText_trimmedText hisText, v.trimmedText_trimmedText.symm⟩
  refine validate_eq_ok_iff.2 ⟨⟨_, rfl, ⟨_, hvalue _⟩, fun field value hv => ?_⟩, ?_, ?_⟩
  · obtain rfl := Option.some.inj ((hvalue field).symm.trans hv)
    split
    · next hfield =>
      subst hfield
      exact ⟨_, rfl, fun field => ⟨_, htext field, (hidentity field).1⟩⟩
    · next hfield => exact hholds.takes_value hfield (htakes field)
  · intro field hfield
    rw [Json.entries, hvalue, if_neg hfield]
    exact (hholds.trimmed_value hfield).symm
  · exact ⟨_, hvalue .schemaIdentity, fun field => ⟨_, htext field, (hidentity field).2⟩⟩

/-- Two objects have the same outcome: the same settings, or the same places at fault, each told by
the keys of its own object. -/
inductive SameOutcome (data data' : Json) :
    Except Failure Settings → Except Failure Settings → Prop
  | read (settings : Settings) : SameOutcome data data' (.ok settings) (.ok settings)
  | refused {places : List Place} : places ≠ [] →
      SameOutcome data data' (.error (.configuration (.invalid (places.map (Place.path data)))))
        (.error (.configuration (.invalid (places.map (Place.path data')))))

/-- Objects that say the same have the same outcome. -/
theorem sameOutcome_of_said {entries entries' : Entries}
    (h : ∀ field : Field, field.said entries = field.said entries') :
    SameOutcome (.object entries) (.object entries') (validate (.object entries))
      (validate (.object entries')) := by
  have hoffenders := offenders_eq_of_said h
  obtain ⟨settings, hok, haccept, hholds⟩ | ⟨herror, hne⟩ := validate_cases (.object entries)
  · have haccept' : IsAcceptable (.object entries') :=
      offenders_eq_nil_iff.1 (hoffenders ▸ offenders_eq_nil_iff.2 haccept)
    rw [hok, validate_eq_ok_iff.2 ⟨haccept', hholds.of_said h⟩]
    exact .read settings
  · obtain ⟨settings, -, haccept', -⟩ | ⟨herror', -⟩ := validate_cases (.object entries')
    · exact absurd (hoffenders ▸ offenders_eq_nil_iff.2 haccept') hne
    · rw [herror, herror', ← hoffenders]
      exact .refused hne

/-- **Reading depends on no spelling, and what it gives is normal.** Edits of an object in which no
field stands twice leave the outcome as it is, and settings are read back from what they are written
as, in whatever spelling. -/
theorem validate_normal :
    (∀ entries entries' : Entries, SpeltOnce entries → Relation.ReflTransGen Edit entries entries' →
      SameOutcome (.object entries) (.object entries') (validate (.object entries))
        (validate (.object entries'))) ∧
    (∀ (data : Json) (settings : Settings), validate data = .ok settings →
      ∀ (spelling : Field → Spelling) (inner : SchemaIdentity.Field → Spelling),
        validate (.object (settings.entries spelling inner)) = .ok settings) :=
  ⟨fun _ _ honce hedits => sameOutcome_of_said (said_eq_of_edits hedits honce).2,
    fun _ _ h => validate_entries h⟩

/-- Settings for a shop. -/
def shop : Entries :=
  [("class_name", .string " Root "),
    ("Schema", .object [("SchemaName", .string "Shop"), ("ConnectionString", .string "file"),
      ("ModuleLocation", .string "shop.py"), ("ContainerNamespace", .string "Store")])]

/-- The same settings in another order and with other names, besides a comment. -/
def shopRespelt : Entries :=
  [("schema_identity", .object [("schema_name", .string "Shop"), ("ConnectionString", .string "file"),
      ("ModuleLocation", .string "shop.py"), ("ContainerNamespace", .string "Store")]),
    ("Comment", .null), ("ClassName", .string " Root ")]

/-- The settings that the shop is read as. -/
def shopSettings : Settings where
  codeNamespace := "GraphQL"
  className := "Root"
  baseTypeName := "QueryBase"
  schemaIdentity := ⟨"Shop", "file", "shop.py", "Store"⟩
  usings := []
  modelNamespace := none
  queryCapabilities := Capability.all
  contextVariablePrefix := "dbContext"
  queryHelperName := "ApplyQueryBehaviors"
  directoryName := "generated"
  fileName := "Query.cs"

theorem speltOnce_shop : SpeltOnce shop where
  outer := fun field => by cases field <;> decide
  inner := by
    intro inner hinner field
    have hshop : Field.schemaIdentity.key.standing shop = [shop[1].2] := rfl
    rw [hshop, List.mem_singleton] at hinner
    obtain rfl := Json.object.inj hinner
    cases field <;> decide

theorem shop_edits : Relation.ReflTransGen Edit shop shopRespelt := by
  refine .head (.outer (.reorder (.swap _ _ []))) ?_
  refine .head (.outer (.respell [_] Field.className .plain .published)) ?_
  refine .head (.outer (.respell [] Field.schemaIdentity .published .plain)) ?_
  refine .head (.inner [] .plain (.respell [] SchemaIdentity.Field.schemaName .published .plain)) ?_
  exact .single (.outer (.add [_] fun field => by cases field <;> decide))

theorem validate_normal_shop :
    SpeltOnce shop ∧ Relation.ReflTransGen Edit shop shopRespelt ∧
      validate (.object shop) = .ok shopSettings ∧
      SameOutcome (.object shop) (.object shopRespelt) (.ok shopSettings) (.ok shopSettings) ∧
      validate (.object (shopSettings.entries (fun _ => .plain) fun _ => .published)) =
        .ok shopSettings :=
  ⟨speltOnce_shop, shop_edits, rfl, validate_normal.1 shop shopRespelt speltOnce_shop shop_edits,
    validate_normal.2 (.object shop) shopSettings rfl _ _⟩

end Settings

end QueryScaffold
