import Mathlib.Logic.Relation
import QueryScaffold.Proofs.Settings.Offenders

/-!
# Spellings of fields

A field stands in an object under either of its names, and nothing that is asked of settings depends
on which, on the order of the entries or on entries of no field.

* `Entries.Edit`, `Settings.Edit`: one change of an object that should not matter;
* `Settings.SpeltOnce`: no field stands in an object twice;
* `Settings.Field.said`: what an object says of a field, with no names in it;
* `Settings.Edit.said_eq`, `Settings.said_eq_of_edits`: **edits leave what is said as it is**, one by
  one and in any number;
* `Settings.offenders_eq_of_said`, `Settings.Holds.of_said`: faults and settings depend on what is
  said alone.
-/

namespace QueryScaffold

/-- Which of its two names a field stands under. -/
inductive Spelling
  | published
  | plain

namespace FieldKey

/-- The name of the field in a spelling. -/
def name (key : FieldKey) : Spelling → Text
  | .published => key.published
  | .plain => key.plain

/-- The text is a name of the field. -/
def isName (key : FieldKey) (t : Text) : Bool :=
  t = key.published || t = key.plain

theorem isName_name (key : FieldKey) (spelling : Spelling) : key.isName (key.name spelling) := by
  cases spelling <;> simp [isName, name]

/-- The values that stand under a name of the field. -/
def standing (key : FieldKey) (entries : Entries) : List Json :=
  (entries.filter fun entry => key.isName entry.1).map Prod.snd

variable {key : FieldKey}

@[simp]
theorem standing_cons_of_isName {t : Text} (h : key.isName t) (value : Json) (entries : Entries) :
    key.standing ((t, value) :: entries) = value :: key.standing entries := by
  simp [standing, h]

@[simp]
theorem standing_cons_of_not_isName {t : Text} (h : key.isName t = false) (value : Json)
    (entries : Entries) : key.standing ((t, value) :: entries) = key.standing entries := by
  simp [standing, h]

@[simp]
theorem standing_append (before after : Entries) :
    key.standing (before ++ after) = key.standing before ++ key.standing after := by
  simp [standing]

theorem value?_of_standing_eq_nil {entries : Entries} (h : key.standing entries = []) :
    key.value? entries = none := by
  induction entries with
  | nil => rfl
  | cons entry rest ih =>
    obtain ⟨t, value⟩ := entry
    cases ht : key.isName t with
    | true => simp [ht] at h
    | false =>
      have hne : t ≠ key.published ∧ t ≠ key.plain := by simpa [isName] using ht
      rw [standing_cons_of_not_isName ht] at h
      simpa [value?, Entries.get?, hne] using ih h

/-- A field that stands in an object once has the value that stands there. -/
theorem value?_of_standing_eq_singleton {entries : Entries} {value : Json}
    (h : key.standing entries = [value]) : key.value? entries = some value := by
  induction entries with
  | nil => cases h
  | cons entry rest ih =>
    obtain ⟨t, other⟩ := entry
    cases ht : key.isName t with
    | true =>
      rw [standing_cons_of_isName ht] at h
      obtain ⟨rfl, hrest⟩ := List.cons.inj h
      have hnone := Option.or_eq_none_iff.1 (value?_of_standing_eq_nil hrest)
      by_cases hpublished : t = key.published
      · simp [value?, Entries.get?, hpublished]
      · have hplain : t = key.plain := by simpa [isName, hpublished] using ht
        have hne : key.plain ≠ key.published := hplain ▸ hpublished
        simp [value?, Entries.get?, hplain, hne, hnone.1]
    | false =>
      have hne : t ≠ key.published ∧ t ≠ key.plain := by simpa [isName] using ht
      rw [standing_cons_of_not_isName ht] at h
      simpa [value?, Entries.get?, hne] using ih h

/-- The only entry under a name of a field has its value. -/
theorem value?_append_cons {before after : Entries} {t : Text} {value : Json} (hname : key.isName t)
    (honce : (key.standing (before ++ (t, value) :: after)).length ≤ 1) :
    key.value? (before ++ (t, value) :: after) = some value := by
  rw [standing_append, standing_cons_of_isName hname, List.length_append, List.length_cons] at honce
  have hbefore : key.standing before = [] := List.length_eq_zero_iff.1 (by omega)
  have hafter : key.standing after = [] := List.length_eq_zero_iff.1 (by omega)
  refine value?_of_standing_eq_singleton ?_
  rw [standing_append, standing_cons_of_isName hname, hbefore, hafter, List.nil_append]

/-- What a field has that stands in an object at most once does not depend on the order. -/
theorem value?_eq_of_standing_perm {entries entries' : Entries}
    (honce : (key.standing entries).length ≤ 1)
    (hperm : (key.standing entries).Perm (key.standing entries')) :
    key.value? entries = key.value? entries' := by
  match h : key.standing entries with
  | [] =>
    rw [h, List.nil_perm] at hperm
    rw [value?_of_standing_eq_nil h, value?_of_standing_eq_nil hperm]
  | [value] =>
    rw [h, List.singleton_perm] at hperm
    rw [value?_of_standing_eq_singleton h, value?_of_standing_eq_singleton hperm.symm]
  | _ :: _ :: _ => simp [h] at honce

end FieldKey

/-! ## Edits -/

section

variable {F : Type} {key : F → FieldKey}

/-- One change of an object with fields of these names: its entries come in another order, a field
stands under its other name, or an entry of no field is added or removed. -/
inductive Entries.Edit (key : F → FieldKey) : Entries → Entries → Prop
  | reorder {entries entries' : Entries} : entries.Perm entries' → Edit key entries entries'
  | respell (before : Entries) {after : Entries} {value : Json} (field : F)
      (spelling spelling' : Spelling) :
      Edit key (before ++ ((key field).name spelling, value) :: after)
        (before ++ ((key field).name spelling', value) :: after)
  | add (before : Entries) {after : Entries} {t : Text} {value : Json} :
      (∀ field, (key field).isName t = false) →
      Edit key (before ++ after) (before ++ (t, value) :: after)
  | remove (before : Entries) {after : Entries} {t : Text} {value : Json} :
      (∀ field, (key field).isName t = false) →
      Edit key (before ++ (t, value) :: after) (before ++ after)

/-- No text is a name of two fields. -/
def FieldKey.Apart (key : F → FieldKey) : Prop :=
  ∀ ⦃field other t⦄, (key field).isName t → (key other).isName t → field = other

theorem FieldKey.apart_of_names {all : List F} (hall : ∀ field, field ∈ all)
    (h : ∀ field ∈ all, ∀ other ∈ all, ∀ spelling ∈ [Spelling.published, .plain],
      (key other).isName ((key field).name spelling) → field = other) : Apart key := by
  intro field other t hfield hother
  rw [isName, Bool.or_eq_true, decide_eq_true_iff, decide_eq_true_iff] at hfield
  obtain rfl | rfl := hfield
  · exact h field (hall _) other (hall _) .published (by simp) hother
  · exact h field (hall _) other (hall _) .plain (by simp) hother

/-- The name of a field is not one of any other. -/
theorem FieldKey.Apart.isName_name_eq_false (hapart : Apart key) {field other : F}
    (hne : field ≠ other) (spelling : Spelling) :
    (key field).isName ((key other).name spelling) = false :=
  eq_false_of_ne_true fun h => hne (hapart h ((key other).isName_name spelling))

/-- An edit keeps what stands there for each field. -/
theorem Entries.Edit.standing_perm (hapart : FieldKey.Apart key) {entries entries' : Entries}
    (h : Edit key entries entries') (field : F) :
    ((key field).standing entries).Perm ((key field).standing entries') := by
  cases h with
  | reorder hperm => exact (hperm.filter _).map _
  | respell before other spelling spelling' =>
    by_cases hfield : field = other
    · subst hfield
      simp [FieldKey.isName_name]
    · simp [hapart.isName_name_eq_false hfield]
  | add before hname => simp [hname field]
  | remove before hname => simp [hname field]

end

theorem SchemaIdentity.Field.apart : FieldKey.Apart SchemaIdentity.Field.key :=
  FieldKey.apart_of_names mem_all (by decide)

namespace Settings

theorem Field.apart : FieldKey.Apart Field.key :=
  FieldKey.apart_of_names mem_all (by decide)

/-- One change of settings that should not matter: an edit of their own entries or of those of the
identity in them. -/
inductive Edit : Entries → Entries → Prop
  | outer {entries entries' : Entries} : Entries.Edit Field.key entries entries' →
      Edit entries entries'
  | inner (before : Entries) {after inner inner' : Entries} (spelling : Spelling) :
      Entries.Edit SchemaIdentity.Field.key inner inner' →
      Edit (before ++ (Field.schemaIdentity.key.name spelling, .object inner) :: after)
        (before ++ (Field.schemaIdentity.key.name spelling, .object inner') :: after)

/-- No field stands there twice, neither in settings nor in their identity. -/
structure SpeltOnce (entries : Entries) : Prop where
  outer : ∀ field : Field, (field.key.standing entries).length ≤ 1
  inner : ∀ inner, .object inner ∈ Field.schemaIdentity.key.standing entries →
    ∀ field : SchemaIdentity.Field, (field.key.standing inner).length ≤ 1

/-! ## What is said -/

/-- What the value of a field says. -/
inductive Said
  | value (value : Json)
  /-- What an identity has in each field. -/
  | identity (value? : SchemaIdentity.Field → Option Json)

/-- What a value says that is to be of a kind. -/
def Kind.said : Kind → Json → Said
  | .identity, .object entries => .identity fun field => field.key.value? entries
  | _, value => .value value

/-- What an object says of a field. -/
def Field.said (field : Field) (entries : Entries) : Option Said :=
  (field.key.value? entries).map field.kind.said

variable {entries entries' : Entries}

/-- An object in which no field stands twice stays one. -/
theorem Edit.speltOnce (h : Edit entries entries') (honce : SpeltOnce entries) :
    SpeltOnce entries' := by
  cases h with
  | outer hedit =>
    have hperm := hedit.standing_perm Field.apart
    refine ⟨fun field => (hperm field).length_eq ▸ honce.outer field, fun inner hinner => ?_⟩
    exact honce.inner inner ((hperm .schemaIdentity).mem_iff.2 hinner)
  | @inner before after inner inner' spelling hedit =>
    have hname := Field.schemaIdentity.key.isName_name spelling
    refine ⟨fun field => ?_, fun other hother field => ?_⟩
    · have hlength := honce.outer field
      by_cases hfield : field = .schemaIdentity
      · subst hfield
        simpa [hname] using hlength
      · simpa [Field.apart.isName_name_eq_false hfield] using hlength
    · have hstanding := honce.inner
      simp only [FieldKey.standing_append, FieldKey.standing_cons_of_isName hname, List.mem_append,
        List.mem_cons] at hstanding hother
      obtain hbefore | hself | hafter := hother
      · exact hstanding other (.inl hbefore) field
      · obtain rfl := Json.object.inj hself
        rw [← (hedit.standing_perm SchemaIdentity.Field.apart field).length_eq]
        exact hstanding inner (.inr (.inl rfl)) field
      · exact hstanding other (.inr (.inr hafter)) field

/-- **An edit leaves what is said of each field as it is.** -/
theorem Edit.said_eq (h : Edit entries entries') (honce : SpeltOnce entries) (field : Field) :
    field.said entries = field.said entries' := by
  have honce' := h.speltOnce honce
  cases h with
  | outer hedit =>
    rw [Field.said, FieldKey.value?_eq_of_standing_perm (honce.outer field)
      (hedit.standing_perm Field.apart field), Field.said]
  | @inner before after inner inner' spelling hedit =>
    by_cases hfield : field = .schemaIdentity
    · subst hfield
      have hname := Field.schemaIdentity.key.isName_name spelling
      have hinner (field : SchemaIdentity.Field) :
          field.key.value? inner = field.key.value? inner' :=
        FieldKey.value?_eq_of_standing_perm (honce.inner inner (by simp [hname]) field)
          (hedit.standing_perm SchemaIdentity.Field.apart field)
      rw [Field.said, Field.said, FieldKey.value?_append_cons hname (honce.outer _),
        FieldKey.value?_append_cons hname (honce'.outer _)]
      exact congrArg (fun value? => some (Said.identity value?)) (funext hinner)
    · have hname := Field.apart.isName_name_eq_false hfield spelling
      have hstanding : field.key.standing
          (before ++ (Field.schemaIdentity.key.name spelling, .object inner) :: after) =
            field.key.standing
              (before ++ (Field.schemaIdentity.key.name spelling, .object inner') :: after) := by
        simp [hname]
      rw [Field.said, FieldKey.value?_eq_of_standing_perm (honce.outer field) (.of_eq hstanding),
        Field.said]

/-- **Any number of edits leave what is said of each field as it is.** -/
theorem said_eq_of_edits (h : Relation.ReflTransGen Edit entries entries')
    (honce : SpeltOnce entries) :
    SpeltOnce entries' ∧ ∀ field : Field, field.said entries = field.said entries' := by
  induction h with
  | refl => exact ⟨honce, fun _ => rfl⟩
  | tail _ hedit ih =>
    obtain ⟨honce', hsaid⟩ := ih
    exact ⟨hedit.speltOnce honce', fun field => (hsaid field).trans (hedit.said_eq honce' field)⟩

/-! ## What depends on it -/

theorem Kind.offenders_eq_of_said {kind : Kind} {value value' : Json}
    (h : kind.said value = kind.said value') : kind.offenders value = kind.offenders value' := by
  cases kind with
  | identity =>
    cases value with
    | object entries =>
      cases value' with
      | object entries' =>
        have hvalue := congrFun (Said.identity.inj h)
        simp only [offenders, hvalue]
      | _ => cases h
    | _ =>
      cases value' with
      | object entries' => cases h
      | _ => rfl
  | _ => rw [Said.value.inj h]

theorem Field.offenders_eq_of_said {field : Field} (h : field.said entries = field.said entries') :
    field.offenders entries = field.offenders entries' := by
  unfold said at h
  unfold offenders
  cases hvalue : field.key.value? entries with
  | none =>
    rw [hvalue, Option.map_none, eq_comm, Option.map_eq_none_iff] at h
    rw [h]
  | some value =>
    rw [hvalue, Option.map_some, eq_comm, Option.map_eq_some_iff] at h
    obtain ⟨value', hvalue', hsaid⟩ := h
    rw [hvalue']
    exact Kind.offenders_eq_of_said hsaid.symm

/-- **What is at fault depends on what is said alone.** -/
theorem offenders_eq_of_said (h : ∀ field : Field, field.said entries = field.said entries') :
    offenders (.object entries) = offenders (.object entries') := by
  simp only [offenders, fun field => Field.offenders_eq_of_said (h field)]

/-- All is said of a field that is not the identity. -/
theorem Field.value?_eq_of_said {field : Field} (hfield : field ≠ .schemaIdentity)
    (h : field.said entries = field.said entries') :
    field.key.value? entries = field.key.value? entries' := by
  have hsaid : field.kind.said = Said.value := by
    cases field with
    | schemaIdentity => exact absurd rfl hfield
    | _ => rfl
  unfold said at h
  rw [hsaid] at h
  exact Option.map_injective (fun _ _ => Said.value.inj) h

theorem exists_identity_of_said {inner : Entries}
    (h : Field.schemaIdentity.said entries = Field.schemaIdentity.said entries')
    (hvalue : Field.schemaIdentity.key.value? entries = some (.object inner)) :
    ∃ inner', Field.schemaIdentity.key.value? entries' = some (.object inner') ∧
      ∀ field : SchemaIdentity.Field, field.key.value? inner = field.key.value? inner' := by
  rw [Field.said, hvalue, Option.map_some, eq_comm, Field.said, Option.map_eq_some_iff] at h
  obtain ⟨value', hvalue', hsaid⟩ := h
  cases value' with
  | object inner' => exact ⟨inner', hvalue', congrFun (Said.identity.inj hsaid.symm)⟩
  | _ => cases hsaid

/-- **Which settings are held depends on what is said alone.** -/
theorem Holds.of_said {settings : Settings} (hholds : Holds entries settings)
    (h : ∀ field : Field, field.said entries = field.said entries') : Holds entries' settings where
  value := by
    intro field hfield
    rw [hholds.value field hfield, Field.value?_eq_of_said hfield (h field)]
  identity := by
    obtain ⟨inner, hvalue, htexts⟩ := hholds.identity
    obtain ⟨inner', hvalue', hinner⟩ := exists_identity_of_said (h .schemaIdentity) hvalue
    exact ⟨inner', hvalue', fun field => hinner field ▸ htexts field⟩

end Settings

end QueryScaffold
