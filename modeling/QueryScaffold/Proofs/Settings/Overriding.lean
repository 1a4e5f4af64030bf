import Mathlib.Data.List.Basic
import QueryScaffold.Proofs.Settings.Spelling
import QueryScaffold.Run.Inputs

/-!
# Overriding settings

Overrides are inserted among the entries of an object by their names, before the two names of a field
are told apart. An override by the published name replaces what the object says of its field. One by
the plain name does so only if the object does not have the field under its published name, which
counts before the plain one.

* `Entries.get?_update`: what stands under a name after inserting;
* `Settings.replaced`: an object with overrides in place of all that it says of their fields;
* `Settings.isMasked`: the names by which an object cannot be overridden;
* `Settings.validate_update`: **overrides replace what an object says, but for masked ones**.
-/

namespace QueryScaffold

/-! ## Looking up -/

namespace Entries

theorem get?_append (t : Text) (before after : Entries) :
    get? t (before ++ after) = (get? t before).or (get? t after) := by
  induction before with
  | nil => rfl
  | cons entry rest ih =>
    obtain ⟨k, v⟩ := entry
    by_cases hk : k = t
    · simp [get?, hk]
    · simpa [get?, hk] using ih

/-- Leaving out entries by their names. -/
theorem get?_filter (t : Text) (p : Text → Bool) (entries : Entries) :
    get? t (entries.filter fun entry => p entry.1) = if p t then get? t entries else none := by
  induction entries with
  | nil => simp [get?]
  | cons entry rest ih =>
    obtain ⟨k, v⟩ := entry
    by_cases hk : k = t
    · subst hk
      cases hp : p k with
      | true => simp [get?, hp]
      | false => simpa [hp] using ih
    · cases hp : p k with
      | true => simpa [get?, hp, hk] using ih
      | false => simpa [get?, hp, hk] using ih

theorem get?_eq_none_iff {t : Text} {entries : Entries} :
    get? t entries = none ↔ ∀ entry ∈ entries, entry.1 ≠ t := by
  induction entries with
  | nil => simp [get?]
  | cons entry rest ih =>
    obtain ⟨k, v⟩ := entry
    by_cases hk : k = t
    · simp [get?, hk]
    · simpa [get?, hk] using ih

/-- A name that is given once has the value it is given, and any other one keeps its value. -/
theorem get?_update {t : Text} {additions : Entries}
    (honce : (additions.filter fun entry => entry.1 = t).length ≤ 1) (entries : Entries) :
    get? t (update entries additions) = (get? t additions).or (get? t entries) := by
  induction additions generalizing entries with
  | nil => rfl
  | cons entry rest ih =>
    obtain ⟨k, v⟩ := entry
    have hstep : update entries ((k, v) :: rest) = update (insert k v entries) rest := rfl
    by_cases hk : k = t
    · subst hk
      have hrest : rest.filter (fun entry => entry.1 = k) = [] := by
        simpa using honce
      have hnone : get? k rest = none := get?_eq_none_iff.2 fun entry hm => by
        simpa using List.filter_eq_nil_iff.1 hrest entry hm
      rw [hstep, ih (by simp [hrest]), hnone, get?_insert_self]
      simp [get?]
    · have hrest : (rest.filter fun entry => entry.1 = t).length ≤ 1 := by
        simpa [hk] using honce
      rw [hstep, ih hrest, get?_insert_of_ne (Ne.symm hk)]
      simp [get?, hk]

end Entries

/-! ## Overriding fields -/

namespace FieldKey

variable {key : FieldKey} {entries : Entries}

/-- A field stands nowhere exactly if neither of its names does. -/
theorem standing_eq_nil_iff : key.standing entries = [] ↔
    entries.get? key.published = none ∧ entries.get? key.plain = none := by
  rw [standing, List.map_eq_nil_iff, List.filter_eq_nil_iff, Entries.get?_eq_none_iff,
    Entries.get?_eq_none_iff]
  simp only [isName, Bool.or_eq_true, decide_eq_true_eq, not_or, imp_and, forall_and]

/-- A name of a field that stands once stands once at most. -/
theorem length_filter_le_of_standing {t : Text} (ht : key.isName t)
    (honce : (key.standing entries).length ≤ 1) :
    (entries.filter fun entry => entry.1 = t).length ≤ 1 := by
  rw [standing, List.length_map] at honce
  refine Nat.le_trans (List.Sublist.length_le ?_) honce
  refine List.monotone_filter_right _ fun entry hentry => ?_
  exact of_decide_eq_true hentry ▸ ht

theorem find?_congr {entries' : Entries}
    (hpublished : entries.get? key.published = entries'.get? key.published)
    (hplain : entries.get? key.published = none →
      entries.get? key.plain = entries'.get? key.plain) :
    key.find? entries = key.find? entries' := by
  unfold find?
  rw [← hpublished]
  cases h : entries.get? key.published with
  | some value => rfl
  | none => rw [hplain h]

end FieldKey

namespace Settings

theorem Field.published_ne_plain (field : Field) : field.key.published ≠ field.key.plain := by
  cases field <;> decide

/-- The name is one of a field that overrides give. -/
def isOverridden (overrides : Entries) (t : Text) : Bool :=
  Field.all.any fun field => field.key.isName t && !(field.key.standing overrides).isEmpty

/-- The name is the plain one of a field that the object has under its published name. -/
def isMasked (entries : Entries) (t : Text) : Bool :=
  Field.all.any fun field => t = field.key.plain && (entries.get? field.key.published).isSome

/-- An object without all that it says of the fields that overrides give, and with the overrides. -/
def replaced (entries overrides : Entries) : Entries :=
  entries.filter (fun entry => !isOverridden overrides entry.1) ++ overrides

section

variable {field : Field} {entries overrides : Entries} {t : Text}

theorem isOverridden_of_isName (ht : field.key.isName t) :
    isOverridden overrides t = !(field.key.standing overrides).isEmpty := by
  rw [Bool.eq_iff_iff, isOverridden, List.any_eq_true]
  constructor
  · rintro ⟨other, -, h⟩
    obtain ⟨hother, hstanding⟩ := Bool.and_eq_true_iff.1 h
    obtain rfl := Field.apart ht hother
    exact hstanding
  · exact fun h => ⟨field, field.mem_all, Bool.and_eq_true_iff.2 ⟨ht, h⟩⟩

theorem isMasked_plain :
    isMasked entries field.key.plain = (entries.get? field.key.published).isSome := by
  rw [Bool.eq_iff_iff, isMasked, List.any_eq_true]
  constructor
  · rintro ⟨other, -, h⟩
    obtain ⟨hother, hsome⟩ := Bool.and_eq_true_iff.1 h
    have hname : other.key.isName field.key.plain := by
      simp [FieldKey.isName, of_decide_eq_true hother]
    obtain rfl := Field.apart (field.key.isName_name .plain) hname
    exact hsome
  · exact fun h => ⟨field, field.mem_all, Bool.and_eq_true_iff.2 ⟨decide_eq_true rfl, h⟩⟩

theorem isMasked_published : isMasked entries field.key.published = false := by
  rw [isMasked, List.any_eq_false]
  intro other _ h
  obtain ⟨hother, -⟩ := Bool.and_eq_true_iff.1 h
  have hother := of_decide_eq_true hother
  have hname : other.key.isName field.key.published := by simp [FieldKey.isName, hother]
  obtain rfl := Field.apart (field.key.isName_name .published) hname
  exact field.published_ne_plain hother

/-- A field is taken from the overrides as a whole or not at all. -/
theorem get?_replaced (ht : field.key.isName t) :
    (replaced entries overrides).get? t =
      if (field.key.standing overrides).isEmpty then entries.get? t else overrides.get? t := by
  rw [replaced, Entries.get?_append, Entries.get?_filter t fun t => !isOverridden overrides t,
    isOverridden_of_isName ht]
  cases hstanding : (field.key.standing overrides).isEmpty with
  | false => simp
  | true =>
    obtain ⟨hpublished, hplain⟩ := FieldKey.standing_eq_nil_iff.1 (List.isEmpty_iff.1 hstanding)
    have hnone : overrides.get? t = none := by
      rcases Bool.or_eq_true_iff.1 ht with h | h
      · rwa [of_decide_eq_true h]
      · rwa [of_decide_eq_true h]
    simp [hnone]

/-- The overrides that an object does not mask. -/
def unmasked (entries overrides : Entries) : Entries :=
  overrides.filter fun entry => !isMasked entries entry.1

theorem get?_unmasked_published :
    (unmasked entries overrides).get? field.key.published =
      overrides.get? field.key.published := by
  rw [unmasked, Entries.get?_filter _ fun t => !isMasked entries t, isMasked_published]
  rfl

theorem get?_unmasked_plain :
    (unmasked entries overrides).get? field.key.plain =
      if (entries.get? field.key.published).isSome then none
      else overrides.get? field.key.plain := by
  rw [unmasked, Entries.get?_filter _ fun t => !isMasked entries t, isMasked_plain]
  cases (entries.get? field.key.published).isSome <;> rfl

/-- Masked overrides leave their field as it is. -/
theorem isEmpty_standing_unmasked :
    (field.key.standing (unmasked entries overrides)).isEmpty =
      ((overrides.get? field.key.published).isNone &&
        ((entries.get? field.key.published).isSome ||
          (overrides.get? field.key.plain).isNone)) := by
  rw [Bool.eq_iff_iff, List.isEmpty_iff, FieldKey.standing_eq_nil_iff, get?_unmasked_published,
    get?_unmasked_plain]
  cases (entries.get? field.key.published).isSome <;> simp

/-- **What an object says of a field after inserting overrides**: what it says with those overrides in
place that it does not mask. -/
theorem find?_update (honce : (field.key.standing overrides).length ≤ 1) :
    field.key.find? (entries.update overrides) =
      field.key.find? (replaced entries (unmasked entries overrides)) := by
  have hpublished : field.key.isName field.key.published := field.key.isName_name .published
  have hplain : field.key.isName field.key.plain := field.key.isName_name .plain
  have hupdate {t : Text} (ht : field.key.isName t) :
      (entries.update overrides).get? t = (overrides.get? t).or (entries.get? t) :=
    Entries.get?_update (FieldKey.length_filter_le_of_standing ht honce) entries
  apply FieldKey.find?_congr
  · rw [hupdate hpublished, get?_replaced hpublished, isEmpty_standing_unmasked,
      get?_unmasked_published]
    cases overrides.get? field.key.published with
    | some value => rfl
    | none =>
      cases entries.get? field.key.published with
      | some value => rfl
      | none => cases overrides.get? field.key.plain <;> rfl
  · intro hnone
    rw [hupdate hpublished, Option.or_eq_none_iff] at hnone
    obtain ⟨hnotGiven, hnotThere⟩ := hnone
    rw [hupdate hplain, get?_replaced hplain, isEmpty_standing_unmasked, get?_unmasked_plain,
      hnotGiven, hnotThere]
    cases overrides.get? field.key.plain <;> rfl

/-- What settings an object says depends on what it says of each field. -/
theorem ofEntries_congr {entries entries' : Entries}
    (h : ∀ field : Field, field.key.find? entries = field.key.find? entries') :
    ofEntries entries = ofEntries entries' := by
  have hnamespace : FieldKey.find? ⟨"Namespace", "namespace"⟩ entries = _ := h .codeNamespace
  have hclass : FieldKey.find? ⟨"ClassName", "class_name"⟩ entries = _ := h .className
  have hbase : FieldKey.find? ⟨"BaseTypeName", "base_type_name"⟩ entries = _ := h .baseTypeName
  have hidentity : FieldKey.find? ⟨"Schema", "schema_identity"⟩ entries = _ := h .schemaIdentity
  have husings : FieldKey.find? ⟨"Usings", "usings"⟩ entries = _ := h .usings
  have hmodel : FieldKey.find? ⟨"ModelNamespace", "model_namespace"⟩ entries = _ :=
    h .modelNamespace
  have hcapabilities : FieldKey.find? ⟨"QueryCapabilities", "query_capabilities"⟩ entries = _ :=
    h .queryCapabilities
  have hprefix : FieldKey.find? ⟨"ContextVariablePrefix", "context_variable_prefix"⟩ entries = _ :=
    h .contextVariablePrefix
  have hhelper : FieldKey.find? ⟨"QueryHelperName", "query_helper_name"⟩ entries = _ :=
    h .queryHelperName
  have hdirectory : FieldKey.find? ⟨"DirectoryName", "directory_name"⟩ entries = _ :=
    h .directoryName
  have hfile : FieldKey.find? ⟨"FileName", "file_name"⟩ entries = _ := h .fileName
  simp only [ofEntries, FieldCheck.withDefault, FieldCheck.required, hnamespace, hclass, hbase,
    hidentity, husings, hmodel, hcapabilities, hprefix, hhelper, hdirectory, hfile]
  rfl

/-- **Overrides replace what an object says, but for masked ones.** -/
theorem validate_update (honce : ∀ field : Field, (field.key.standing overrides).length ≤ 1) :
    validate (.object (entries.update overrides)) =
      validate (.object (replaced entries (unmasked entries overrides))) := by
  have hentries : ofEntries (entries.update overrides) =
      ofEntries (replaced entries (unmasked entries overrides)) :=
    ofEntries_congr fun field => find?_update (honce field)
  simp only [validate, ofJson, hentries]

theorem value?_replaced :
    field.key.value? (replaced entries overrides) =
      if (field.key.standing overrides).isEmpty then field.key.value? entries
      else field.key.value? overrides := by
  have hpublished : field.key.isName field.key.published := field.key.isName_name .published
  have hplain : field.key.isName field.key.plain := field.key.isName_name .plain
  rw [FieldKey.value?, get?_replaced hpublished, get?_replaced hplain]
  cases (field.key.standing overrides).isEmpty <;> rfl

/-- The override of a field stands there alone, unless it is masked. -/
theorem standing_unmasked {override : Text × Json} (hmem : override ∈ overrides)
    (hname : field.key.isName override.1)
    (honce : (field.key.standing overrides).length ≤ 1) :
    field.key.standing (unmasked entries overrides) =
      if isMasked entries override.1 then [] else [override.2] := by
  have hfilter : override ∈ overrides.filter fun entry => field.key.isName entry.1 :=
    List.mem_filter.2 ⟨hmem, hname⟩
  rw [FieldKey.standing, List.length_map] at honce
  obtain ⟨only, honly⟩ := List.length_eq_one_iff.1
    (Nat.le_antisymm honce (List.length_pos_of_mem hfilter))
  rw [honly, List.mem_singleton] at hfilter
  rw [FieldKey.standing, unmasked, List.filter_comm, honly, ← hfilter]
  cases hmasked : isMasked entries override.1 <;> simp [hmasked]

/-- A field has the value that an override gives it, unless the object masks the override. -/
theorem value?_of_not_isMasked {override : Text × Json} (hmem : override ∈ overrides)
    (hname : field.key.isName override.1) (honce : (field.key.standing overrides).length ≤ 1)
    (hmasked : isMasked entries override.1 = false) :
    field.key.value? (replaced entries (unmasked entries overrides)) = some override.2 := by
  have hstanding : field.key.standing (unmasked entries overrides) = [override.2] := by
    rw [standing_unmasked hmem hname honce, hmasked]
    rfl
  rw [value?_replaced, hstanding]
  exact FieldKey.value?_of_standing_eq_singleton hstanding

/-- A field keeps the value under its published name if this masks the override. -/
theorem value?_of_isMasked {override : Text × Json} (hmem : override ∈ overrides)
    (hname : field.key.isName override.1) (honce : (field.key.standing overrides).length ≤ 1)
    (hmasked : isMasked entries override.1 = true) {value : Json}
    (hvalue : entries.get? field.key.published = some value) :
    field.key.value? (replaced entries (unmasked entries overrides)) = some value := by
  have hstanding : field.key.standing (unmasked entries overrides) = [] := by
    rw [standing_unmasked hmem hname honce, hmasked]
    rfl
  rw [value?_replaced, hstanding, FieldKey.value?, hvalue]
  rfl

/-- The settings have a value in a field, without the white space around its texts. -/
inductive Shows (settings : Settings) : Field → Json → Prop
  | value {field : Field} {value : Json} : field ≠ .schemaIdentity →
      settings.value field = value.trimmed → Shows settings field value
  | identity {inner : Entries} : (∀ field : SchemaIdentity.Field, ∃ v,
      field.key.value? inner = some v ∧
        .string (settings.schemaIdentity.text field) = v.trimmedText) →
      Shows settings .schemaIdentity (.object inner)

theorem Holds.shows {settings : Settings} (hholds : Holds entries settings) {value : Json}
    (hvalue : field.key.value? entries = some value) : settings.Shows field value := by
  by_cases hfield : field = .schemaIdentity
  · subst hfield
    obtain ⟨inner, hinner, htexts⟩ := hholds.identity
    obtain rfl := Option.some.inj (hinner.symm.trans hvalue)
    exact .identity htexts
  · refine .value hfield ?_
    rw [hholds.value field hfield, hvalue]
    rfl

end

end Settings

end QueryScaffold
