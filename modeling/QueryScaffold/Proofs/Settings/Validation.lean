import QueryScaffold.Settings.Validation

/-!
# What accepted settings hold

Settings are accepted field by field. Read backwards, every field of accepted settings is what its
own check has made of the entries, so a field that has to hold some text holds one that is not
empty.

* `Checked.seq_eq_accepted_iff`, `Checked.map_eq_accepted_iff`: a check of several parts accepts
  exactly if each part does;
* `FieldCheck.ne_nil_of_withDefault`: a text field is not empty, given or by default;
* `Settings.fields_of_ofEntries`: each field is what its own check has accepted;
* `Settings.contextVariablePrefix_ne_nil`: the stem of context variables is not empty.
-/

namespace QueryScaffold

namespace Checked

variable {α β : Type}

theorem map_eq_accepted_iff {f : α → β} {a : Checked α} {b : β} :
    f <$> a = .accepted b ↔ ∃ value, a = .accepted value ∧ f value = b := by
  show map f a = .accepted b ↔ _
  cases a with
  | accepted value => simp [map]
  | rejected offenders => simp [map]

theorem seq_eq_accepted_iff {f : Checked (α → β)} {a : Checked α} {b : β} :
    f <*> a = .accepted b ↔ ∃ g value, f = .accepted g ∧ a = .accepted value ∧ g value = b := by
  show both f a = .accepted b ↔ _
  cases f <;> cases a <;> simp [both]

end Checked

namespace FieldCheck

theorem ne_nil_of_nonBlank {path : FieldPath} {value : Json} {t : Text}
    (h : nonBlank path value = .accepted t) : t ≠ [] := by
  rintro rfl
  unfold nonBlank at h
  cases value with
  | string s =>
    simp only at h
    split at h
    · cases h
    · next hs =>
      have ht := Checked.accepted.inj h
      simp [ht] at hs
  | _ => cases h

/-- **A text field is not empty**, whether it is given or takes its default. -/
theorem ne_nil_of_withDefault {key : FieldKey} {value t : Text} {entries : Entries}
    (hv : value ≠ []) (h : nonBlank.withDefault key value entries = .accepted t) : t ≠ [] := by
  unfold withDefault at h
  split at h
  · exact ne_nil_of_nonBlank h
  · rw [← Checked.accepted.inj h]
    exact hv

end FieldCheck

namespace Settings

theorem exists_entries_of_ofJson {data : Json} {settings : Settings}
    (h : ofJson data = .accepted settings) :
    ∃ entries, data = .object entries ∧ ofEntries entries = .accepted settings := by
  cases data with
  | object entries => exact ⟨entries, rfl, h⟩
  | _ => cases h

/-- Each field of accepted settings is what its own check has accepted. -/
theorem fields_of_ofEntries {entries : Entries} {settings : Settings}
    (h : ofEntries entries = .accepted settings) :
    FieldCheck.nonBlank.withDefault ⟨"Namespace", "namespace"⟩ "GraphQL" entries =
      .accepted settings.codeNamespace ∧
    FieldCheck.nonBlank.withDefault ⟨"ClassName", "class_name"⟩ "Query" entries =
      .accepted settings.className ∧
    FieldCheck.nonBlank.withDefault ⟨"BaseTypeName", "base_type_name"⟩ "QueryBase" entries =
      .accepted settings.baseTypeName ∧
    SchemaIdentity.check.required ⟨"Schema", "schema_identity"⟩ [] entries =
      .accepted settings.schemaIdentity ∧
    FieldCheck.nonBlank.listOf.withDefault ⟨"Usings", "usings"⟩ [] entries =
      .accepted settings.usings ∧
    FieldCheck.nonBlank.nullable.withDefault ⟨"ModelNamespace", "model_namespace"⟩ none entries =
      .accepted settings.modelNamespace ∧
    FieldCheck.capability.listOf.withDefault ⟨"QueryCapabilities", "query_capabilities"⟩
      Capability.all entries = .accepted settings.queryCapabilities ∧
    FieldCheck.nonBlank.withDefault ⟨"ContextVariablePrefix", "context_variable_prefix"⟩
      "dbContext" entries = .accepted settings.contextVariablePrefix ∧
    FieldCheck.nonBlank.withDefault ⟨"QueryHelperName", "query_helper_name"⟩
      "ApplyQueryBehaviors" entries = .accepted settings.queryHelperName ∧
    FieldCheck.nonBlank.withDefault ⟨"DirectoryName", "directory_name"⟩ "generated" entries =
      .accepted settings.directoryName ∧
    FieldCheck.nonBlank.withDefault ⟨"FileName", "file_name"⟩ "Query.cs" entries =
      .accepted settings.fileName := by
  simp only [ofEntries, Checked.seq_eq_accepted_iff, Checked.map_eq_accepted_iff] at h
  -- The last field comes off first.
  obtain ⟨_, _, ⟨_, _, ⟨_, _, ⟨_, _, ⟨_, _, ⟨_, _, ⟨_, _, ⟨_, _, ⟨_, _, ⟨_, _, ⟨_, hfirst, rfl⟩,
    hsecond, rfl⟩, hthird, rfl⟩, hfourth, rfl⟩, hfifth, rfl⟩, hsixth, rfl⟩, hseventh, rfl⟩,
    heighth, rfl⟩, hninth, rfl⟩, htenth, rfl⟩, heleventh, rfl⟩ := h
  exact ⟨hfirst, hsecond, hthird, hfourth, hfifth, hsixth, hseventh, heighth, hninth, htenth,
    heleventh⟩

/-- The stem of context variables in accepted settings is not empty. -/
theorem contextVariablePrefix_ne_nil {data : Json} {settings : Settings}
    (h : ofJson data = .accepted settings) : settings.contextVariablePrefix ≠ [] := by
  obtain ⟨entries, -, h⟩ := exists_entries_of_ofJson h
  obtain ⟨-, -, -, -, -, -, -, hstem, -⟩ := fields_of_ofEntries h
  exact FieldCheck.ne_nil_of_withDefault (by decide) hstem

end Settings

end QueryScaffold
