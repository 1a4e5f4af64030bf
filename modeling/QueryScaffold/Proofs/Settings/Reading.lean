import QueryScaffold.Proofs.Settings.Offenders
import QueryScaffold.Proofs.Settings.Validation
import QueryScaffold.Proofs.Text.Trimming
import QueryScaffold.Run.Inputs

/-!
# Reading settings

Settings are put together by checks, one for each field. Each check is held against what its field is
to hold: it gives a value exactly if nothing is at fault, and else all that is at fault. Checks that
are put together keep this, so that the settings as a whole do.

* `Checked.Gives`: a check gives a value with a property, or these places and no others;
* `FieldCheck.Obeys`: a check is right for a kind of value;
* `SchemaIdentity.gives_ofEntries`, `Settings.gives_ofEntries`: objects are read as they should be;
* `Settings.validate_eq_ok_iff`: what is read as given settings;
* `Settings.Outcome`, `Settings.outcome_validate`: **any value is either read as what it says or
  refused with all its faults**.
-/

namespace QueryScaffold

namespace Checked

variable {α β : Type} {P : α → Prop} {Q : β → Prop} {places more : List FieldPath}

/-- The check has these offenders. It gives a value if there are none, and this has the property. -/
structure Gives (P : α → Prop) (places : List FieldPath) (c : Checked α) : Prop where
  offenders : c.offenders = places
  grounded : c ≠ .rejected []
  accepted : ∀ a, c = .accepted a → P a

theorem gives_accepted {a : α} (h : P a) : (accepted a).Gives P [] where
  offenders := rfl
  grounded := nofun
  accepted := by
    rintro _ ⟨⟩
    exact h

theorem gives_rejected (h : places ≠ []) : (rejected places).Gives P places where
  offenders := rfl
  grounded := fun heq => h (Checked.rejected.inj heq)
  accepted := nofun

theorem offenders_seq (f : Checked (α → β)) (a : Checked α) :
    (f <*> a).offenders = f.offenders ++ a.offenders := offenders_both f a

theorem offenders_fmap (f : α → β) (a : Checked α) : (f <$> a).offenders = a.offenders :=
  offenders_map f a

theorem grounded_fmap {f : α → β} {a : Checked α} (h : a ≠ .rejected []) :
    f <$> a ≠ .rejected [] := by
  cases a with
  | accepted value => nofun
  | rejected places => exact fun heq => h (by cases heq; rfl)

theorem grounded_seq {f : Checked (α → β)} {a : Checked α} (hf : f ≠ .rejected [])
    (ha : a ≠ .rejected []) : f <*> a ≠ .rejected [] := by
  show both f a ≠ _
  cases f <;> cases a <;> simp_all [both]

theorem Gives.imp {P' : α → Prop} {c : Checked α} (h : c.Gives P places)
    (himp : ∀ a, P a → P' a) : c.Gives P' places where
  offenders := h.offenders
  grounded := h.grounded
  accepted := fun a ha => himp a (h.accepted a ha)

theorem Gives.map {f : α → β} {c : Checked α} (h : c.Gives P places) (hf : ∀ a, P a → Q (f a)) :
    (c.map f).Gives Q places where
  offenders := (offenders_map f c).trans h.offenders
  grounded := grounded_fmap h.grounded
  accepted := by
    intro b hb
    obtain ⟨a, ha, rfl⟩ := map_eq_accepted_iff.1 hb
    exact hf a (h.accepted a ha)

theorem Gives.both {R : (α → β) → Prop} {f : Checked (α → β)} {c : Checked α}
    (hf : f.Gives R places) (hc : c.Gives P more) (h : ∀ g a, R g → P a → Q (g a)) :
    (f.both c).Gives Q (places ++ more) where
  offenders := by rw [offenders_both, hf.offenders, hc.offenders]
  grounded := grounded_seq hf.grounded hc.grounded
  accepted := by
    intro b hb
    obtain ⟨g, a, hg, ha, rfl⟩ := seq_eq_accepted_iff.1 hb
    exact h g a (hf.accepted g hg) (hc.accepted a ha)

/-- A check gives a value or refuses. -/
theorem Gives.cases {c : Checked α} (h : c.Gives P places) :
    (∃ a, c = .accepted a ∧ places = [] ∧ P a) ∨ (c = .rejected places ∧ places ≠ []) := by
  obtain ⟨rfl, hgrounded, haccepted⟩ := h
  cases c with
  | accepted a => exact .inl ⟨a, rfl, rfl, haccepted a rfl⟩
  | rejected places => exact .inr ⟨rfl, fun heq => hgrounded (congrArg _ heq)⟩

end Checked

namespace FieldCheck

open Settings

variable {α : Type}

/-- The check is right for single values of a kind, which it trims. -/
def Admits (check : FieldCheck α) (item : Item) (write : α → Json) : Prop :=
  ∀ path value, (check path value).Gives (fun a => write a = value.trimmedText)
    (if item.admits value then [] else [path])

/-- The check is right for values of a kind, whose texts it trims. -/
def Obeys (check : FieldCheck α) (kind : Kind) (write : α → Json) : Prop :=
  ∀ path value, (check path value).Gives (fun a => write a = value.trimmed)
    ((kind.offenders value).map fun part => path ++ part.path value)

theorem admits_nonBlank : nonBlank.Admits .text Json.string := by
  intro path value
  cases value with
  | string s =>
    have hadmits : Item.text.admits (.string s) =
        !(s.hasSurrogate || (s.trim CodePoint.isWhiteSpace).isEmpty) := by
      rw [Text.isEmpty_trim, Bool.not_or, Bool.not_not]
      rfl
    rw [hadmits, nonBlank]
    cases s.hasSurrogate || (s.trim CodePoint.isWhiteSpace).isEmpty with
    | true => exact Checked.gives_rejected (List.cons_ne_nil _ _)
    | false => exact Checked.gives_accepted rfl
  | _ => exact Checked.gives_rejected (List.cons_ne_nil _ _)

theorem admits_capability :
    capability.Admits .capability fun capability => Json.string capability.name := by
  intro path value
  cases value with
  | string s =>
    cases hname : Capability.ofName? s with
    | some c =>
      have hs : c.name = s := by simpa using List.find?_some hname
      have hadmits : Item.capability.admits (.string s) = true :=
        List.any_eq_true.2 ⟨c, List.mem_of_find?_eq_some hname, by simpa using hs⟩
      rw [hadmits, capability, hname]
      refine Checked.gives_accepted ?_
      rw [← hs, Json.trimmedText, Capability.trim_name]
    | none =>
      have hadmits : Item.capability.admits (.string s) = false :=
        List.any_eq_false.2 (List.find?_eq_none.1 hname)
      rw [hadmits, capability, hname]
      exact Checked.gives_rejected (List.cons_ne_nil _ _)
  | _ => exact Checked.gives_rejected (List.cons_ne_nil _ _)

/-- A value that is refused as a whole. -/
theorem gives_itself {P : α → Prop} (path : FieldPath) (value : Json) :
    (Checked.rejected [path]).Gives P
      ([Part.itself].map fun part => path ++ part.path value) := by
  simpa [Part.path] using Checked.gives_rejected (List.cons_ne_nil path [])

variable {check : FieldCheck α} {item : Item} {write : α → Json}

theorem Admits.single (h : check.Admits item write) : check.Obeys (.single item) write := by
  intro path value
  have hgives := h path value
  rw [Kind.offenders]
  cases hadmits : item.admits value with
  | true =>
    rw [hadmits, if_pos rfl] at hgives
    rw [Item.trimmed_of_admits hadmits]
    exact hgives
  | false =>
    rw [hadmits] at hgives
    obtain ⟨_, _, hnil, _⟩ | ⟨hrejected, hne⟩ := hgives.cases
    · cases hnil
    · rw [hrejected]
      exact gives_itself path value

theorem Admits.nullable (h : check.Admits item write) :
    check.nullable.Obeys (.optional item) (Option.elim · .null write) := by
  intro path value
  cases value with
  | null => exact Checked.gives_accepted rfl
  | _ => exact (h.single path _).map fun a ha => ha

theorem Admits.items (h : check.Admits item write) (path : FieldPath) (index : Nat)
    (values : List Json) :
    (items check path index values).Gives
      (fun as => as.map write = values.map Json.trimmedText)
      (((values.zipIdx index).filter fun entry => !item.admits entry.1).map
        fun entry => path ++ [Text.ofNat entry.2]) := by
  induction values generalizing index with
  | nil => exact Checked.gives_accepted rfl
  | cons value rest ih =>
    have hfirst : ((check (path ++ [Text.ofNat index]) value).map List.cons).Gives
        (fun f => ∃ a, write a = value.trimmedText ∧ f = List.cons a)
        (if item.admits value then [] else [path ++ [Text.ofNat index]]) :=
      (h _ value).map fun a ha => ⟨a, ha, rfl⟩
    have hboth := hfirst.both (Q := fun as => as.map write = (value :: rest).map Json.trimmedText)
      (ih (index + 1)) (by
        rintro _ as ⟨a, ha, rfl⟩ has
        rw [List.map_cons, List.map_cons, ha, has])
    rw [List.zipIdx_cons, List.filter_cons]
    cases hadmits : item.admits value with
    | true => simpa [hadmits, FieldCheck.items] using hboth
    | false => simpa [hadmits, FieldCheck.items] using hboth

theorem Admits.listOf (h : check.Admits item write) :
    check.listOf.Obeys (.list item) fun as => .array (as.map write) := by
  intro path value
  cases value with
  | array values =>
    rw [Kind.offenders, List.map_map]
    exact (h.items path 0 values).imp fun as has => congrArg Json.array has
  | _ => exact gives_itself path _

end FieldCheck

/-! ## Fields -/

namespace FieldCheck

open Settings

variable {α : Type} {check : FieldCheck α}

/-- A text that has to be there. -/
theorem gives_required_nonBlank (key : FieldKey) (path : FieldPath) (entries : Entries) :
    (nonBlank.required key path entries).Gives
      (fun t => ∃ value, key.value? entries = some value ∧ Json.string t = value.trimmedText)
      (if (key.value? entries).any Json.isText then [] else [path ++ [key.used entries]]) := by
  rw [required, key.find?_eq]
  cases hvalue : key.value? entries with
  | none =>
    rw [FieldKey.used_of_value?_eq_none hvalue]
    exact Checked.gives_rejected (List.cons_ne_nil _ _)
  | some value =>
    exact (admits_nonBlank _ value).imp fun t ht => ⟨value, rfl, ht⟩

/-- A field that takes a default. -/
theorem gives_withDefault {write : α → Json} (field : Field) (hfield : field ≠ .schemaIdentity)
    (h : check.Obeys field.kind write) (d : α) (hdefault : write d = field.default)
    (entries : Entries) :
    (check.withDefault field.key d entries).Gives
      (fun a => write a = (field.key.value? entries).elim field.default Json.trimmed)
      ((field.offenders entries).map fun part =>
        Place.path (.object entries) (.within field part)) := by
  rw [withDefault, field.key.find?_eq, Field.offenders]
  cases hvalue : field.key.value? entries with
  | none =>
    rw [if_neg hfield]
    exact Checked.gives_accepted hdefault
  | some value =>
    have hpaths : (field.kind.offenders value).map
        (fun part => Place.path (.object entries) (.within field part)) =
          (field.kind.offenders value).map fun part =>
            [field.key.used entries] ++ part.path value := by
      simp [Place.path, Json.entries, hvalue]
    rw [hpaths]
    exact h [field.key.used entries] value

end FieldCheck

namespace SchemaIdentity

variable {path : FieldPath} {entries : Entries}

/-- Each field of an accepted identity is what its own check accepts. -/
theorem fields_of_ofEntries {identity : SchemaIdentity}
    (h : ofEntries path entries = .accepted identity) (field : Field) :
    FieldCheck.nonBlank.required field.key path entries = .accepted (identity.text field) := by
  simp only [ofEntries, Checked.seq_eq_accepted_iff, Checked.map_eq_accepted_iff] at h
  obtain ⟨_, _, ⟨_, _, ⟨_, _, ⟨_, hname, rfl⟩, hconnection, rfl⟩, hlocation, rfl⟩, hnamespace, rfl⟩ := h
  cases field with
  | schemaName => exact hname
  | connectionString => exact hconnection
  | moduleLocation => exact hlocation
  | containerNamespace => exact hnamespace

/-- The offenders of an identity are those of its fields, one after the other. -/
theorem offenders_ofEntries (path : FieldPath) (entries : Entries) :
    (ofEntries path entries).offenders = Field.all.flatMap fun field =>
      (FieldCheck.nonBlank.required field.key path entries).offenders := by
  simp only [ofEntries, Checked.offenders_seq, Checked.offenders_fmap, Field.all,
    List.flatMap_cons, List.flatMap_nil, List.append_nil, List.append_assoc]
  rfl

/-- An identity is read as it should be. -/
theorem gives_ofEntries (path : FieldPath) (entries : Entries) :
    (ofEntries path entries).Gives
      (fun identity => ∀ field : Field, ∃ value, field.key.value? entries = some value ∧
        .string (identity.text field) = value.trimmedText)
      ((Settings.Kind.identity.offenders (.object entries)).map
        fun part => path ++ part.path (.object entries)) where
  offenders := by
    rw [offenders_ofEntries, Settings.Kind.offenders, List.map_map]
    induction Field.all with
    | nil => rfl
    | cons field rest ih =>
      rw [List.flatMap_cons, ih, (FieldCheck.gives_required_nonBlank field.key path entries).offenders,
        List.filter_cons]
      cases (field.key.value? entries).any Json.isText <;> rfl
  grounded := by
    have hfield := fun key => (FieldCheck.gives_required_nonBlank key path entries).grounded
    exact Checked.grounded_seq (Checked.grounded_seq (Checked.grounded_seq (Checked.grounded_fmap
      (hfield _)) (hfield _)) (hfield _)) (hfield _)
  accepted := by
    intro identity h field
    exact (FieldCheck.gives_required_nonBlank field.key path entries).accepted _
      (fields_of_ofEntries h field)

end SchemaIdentity

namespace Settings

variable {entries : Entries}

/-- The identity of settings is read as it should be. -/
theorem gives_identity (entries : Entries) :
    (SchemaIdentity.check.required Field.schemaIdentity.key [] entries).Gives
      (fun identity => ∃ inner, Field.schemaIdentity.key.value? entries = some (.object inner) ∧
        ∀ field : SchemaIdentity.Field, ∃ v, field.key.value? inner = some v ∧
          .string (identity.text field) = v.trimmedText)
      ((Field.schemaIdentity.offenders entries).map fun part =>
        Place.path (.object entries) (.within .schemaIdentity part)) := by
  rw [FieldCheck.required, FieldKey.find?_eq, Field.offenders]
  cases hvalue : Field.schemaIdentity.key.value? entries with
  | none =>
    rw [if_pos rfl, List.map_singleton, Place.path, Json.entries,
      FieldKey.used_of_value?_eq_none hvalue]
    exact Checked.gives_rejected (List.cons_ne_nil _ _)
  | some value =>
    have hpaths : (Kind.identity.offenders value).map
        (fun part => Place.path (.object entries) (.within .schemaIdentity part)) =
          (Kind.identity.offenders value).map fun part =>
            [Field.schemaIdentity.key.used entries] ++ part.path value := by
      simp [Place.path, Json.entries, hvalue]
    show (SchemaIdentity.check [Field.schemaIdentity.key.used entries] value).Gives _
      ((Kind.identity.offenders value).map _)
    rw [hpaths]
    cases value with
    | object inner =>
      exact (SchemaIdentity.gives_ofEntries _ inner).imp fun identity h => ⟨inner, rfl, h⟩
    | _ => exact FieldCheck.gives_itself _ _

/-- A text with a default is read as it should be. -/
theorem gives_text (field : Field) (hkind : field.kind = .single .text) (d : Text)
    (hdefault : .string d = field.default) (entries : Entries) :
    (FieldCheck.nonBlank.withDefault field.key d entries).Gives
      (fun t => .string t = (field.key.value? entries).elim field.default Json.trimmed)
      ((field.offenders entries).map fun part =>
        Place.path (.object entries) (.within field part)) := by
  refine FieldCheck.gives_withDefault field ?_ ?_ d hdefault entries
  · rintro rfl
    cases hkind
  · rw [hkind]
    exact FieldCheck.admits_nonBlank.single

/-- **Settings are read as they should be.** -/
theorem gives_ofEntries (entries : Entries) :
    (ofEntries entries).Gives (Holds entries)
      ((offenders (.object entries)).map (Place.path (.object entries))) := by
  have hcodeNamespace := gives_text .codeNamespace rfl "GraphQL" rfl entries
  have hclassName := gives_text .className rfl "Query" rfl entries
  have hbaseTypeName := gives_text .baseTypeName rfl "QueryBase" rfl entries
  have hidentity := gives_identity entries
  have husings := FieldCheck.gives_withDefault .usings nofun
    FieldCheck.admits_nonBlank.listOf [] rfl entries
  have hmodelNamespace := FieldCheck.gives_withDefault .modelNamespace nofun
    FieldCheck.admits_nonBlank.nullable none rfl entries
  have hcapabilities := FieldCheck.gives_withDefault .queryCapabilities nofun
    FieldCheck.admits_capability.listOf Capability.all rfl entries
  have hprefix := gives_text .contextVariablePrefix rfl "dbContext" rfl entries
  have hhelper := gives_text .queryHelperName rfl "ApplyQueryBehaviors" rfl entries
  have hdirectory := gives_text .directoryName rfl "generated" rfl entries
  have hfile := gives_text .fileName rfl "Query.cs" rfl entries
  refine ⟨?_, ?_, ?_⟩
  · simp only [ofEntries, Checked.offenders_seq, Checked.offenders_fmap, List.append_assoc,
      offenders, Field.all, List.flatMap_cons, List.flatMap_nil, List.append_nil, List.map_append,
      List.map_map]
    refine congrArg₂ (· ++ ·) hcodeNamespace.offenders ?_
    refine congrArg₂ (· ++ ·) hclassName.offenders ?_
    refine congrArg₂ (· ++ ·) hbaseTypeName.offenders ?_
    refine congrArg₂ (· ++ ·) hidentity.offenders ?_
    refine congrArg₂ (· ++ ·) husings.offenders ?_
    refine congrArg₂ (· ++ ·) hmodelNamespace.offenders ?_
    refine congrArg₂ (· ++ ·) hcapabilities.offenders ?_
    refine congrArg₂ (· ++ ·) hprefix.offenders ?_
    refine congrArg₂ (· ++ ·) hhelper.offenders ?_
    exact congrArg₂ (· ++ ·) hdirectory.offenders hfile.offenders
  · refine Checked.grounded_seq ?_ hfile.grounded
    refine Checked.grounded_seq ?_ hdirectory.grounded
    refine Checked.grounded_seq ?_ hhelper.grounded
    refine Checked.grounded_seq ?_ hprefix.grounded
    refine Checked.grounded_seq ?_ hcapabilities.grounded
    refine Checked.grounded_seq ?_ hmodelNamespace.grounded
    refine Checked.grounded_seq ?_ husings.grounded
    refine Checked.grounded_seq ?_ hidentity.grounded
    refine Checked.grounded_seq ?_ hbaseTypeName.grounded
    refine Checked.grounded_seq ?_ hclassName.grounded
    exact Checked.grounded_fmap hcodeNamespace.grounded
  · intro settings h
    obtain ⟨h1, h2, h3, h4, h5, h6, h7, h8, h9, h10, h11⟩ := fields_of_ofEntries h
    refine ⟨fun field hfield => ?_, hidentity.accepted _ h4⟩
    cases field with
    | codeNamespace => exact hcodeNamespace.accepted _ h1
    | className => exact hclassName.accepted _ h2
    | baseTypeName => exact hbaseTypeName.accepted _ h3
    | schemaIdentity => exact absurd rfl hfield
    | usings => exact husings.accepted _ h5
    | modelNamespace => exact hmodelNamespace.accepted _ h6
    | queryCapabilities => exact hcapabilities.accepted _ h7
    | contextVariablePrefix => exact hprefix.accepted _ h8
    | queryHelperName => exact hhelper.accepted _ h9
    | directoryName => exact hdirectory.accepted _ h10
    | fileName => exact hfile.accepted _ h11

/-- Any value is read as it should be; one that is no object is at fault as a whole. -/
theorem gives_ofJson (data : Json) :
    (ofJson data).Gives (Holds data.entries) ((offenders data).map (Place.path data)) := by
  cases data with
  | object entries => exact gives_ofEntries entries
  | _ => exact Checked.gives_rejected (List.cons_ne_nil _ _)

/-- A value is read exactly if nothing is at fault, and else all that is at fault is named. -/
theorem validate_cases (data : Json) :
    (∃ settings, validate data = .ok settings ∧ IsAcceptable data ∧ Holds data.entries settings) ∨
      (validate data = .error (.configuration (.invalid ((offenders data).map (Place.path data)))) ∧
        offenders data ≠ []) := by
  unfold validate
  obtain ⟨settings, haccepted, hnil, hholds⟩ | ⟨hrejected, hne⟩ := (gives_ofJson data).cases
  · rw [haccepted]
    exact .inl ⟨settings, rfl, offenders_eq_nil_iff.1 (List.map_eq_nil_iff.1 hnil), hholds⟩
  · rw [hrejected]
    exact .inr ⟨rfl, fun hnil => hne (List.map_eq_nil_iff.2 hnil)⟩

/-- An acceptable object is read, and as what it says. -/
theorem validate_eq_ok_iff {data : Json} {settings : Settings} :
    validate data = .ok settings ↔ IsAcceptable data ∧ Holds data.entries settings := by
  constructor
  · intro h
    obtain ⟨settings', hok, haccept, hholds⟩ | ⟨herror, -⟩ := validate_cases data
    · cases hok.symm.trans h
      exact ⟨haccept, hholds⟩
    · cases herror.symm.trans h
  · rintro ⟨haccept, hholds⟩
    obtain ⟨settings', hok, -, hholds'⟩ | ⟨-, hne⟩ := validate_cases data
    · rw [hok, hholds.unique hholds']
    · exact absurd (offenders_eq_nil_iff.2 haccept) hne

/-- What becomes of a value that is read as settings. -/
inductive Outcome (data : Json) : Except Failure Settings → Prop
  | read {settings : Settings} : IsAcceptable data → Holds data.entries settings →
      Outcome data (.ok settings)
  /-- All that is at fault is named, each place once and in the order of the fields. -/
  | refused {places : List Place} {failure : Failure} : ¬IsAcceptable data → places ≠ [] →
      (∀ place, place ∈ places ↔ Offends data place) → places.Pairwise Place.Precedes →
      failure = .configuration (.invalid (places.map (Place.path data))) →
      failure.fields? = some (places.map fun place => (place.path data).text) →
      Outcome data (.error failure)

/-- **A value is read exactly if it is acceptable, and otherwise all its faults are named.** There
is no other way to fail. -/
theorem outcome_validate (data : Json) : Outcome data (validate data) := by
  obtain ⟨settings, hok, haccept, hholds⟩ | ⟨herror, hne⟩ := validate_cases data
  · rw [hok]
    exact .read haccept hholds
  · rw [herror]
    refine .refused (fun haccept => hne (offenders_eq_nil_iff.2 haccept)) hne
      (fun place => mem_offenders_iff) (pairwise_offenders data) rfl ?_
    rw [Failure.fields?, ConfigurationFault.fields, List.map_map]
    rfl

-- Faults are named by the keys that are there, and missing fields by their published keys.
example :
    (ofJson (.object
      [("query_capabilities", .array [.string "paging", .string "Paging"]),
        ("Usings", .array [.string " System ", .string " "])])).offenders.map FieldPath.text =
      ["Schema", "Usings.1", "query_capabilities.1"] := rfl

end Settings

end QueryScaffold
