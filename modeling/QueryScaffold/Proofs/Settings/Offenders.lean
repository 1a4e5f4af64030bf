import QueryScaffold.Proofs.Settings.Fields

/-!
# What is at fault in settings

Any number of values of an object can be wrong or missing at once. Each such value has a place, which
is told by fields and indices and not by the keys of the object.

* `Settings.Place`, `Settings.Offends`: what can be at fault in settings, and what is;
* `Settings.Place.Precedes`: the order of places;
* `Settings.offenders`: all offending places, collected field by field;
* `Settings.mem_offenders_iff`, `Settings.pairwise_offenders`: **each offending place is among them,
  once and in its order**;
* `Settings.offenders_eq_nil_iff`: there is none exactly in an acceptable object.
-/

namespace QueryScaffold

namespace Settings

/-! ## What is at fault -/

/-- A part of the value of a field. -/
inductive Part
  | itself
  | item (index : Nat)
  | identity (field : SchemaIdentity.Field)

/-- A place in settings. -/
inductive Place
  | whole
  | within (field : Field) (part : Part)

/-- What is at fault in a value that is to be of a kind. -/
inductive Kind.Offends : Kind → Json → Part → Prop
  | single {item : Item} {value : Json} : item.admits value = false →
      Offends (.single item) value .itself
  | optional {item : Item} {value : Json} : value ≠ .null → item.admits value = false →
      Offends (.optional item) value .itself
  | notArray {item : Item} {value : Json} : (∀ values, value ≠ .array values) →
      Offends (.list item) value .itself
  | item {item : Item} {values : List Json} {index : Nat} {value : Json} :
      values[index]? = some value → item.admits value = false →
      Offends (.list item) (.array values) (.item index)
  | notObject {value : Json} : (∀ entries, value ≠ .object entries) →
      Offends .identity value .itself
  | missing {entries : Entries} {field : SchemaIdentity.Field} :
      field.key.value? entries = none → Offends .identity (.object entries) (.identity field)
  | field {entries : Entries} {field : SchemaIdentity.Field} {value : Json} :
      field.key.value? entries = some value → value.isText = false →
      Offends .identity (.object entries) (.identity field)

/-- What is at fault in settings: each value that is not what it should be, and each one that is
missing. -/
inductive Offends : Json → Place → Prop
  | notObject {data : Json} : (∀ entries, data ≠ .object entries) → Offends data .whole
  | missing {entries : Entries} : Field.schemaIdentity.key.value? entries = none →
      Offends (.object entries) (.within .schemaIdentity .itself)
  | within {entries : Entries} {field : Field} {value : Json} {part : Part} :
      field.key.value? entries = some value → field.kind.Offends value part →
      Offends (.object entries) (.within field part)

/-- The number of a part in the order of the value. -/
def Part.rank : Part → Nat
  | .itself => 0
  | .item index => index
  | .identity field => field.rank

/-- The order of places: fields as they are declared, items by their index. -/
def Place.Precedes : Place → Place → Prop
  | .within field part, .within field' part' =>
    field.rank < field'.rank ∨ (field = field' ∧ part.rank < part'.rank)
  | _, _ => False

/-- The way to a part of a value. -/
def Part.path (value : Json) : Part → FieldPath
  | .itself => []
  | .item index => [Text.ofNat index]
  | .identity field => [field.key.used value.entries]

/-- The way to a place in settings, by the keys that stand there. -/
def Place.path (data : Json) : Place → FieldPath
  | .whole => []
  | .within field part =>
    field.key.used data.entries :: part.path ((field.key.value? data.entries).getD .null)

/-! ## All that is at fault -/

/-- The offending parts of a value, in their order. -/
def Kind.offenders : Kind → Json → List Part
  | .single item, value => if item.admits value then [] else [.itself]
  | .optional _, .null => []
  | .optional item, value => if item.admits value then [] else [.itself]
  | .list item, .array values =>
    (values.zipIdx.filter fun entry => !item.admits entry.1).map fun entry => .item entry.2
  | .list _, _ => [.itself]
  | .identity, .object entries =>
    (SchemaIdentity.Field.all.filter fun field =>
      !(field.key.value? entries).any Json.isText).map .identity
  | .identity, _ => [.itself]

/-- The offending parts of what an object has in a field. -/
def Field.offenders (field : Field) (entries : Entries) : List Part :=
  match field.key.value? entries with
  | some value => field.kind.offenders value
  | none => if field = .schemaIdentity then [.itself] else []

/-- The offending places in their order. -/
def offenders : Json → List Place
  | .object entries =>
    Field.all.flatMap fun field => (field.offenders entries).map (.within field)
  | _ => [.whole]

theorem Kind.offends_of_mem {kind : Kind} {value : Json} {part : Part}
    (h : part ∈ kind.offenders value) : kind.Offends value part := by
  unfold offenders at h
  split at h
  case h_1 item value =>
    split at h
    · cases h
    · next hadmits =>
      rw [List.mem_singleton.1 h]
      exact .single (eq_false_of_ne_true hadmits)
  case h_2 => cases h
  case h_3 item value hnull =>
    split at h
    · cases h
    · next hadmits =>
      rw [List.mem_singleton.1 h]
      exact .optional hnull (eq_false_of_ne_true hadmits)
  case h_4 item values =>
    obtain ⟨⟨v, index⟩, hentry, rfl⟩ := List.mem_map.1 h
    obtain ⟨hplace, hadmits⟩ := List.mem_filter.1 hentry
    exact .item (List.mk_mem_zipIdx_iff_getElem?.1 hplace) (by simpa using hadmits)
  case h_5 item value harray =>
    rw [List.mem_singleton.1 h]
    exact .notArray harray
  case h_6 entries =>
    obtain ⟨field, hfield, rfl⟩ := List.mem_map.1 h
    have hany := (List.mem_filter.1 hfield).2
    cases hvalue : field.key.value? entries with
    | none => exact .missing hvalue
    | some v => exact .field hvalue (by simpa [hvalue] using hany)
  case h_7 value hobject =>
    rw [List.mem_singleton.1 h]
    exact .notObject hobject

theorem Kind.mem_offenders_iff {kind : Kind} {value : Json} {part : Part} :
    part ∈ kind.offenders value ↔ kind.Offends value part := by
  refine ⟨offends_of_mem, fun h => ?_⟩
  cases h with
  | single hadmits => simp [offenders, hadmits]
  | optional hnull hadmits =>
    cases value with
    | null => exact absurd rfl hnull
    | _ => simp [offenders, hadmits]
  | notArray harray =>
    cases value with
    | array values => exact absurd rfl (harray values)
    | _ => exact List.mem_singleton_self _
  | @item item values index v hplace hadmits =>
    refine List.mem_map.2 ⟨(v, index), List.mem_filter.2 ⟨?_, by simp [hadmits]⟩, rfl⟩
    exact List.mk_mem_zipIdx_iff_getElem?.2 hplace
  | notObject hobject =>
    cases value with
    | object entries => exact absurd rfl (hobject entries)
    | _ => exact List.mem_singleton_self _
  | @missing entries field hvalue =>
    exact List.mem_map_of_mem (List.mem_filter.2 ⟨field.mem_all, by simp [hvalue]⟩)
  | @field entries field v hvalue htext =>
    exact List.mem_map_of_mem (List.mem_filter.2 ⟨field.mem_all, by simp [hvalue, htext]⟩)

/-- Nothing is at fault in a value of the kind. -/
theorem Kind.offenders_eq_nil_iff {kind : Kind} {value : Json} :
    kind.offenders value = [] ↔ kind.Takes value := by
  cases kind with
  | single item => simp [offenders, Takes]
  | optional item => cases value <;> simp [offenders, Takes]
  | list item =>
    cases value with
    | array values =>
      have hitems : (∀ entry ∈ values.zipIdx, item.admits entry.1) ↔
          ∀ v ∈ values, item.admits v := by
        conv_rhs => rw [← List.zipIdx_map_fst 0 values]
        simp only [List.forall_mem_map]
      simp [offenders, Takes, ← hitems]
    | _ => simp [offenders, Takes]
  | identity =>
    cases value with
    | object entries =>
      have hfields : (∀ field ∈ SchemaIdentity.Field.all,
          (field.key.value? entries).any Json.isText) ↔
            ∀ field : SchemaIdentity.Field, ∃ v, field.key.value? entries = some v ∧ v.isText := by
        simp [SchemaIdentity.Field.mem_all, Option.any_eq_true]
      simp [offenders, Takes, ← hfields]
    | _ => simp [offenders, Takes]

theorem Kind.pairwise_offenders (kind : Kind) (value : Json) :
    (kind.offenders value).Pairwise fun part part' => part.rank < part'.rank := by
  have hitself : ([.itself] : List Part).Pairwise fun part part' => part.rank < part'.rank :=
    List.pairwise_singleton _ _
  unfold offenders
  split
  case h_1 | h_3 =>
    split
    · exact .nil
    · exact hitself
  case h_2 => exact .nil
  case h_5 | h_7 => exact hitself
  case h_4 item values =>
    have hplaces : (values.zipIdx.map Prod.snd).Pairwise (· < ·) := by
      rw [List.zipIdx_map_snd]
      exact List.pairwise_lt_range'
    exact List.pairwise_map.2 ((List.pairwise_map.1 hplaces).filter _)
  case h_6 entries =>
    have hfields : SchemaIdentity.Field.all.Pairwise fun field field' => field.rank < field'.rank := by
      decide
    exact List.pairwise_map.2 (hfields.filter _)

/-- **A place is among them exactly if it offends.** -/
theorem mem_offenders_iff {data : Json} {place : Place} :
    place ∈ offenders data ↔ Offends data place := by
  constructor
  · intro h
    cases data with
    | object entries =>
      obtain ⟨field, -, hplace⟩ := List.mem_flatMap.1 h
      obtain ⟨part, hpart, rfl⟩ := List.mem_map.1 hplace
      unfold Field.offenders at hpart
      split at hpart
      · next value hvalue => exact .within hvalue (Kind.mem_offenders_iff.1 hpart)
      · next hvalue =>
        split at hpart
        · next hfield =>
          subst hfield
          rw [List.mem_singleton.1 hpart]
          exact .missing hvalue
        · cases hpart
    | _ =>
      rw [List.mem_singleton.1 h]
      exact .notObject nofun
  · intro h
    cases h with
    | notObject hobject =>
      cases data with
      | object entries => exact absurd rfl (hobject entries)
      | _ => exact List.mem_singleton_self _
    | missing hvalue =>
      refine List.mem_flatMap.2 ⟨.schemaIdentity, Field.mem_all _, List.mem_map_of_mem ?_⟩
      simp [Field.offenders, hvalue]
    | @within entries field value part hvalue hpart =>
      refine List.mem_flatMap.2 ⟨field, Field.mem_all _, List.mem_map_of_mem ?_⟩
      rw [Field.offenders, hvalue]
      exact Kind.mem_offenders_iff.2 hpart

/-- **Each place comes once, in the order of the fields.** -/
theorem pairwise_offenders (data : Json) : (offenders data).Pairwise Place.Precedes := by
  cases data with
  | object entries =>
    refine List.pairwise_flatMap.2 ⟨fun field _ => List.pairwise_map.2 ?_, ?_⟩
    · unfold Field.offenders
      split
      · exact (Kind.pairwise_offenders _ _).imp fun hlt => .inr ⟨rfl, hlt⟩
      · split <;> simp
    · have hfields : Field.all.Pairwise fun field field' => field.rank < field'.rank := by decide
      refine hfields.imp fun hlt place hplace place' hplace' => ?_
      obtain ⟨part, -, rfl⟩ := List.mem_map.1 hplace
      obtain ⟨part', -, rfl⟩ := List.mem_map.1 hplace'
      exact .inl hlt
  | _ => exact List.pairwise_singleton _ _

theorem Field.offenders_eq_nil_iff {field : Field} {entries : Entries} :
    field.offenders entries = [] ↔
      (field = .schemaIdentity → ∃ value, field.key.value? entries = some value) ∧
        ∀ value, field.key.value? entries = some value → field.kind.Takes value := by
  unfold offenders
  cases hvalue : field.key.value? entries with
  | none => simp
  | some value => simp [Kind.offenders_eq_nil_iff]

theorem offenders_eq_nil_iff {data : Json} : offenders data = [] ↔ IsAcceptable data := by
  cases data with
  | object entries =>
    simp only [offenders, List.flatMap_eq_nil_iff, List.map_eq_nil_iff,
      Field.offenders_eq_nil_iff]
    constructor
    · intro h
      exact ⟨entries, rfl, (h .schemaIdentity (Field.mem_all _)).1 rfl,
        fun field => (h field field.mem_all).2⟩
    · rintro ⟨_, ⟨⟩, hidentity, hfields⟩ field -
      exact ⟨fun hfield => hfield ▸ hidentity, hfields field⟩
  | _ => simp [offenders, IsAcceptable]

end Settings

end QueryScaffold
