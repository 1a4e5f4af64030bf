import Mathlib.Data.List.Forall2
import QueryScaffold.Proofs.Schema.Distinct

/-!
# Which descriptions are accepted

A description is read list by list and item by item, and reading stops at the first fault. What a
value has to be like to be read, and which fault of a value is the first one, can be said without
the reading.

* `Description.IsItem`, `Description.ItemFault`: an item that can be read, and the fault of any
  other;
* `Description.ListsItems`, `Description.ListFault`: the same for the lists of a description;
* `Snapshot.repeatedAfter_eq_some_iff`: the first entity whose shape occurred earlier;
* `Description.Describes`, `Description.FirstFault`: the same for values as a whole;
* `Description.read_eq_ok_iff`, `Description.read_eq_error_iff`: **a value is read exactly if it
  describes a schema, and otherwise the fault is its first one**;
* `SchemaFault.subject_isPrefix_message`: a message starts with the place of the fault.
-/

namespace QueryScaffold

/-! ## What is asked of a description -/

namespace Description

/-- A list of a description has these items; a list that is not there has none. -/
inductive ListsItems (list : DescriptionList) (entries : Entries) : List Json → Prop
  | absent : entries.get? list.key = none → ListsItems list entries []
  | array {items : List Json} : entries.get? list.key = some (.array items) →
      ListsItems list entries items

/-- The entries of an item that has a name give it a shape: an entity may leave its type out, or say
that it is null, and has its name as its shape then. -/
def GivesShape : DescriptionList → Entries → Text → Text → Prop
  | .entities, entries, name, shape =>
    ((entries.get? "type" = none ∨ entries.get? "type" = some .null) ∧ shape = name) ∨
      (entries.get? "type" = some (.string shape) ∧ shape.isBlank = false)
  | .accessors, entries, _, shape =>
    entries.get? "elementType" = some (.string shape) ∧ shape.isBlank = false

/-- The entries of an item have a name that is more than white space. -/
def HasName (entries : Entries) (name : Text) : Prop :=
  entries.get? "name" = some (.string name) ∧ name.isBlank = false

/-- An item of a list that has a name and a shape. -/
inductive IsItem (list : DescriptionList) : Json → Text → Text → Prop
  | mk {entries : Entries} {name shape : Text} : HasName entries name →
      GivesShape list entries name shape → IsItem list (.object entries) name shape

/-- The fault of an item whose entries give it no shape. -/
def shapeFault (index : Nat) (entries : Entries) (name : Text) : DescriptionList → SchemaFault
  | .entities => .invalidType index name ((entries.get? "type").getD .null)
  | .accessors => .missingElementType index name

/-- The fault of an item in a place of a list: the first thing that is wrong with it. -/
inductive ItemFault (list : DescriptionList) (index : Nat) : Json → SchemaFault → Prop
  | notObject {item : Json} : (∀ entries, item ≠ .object entries) →
      ItemFault list index item (.itemNotObject list index)
  | noName {entries : Entries} : (∀ name, ¬HasName entries name) →
      ItemFault list index (.object entries) (.missingName list index)
  | noShape {entries : Entries} {name : Text} : HasName entries name →
      (∀ shape, ¬GivesShape list entries name shape) →
      ItemFault list index (.object entries) (shapeFault index entries name list)

/-- The first fault of a list of a description: it is no list, or an item has a fault and each one
before it has none. -/
inductive ListFault (list : DescriptionList) (entries : Entries) : SchemaFault → Prop
  | notList {value : Json} : entries.get? list.key = some value →
      (∀ items, value ≠ .array items) → ListFault list entries (.notList list value.kindName)
  | item {before after : List Json} {item : Json} {fault : SchemaFault} :
      entries.get? list.key = some (.array (before ++ item :: after)) →
      (∀ earlier ∈ before, ∃ name shape, IsItem list earlier name shape) →
      ItemFault list before.length item fault → ListFault list entries fault

/-- A list of a description is read as some values, each of which has a name and a shape. -/
def ListsAs {α : Type} (list : DescriptionList) (name shape : α → Text) (entries : Entries)
    (values : List α) : Prop :=
  ∃ items, ListsItems list entries items ∧
    List.Forall₂ (fun item value => IsItem list item (name value) (shape value)) items values

/-- The entities that a description lists. -/
def ListsEntities (entries : Entries) (entities : List (Entity Text)) : Prop :=
  ListsAs .entities Entity.name Entity.shape entries entities

/-- The accessors that a description lists. -/
def ListsAccessors (entries : Entries) (accessors : List (Accessor Text)) : Prop :=
  ListsAs .accessors Accessor.name Accessor.elementShape entries accessors

/-- The value describes the schema: it is an object, its lists are those of the schema, in order,
and no two entities have one shape. -/
inductive Describes : Json → Snapshot Text → Prop
  | mk {entries : Entries} {snapshot : Snapshot Text} :
      ListsEntities entries snapshot.entities → ListsAccessors entries snapshot.accessors →
      (snapshot.entities.map Entity.shape).Nodup → Describes (.object entries) snapshot

/-- The first fault of a value: the entities come before the accessors, and these come before the
shapes. -/
inductive FirstFault : Json → SchemaFault → Prop
  | notObject {value : Json} : (∀ entries, value ≠ .object entries) → FirstFault value .notObject
  | entities {entries : Entries} {fault : SchemaFault} : ListFault .entities entries fault →
      FirstFault (.object entries) fault
  | accessors {entries : Entries} {entities : List (Entity Text)} {fault : SchemaFault} :
      ListsEntities entries entities → ListFault .accessors entries fault →
      FirstFault (.object entries) fault
  | repeated {entries : Entries} {before after : List (Entity Text)} {earlier later : Entity Text}
      {accessors : List (Accessor Text)} : ListsEntities entries (before ++ later :: after) →
      ListsAccessors entries accessors → (before.map Entity.shape).Nodup → earlier ∈ before →
      earlier.shape = later.shape →
      FirstFault (.object entries) (.repeatedShape earlier.name later.name)

/-- Takes a value as a description and reads it. -/
def read (value : Json) : Except SchemaFault (Snapshot Text) :=
  (ofJson value).bind snapshot

/-! ## Items -/

section Items

variable {list : DescriptionList} {index : Nat} {item : Json} {entries : Entries}
  {name other shape : Text} {fault : SchemaFault}

theorem HasName.unique (h : HasName entries name) (hother : HasName entries other) :
    name = other := by
  simpa using h.1.symm.trans hother.1

theorem GivesShape.unique {second : Text} (h : GivesShape list entries name shape)
    (hsecond : GivesShape list entries name second) : shape = second := by
  cases list with
  | accessors => simpa using h.1.symm.trans hsecond.1
  | entities =>
    rcases h with ⟨htype, rfl⟩ | ⟨htype, -⟩ <;>
      rcases hsecond with ⟨hsecond, rfl⟩ | ⟨hsecond, -⟩
    · rfl
    · simp [hsecond] at htype
    · simp [htype] at hsecond
    · simpa using htype.symm.trans hsecond

/-- An item has one name and one shape. -/
theorem IsItem.unique {second : Text} (h : IsItem list item name shape)
    (hother : IsItem list item other second) : name = other ∧ shape = second := by
  cases h with
  | mk hname hshape =>
    cases hother with
    | mk hother hsecond =>
      obtain rfl := hname.unique hother
      exact ⟨rfl, hshape.unique hsecond⟩

/-- An item that has a name and a shape has no fault. -/
theorem IsItem.not_itemFault (h : IsItem list item name shape) :
    ¬ItemFault list index item fault := by
  cases h with
  | mk hname hshape =>
    intro hfault
    cases hfault with
    | notObject hobject => exact hobject _ rfl
    | noName hnone => exact hnone _ hname
    | noShape hother hnone =>
      obtain rfl := hname.unique hother
      exact hnone _ hshape

/-- An item has one fault at most. -/
theorem ItemFault.unique {second : SchemaFault} (h : ItemFault list index item fault)
    (hsecond : ItemFault list index item second) : fault = second := by
  cases h with
  | notObject hobject =>
    cases hsecond with
    | notObject => rfl
    | noName | noShape => exact absurd rfl (hobject _)
  | noName hnone =>
    cases hsecond with
    | notObject hobject => exact absurd rfl (hobject _)
    | noName => rfl
    | noShape hname => exact absurd hname (hnone _)
  | noShape hname =>
    cases hsecond with
    | notObject hobject => exact absurd rfl (hobject _)
    | noName hnone => exact absurd hname (hnone _)
    | noShape hother => rw [hname.unique hother]

/-- What is asked of a reader of items: it gives a value with the item's name and shape, or the
item's fault. -/
structure Reads {α : Type} (list : DescriptionList) (name shape : α → Text)
    (reader : Nat → Json → Except SchemaFault α) : Prop where
  ext : ∀ first second : α, name first = name second → shape first = shape second → first = second
  sound : ∀ index item,
    match reader index item with
    | .ok value => IsItem list item (name value) (shape value)
    | .error fault => ItemFault list index item fault

/-- An item has entries with a name, or it has one of two faults. -/
theorem named_cases (list : DescriptionList) (index : Nat) (item : Json) :
    (∃ entries name, item = .object entries ∧ HasName entries name ∧
      named list index item = .ok (entries, name)) ∨
    ∃ fault, named list index item = .error fault ∧ ItemFault list index item fault := by
  unfold named
  split
  · next entries =>
    split
    · next name hname =>
      cases hblank : name.isBlank with
      | false => exact .inl ⟨entries, name, rfl, ⟨hname, hblank⟩, rfl⟩
      | true =>
        refine .inr ⟨_, rfl, .noName fun other hother => ?_⟩
        obtain rfl : name = other := by simpa using hname.symm.trans hother.1
        exact absurd (hblank.symm.trans hother.2) (by decide)
    · next hnone => exact .inr ⟨_, rfl, .noName fun name hname => hnone name hname.1⟩
  · next hobject => exact .inr ⟨_, rfl, .notObject fun entries => hobject entries⟩

/-- A type that is neither null nor a name gives no shape. -/
theorem itemFault_invalidType {type : Json} (hname : HasName entries name)
    (htype : entries.get? "type" = some type) (hnull : type ≠ .null)
    (hblank : ∀ shape, type = .string shape → shape.isBlank = true) :
    ItemFault .entities index (.object entries) (.invalidType index name type) := by
  have hfault : shapeFault index entries name .entities = .invalidType index name type := by
    rw [shapeFault, htype]
    rfl
  rw [← hfault]
  refine .noShape hname fun shape hshape => ?_
  rcases hshape with ⟨hnone | hnull', -⟩ | ⟨hshape, hnonblank⟩
  · simp [hnone] at htype
  · exact hnull (by simpa using htype.symm.trans hnull')
  · have hstring : type = .string shape := by simpa using htype.symm.trans hshape
    exact absurd ((hblank shape hstring).symm.trans hnonblank) (by decide)

/-- What is read of an entity whose item has a name. -/
theorem reads_entity : Reads .entities Entity.name Entity.shape entity where
  ext := by
    rintro ⟨name, shape⟩ ⟨other, second⟩ rfl rfl
    rfl
  sound := by
    intro index item
    obtain ⟨entries, name, rfl, hname, hnamed⟩ | ⟨fault, hnamed, hfault⟩ :=
      named_cases .entities index item
    · rw [entity, hnamed]
      simp only
      cases htype : Entries.get? "type" entries with
      | none => exact .mk hname (.inl ⟨.inl htype, rfl⟩)
      | some type =>
        cases type with
        | null => exact .mk hname (.inl ⟨.inr htype, rfl⟩)
        | string shape =>
          simp only
          cases hblank : shape.isBlank with
          | false => exact .mk hname (.inr ⟨htype, hblank⟩)
          | true =>
            refine itemFault_invalidType hname htype (by simp) fun other hother => ?_
            rwa [← Json.string.inj hother]
        | bool | int | float | array | object =>
          exact itemFault_invalidType hname htype (by simp) (by simp)
    · rw [entity, hnamed]
      exact hfault

theorem reads_accessor : Reads .accessors Accessor.name Accessor.elementShape accessor where
  ext := by
    rintro ⟨name, shape⟩ ⟨other, second⟩ rfl rfl
    rfl
  sound := by
    intro index item
    obtain ⟨entries, name, rfl, hname, hnamed⟩ | ⟨fault, hnamed, hfault⟩ :=
      named_cases .accessors index item
    · rw [accessor, hnamed]
      simp only
      have hmissing : (∀ shape, ¬GivesShape .accessors entries name shape) →
          ItemFault .accessors index (.object entries) (.missingElementType index name) :=
        .noShape hname
      cases htype : Entries.get? "elementType" entries with
      | none => exact hmissing fun shape hshape => absurd hshape.1 (by simp [htype])
      | some type =>
        cases type with
        | string shape =>
          simp only
          cases hblank : shape.isBlank with
          | false => exact .mk hname ⟨htype, hblank⟩
          | true =>
            refine hmissing fun other hother => ?_
            obtain rfl : shape = other := by simpa using htype.symm.trans hother.1
            exact absurd (hblank.symm.trans hother.2) (by decide)
        | null | bool | int | float | array | object =>
          exact hmissing fun shape hshape => by simpa using htype.symm.trans hshape.1
    · rw [accessor, hnamed]
      exact hfault

end Items

/-! ## Lists -/

section Lists

variable {α : Type} {list : DescriptionList} {name shape : α → Text}
  {reader : Nat → Json → Except SchemaFault α} {index : Nat} {entries : Entries}
  {item : Json} {items before : List Json} {values : List α} {fault : SchemaFault}

namespace Reads

theorem eq_ok {value : α} (h : Reads list name shape reader)
    (hitem : IsItem list item (name value) (shape value)) (index : Nat) :
    reader index item = .ok value := by
  have hsound := h.sound index item
  cases hread : reader index item with
  | error fault =>
    rw [hread] at hsound
    exact absurd hsound hitem.not_itemFault
  | ok other =>
    rw [hread] at hsound
    obtain ⟨hname, hshape⟩ := hsound.unique hitem
    rw [h.ext other value hname hshape]

theorem exists_ok {word type : Text} (h : Reads list name shape reader)
    (hitem : IsItem list item word type) (index : Nat) :
    ∃ value, reader index item = .ok value := by
  have hsound := h.sound index item
  cases hread : reader index item with
  | error fault =>
    rw [hread] at hsound
    exact absurd hsound hitem.not_itemFault
  | ok value => exact ⟨value, rfl⟩

theorem eq_error (h : Reads list name shape reader) (hfault : ItemFault list index item fault) :
    reader index item = .error fault := by
  have hsound := h.sound index item
  cases hread : reader index item with
  | error other =>
    rw [hread] at hsound
    rw [hsound.unique hfault]
  | ok value =>
    rw [hread] at hsound
    exact absurd hfault hsound.not_itemFault

/-- All items have names and shapes, or one is the first with a fault. -/
theorem items_or_fault (h : Reads list name shape reader) (index : Nat) (items : List Json) :
    (∃ values,
      List.Forall₂ (fun item value => IsItem list item (name value) (shape value)) items values) ∨
    ∃ before item after fault, items = before ++ item :: after ∧
      (∀ earlier ∈ before, ∃ name shape, IsItem list earlier name shape) ∧
      ItemFault list (index + before.length) item fault := by
  induction items generalizing index with
  | nil => exact .inl ⟨[], .nil⟩
  | cons item rest ih =>
    have hitem := h.sound index item
    cases hread : reader index item with
    | error fault =>
      rw [hread] at hitem
      exact .inr ⟨[], item, rest, fault, rfl, by simp, hitem⟩
    | ok value =>
      rw [hread] at hitem
      obtain ⟨values, hall⟩ | ⟨before, bad, after, fault, rfl, hbefore, hbad⟩ := ih (index + 1)
      · exact .inl ⟨value :: values, .cons hitem hall⟩
      · refine .inr ⟨item :: before, bad, after, fault, rfl, ?_, ?_⟩
        · exact List.forall_mem_cons.2 ⟨⟨_, _, hitem⟩, hbefore⟩
        · rwa [List.length_cons, Nat.add_comm before.length, ← Nat.add_assoc]

/-- Items that have names and shapes are read. -/
theorem readFrom_eq_ok (h : Reads list name shape reader)
    (hitems : List.Forall₂ (fun item value => IsItem list item (name value) (shape value)) items
      values) (index : Nat) : readFrom reader index items = .ok values := by
  induction hitems generalizing index with
  | nil => rfl
  | cons hitem _ ih =>
    rw [readFrom, h.eq_ok hitem]
    simp only [ih]

/-- The first item with a fault ends the reading. -/
theorem readFrom_eq_error (h : Reads list name shape reader)
    (hbefore : ∀ earlier ∈ before, ∃ name shape, IsItem list earlier name shape)
    (hfault : ItemFault list (index + before.length) item fault) (after : List Json) :
    readFrom reader index (before ++ item :: after) = .error fault := by
  induction before generalizing index with
  | nil =>
    have hread : reader index item = .error fault := h.eq_error hfault
    rw [List.nil_append, readFrom, hread]
  | cons earlier rest ih =>
    obtain ⟨⟨word, type, hearlier⟩, hrest⟩ := List.forall_mem_cons.1 hbefore
    obtain ⟨value, hvalue⟩ := h.exists_ok hearlier index
    rw [List.length_cons, Nat.add_comm rest.length, ← Nat.add_assoc] at hfault
    rw [List.cons_append, readFrom, hvalue]
    simp only [ih hrest hfault]

end Reads

/-- What a reader of items makes of a list of a description. -/
def readList (reader : Nat → Json → Except SchemaFault α) (list : DescriptionList)
    (description : Description) : Except SchemaFault (List α) :=
  match description.items list with
  | .error fault => .error fault
  | .ok items => readFrom reader 0 items

theorem ListsItems.items_eq (h : ListsItems list entries items) :
    Description.items ⟨entries⟩ list = .ok items := by
  cases h with
  | absent hnone => rw [Description.items, hnone]
  | array harray => rw [Description.items, harray]

/-- A list of a description is an array, or not there, or something else. -/
theorem items_cases (entries : Entries) (list : DescriptionList) :
    (∃ items, Description.items ⟨entries⟩ list = .ok items ∧ ListsItems list entries items ∧
      (items ≠ [] → entries.get? list.key = some (.array items))) ∨
    ∃ value, Description.items ⟨entries⟩ list = .error (.notList list value.kindName) ∧
      entries.get? list.key = some value ∧ ∀ items, value ≠ .array items := by
  unfold Description.items
  split
  · next hnone => exact .inl ⟨[], rfl, .absent hnone, fun h => absurd rfl h⟩
  · next items harray => exact .inl ⟨items, rfl, .array harray, fun _ => harray⟩
  · next value hother hvalue => exact .inr ⟨value, rfl, hvalue, hother⟩

namespace Reads

/-- A list lists values, or it has a fault. -/
theorem lists_or_fault (h : Reads list name shape reader) (entries : Entries) :
    (∃ values, ListsAs list name shape entries values) ∨ ∃ fault, ListFault list entries fault := by
  obtain ⟨items, -, hlists, harray⟩ | ⟨value, -, hvalue, hother⟩ := items_cases entries list
  · obtain ⟨values, hall⟩ | ⟨before, item, after, fault, rfl, hbefore, hfault⟩ :=
      h.items_or_fault 0 items
    · exact .inl ⟨values, items, hlists, hall⟩
    · rw [Nat.zero_add] at hfault
      exact .inr ⟨fault, .item (harray (by simp)) hbefore hfault⟩
  · exact .inr ⟨_, .notList hvalue hother⟩

theorem readList_eq_ok (h : Reads list name shape reader)
    (hlists : ListsAs list name shape entries values) :
    readList reader list ⟨entries⟩ = .ok values := by
  obtain ⟨items, hitems, hall⟩ := hlists
  rw [readList, hitems.items_eq]
  exact h.readFrom_eq_ok hall 0

theorem readList_eq_error (h : Reads list name shape reader)
    (hfault : ListFault list entries fault) : readList reader list ⟨entries⟩ = .error fault := by
  cases hfault with
  | notList hvalue hother =>
    obtain ⟨items, -, hlists, -⟩ | ⟨value, hitems, hsame, -⟩ := items_cases entries list
    · cases hlists with
      | absent hnone => simp [hnone] at hvalue
      | array harray => exact absurd (Option.some.inj (hvalue.symm.trans harray)) (hother _)
    · obtain rfl := Option.some.inj (hvalue.symm.trans hsame)
      rw [readList, hitems]
  | item harray hbefore hitem =>
    rw [readList, (ListsItems.array harray).items_eq]
    exact h.readFrom_eq_error hbefore ((Nat.zero_add _).symm ▸ hitem) _

end Reads

end Lists

end Description

/-! ## Shapes -/

namespace Snapshot

variable {σ : Type} [DecidableEq σ]

/-- The search for a repeated shape finds the first entity whose shape was seen before or occurred
earlier. The induction is on the entities that are still to be seen. -/
theorem repeatedAfter_eq_some_iff {seen rest : List (Entity σ)} {earlier later : Entity σ}
    (hseen : (seen.map Entity.shape).Nodup) :
    repeatedAfter seen rest = some (earlier, later) ↔
      ∃ before after, rest = before ++ later :: after ∧
        ((seen ++ before).map Entity.shape).Nodup ∧ earlier ∈ seen ++ before ∧
        earlier.shape = later.shape := by
  induction rest generalizing seen with
  | nil => simp [repeatedAfter]
  | cons entity rest ih =>
    rw [repeatedAfter]
    cases hfind : seen.find? (·.shape = entity.shape) with
    | some found =>
      have hshape : found.shape = entity.shape := by simpa using List.find?_some hfind
      have hfound := List.mem_of_find?_eq_some hfind
      simp only [Option.some.injEq, Prod.mk.injEq]
      constructor
      · rintro ⟨rfl, rfl⟩
        exact ⟨[], rest, rfl, by simpa using hseen, by simpa using hfound, hshape⟩
      · rintro ⟨before, after, hrest, hnodup, hearlier, hsame⟩
        rcases List.cons_eq_append_iff.1 hrest with ⟨rfl, hlater⟩ | ⟨tail, rfl, -⟩
        · obtain ⟨rfl, rfl⟩ := List.cons.inj hlater
          rw [List.append_nil] at hearlier
          exact ⟨List.inj_on_of_nodup_map hseen hfound hearlier (hshape.trans hsame.symm), rfl⟩
        · rw [List.map_append, List.map_cons, List.nodup_append'] at hnodup
          exact absurd (List.mem_map_of_mem hfound : found.shape ∈ seen.map Entity.shape)
            fun hmem => hnodup.2.2 hmem (by simp [hshape])
    | none =>
      have hnew : ∀ old ∈ seen, old.shape ≠ entity.shape := by
        simpa using List.find?_eq_none.1 hfind
      have hnodup : ((seen ++ [entity]).map Entity.shape).Nodup := by
        rw [List.map_append, List.nodup_append']
        refine ⟨hseen, List.nodup_singleton _, ?_⟩
        simpa [List.disjoint_singleton] using hnew
      simp only [ih hnodup, List.append_assoc, List.singleton_append]
      constructor
      · rintro ⟨before, after, rfl, hbefore⟩
        exact ⟨entity :: before, after, rfl, hbefore⟩
      · rintro ⟨before, after, hrest, hbefore, hearlier, hsame⟩
        rcases List.cons_eq_append_iff.1 hrest with ⟨rfl, hlater⟩ | ⟨tail, rfl, htail⟩
        · obtain ⟨rfl, rfl⟩ := List.cons.inj hlater
          rw [List.append_nil] at hearlier
          exact absurd hsame (hnew earlier hearlier)
        · exact ⟨tail, after, htail, hbefore, hearlier, hsame⟩

/-- A schema is refused exactly if a shape occurs twice: with the first entity whose shape occurred
earlier, and the entity that had it then. -/
theorem distinct_eq_error_iff {entities : List (Entity σ)} {accessors : List (Accessor σ)}
    {fault : SchemaFault} :
    distinct entities accessors = .error fault ↔
      ∃ before after earlier later, entities = before ++ later :: after ∧
        (before.map Entity.shape).Nodup ∧ earlier ∈ before ∧ earlier.shape = later.shape ∧
        fault = .repeatedShape earlier.name later.name := by
  have hrepeated : ∀ earlier later, repeated? entities = some (earlier, later) ↔
      ∃ before after, entities = before ++ later :: after ∧ (before.map Entity.shape).Nodup ∧
        earlier ∈ before ∧ earlier.shape = later.shape :=
    fun earlier later => repeatedAfter_eq_some_iff List.nodup_nil
  rw [distinct]
  constructor
  · intro h
    split at h
    · next earlier later hsome =>
      obtain ⟨before, after, hentities, hnodup, hearlier, hsame⟩ := (hrepeated _ _).1 hsome
      exact ⟨before, after, earlier, later, hentities, hnodup, hearlier, hsame,
        (Except.error.inj h).symm⟩
    · cases h
  · rintro ⟨before, after, earlier, later, hentities, hnodup, hearlier, hsame, rfl⟩
    rw [(hrepeated earlier later).2 ⟨before, after, hentities, hnodup, hearlier, hsame⟩]

end Snapshot

/-! ## Values -/

namespace Description

variable {value : Json} {snapshot : Snapshot Text} {fault : SchemaFault}

theorem entities_of_lists {entries : Entries} {entities : List (Entity Text)}
    (h : ListsEntities entries entities) : Description.entities ⟨entries⟩ = .ok entities :=
  reads_entity.readList_eq_ok h

theorem accessors_of_lists {entries : Entries} {accessors : List (Accessor Text)}
    (h : ListsAccessors entries accessors) : Description.accessors ⟨entries⟩ = .ok accessors :=
  reads_accessor.readList_eq_ok h

/-- Where both lists can be read, the test for repeated shapes decides. -/
theorem read_of_lists {entries : Entries} {entities : List (Entity Text)}
    {accessors : List (Accessor Text)} (hentities : ListsEntities entries entities)
    (haccessors : ListsAccessors entries accessors) :
    read (.object entries) = Snapshot.distinct entities accessors := by
  show Description.snapshot ⟨entries⟩ = _
  rw [Description.snapshot, entities_of_lists hentities, accessors_of_lists haccessors]

theorem read_of_entitiesFault {entries : Entries} (h : ListFault .entities entries fault) :
    read (.object entries) = .error fault := by
  have hentities : Description.entities ⟨entries⟩ = .error fault :=
    reads_entity.readList_eq_error h
  show Description.snapshot ⟨entries⟩ = _
  rw [Description.snapshot, hentities]

theorem read_of_accessorsFault {entries : Entries} {entities : List (Entity Text)}
    (hentities : ListsEntities entries entities) (h : ListFault .accessors entries fault) :
    read (.object entries) = .error fault := by
  have haccessors : Description.accessors ⟨entries⟩ = .error fault :=
    reads_accessor.readList_eq_error h
  show Description.snapshot ⟨entries⟩ = _
  rw [Description.snapshot, entities_of_lists hentities, haccessors]

/-- A value describes a schema, and is read as such, or it has a fault, and is refused with it. -/
theorem read_cases (value : Json) :
    (∃ snapshot, read value = .ok snapshot ∧ Describes value snapshot) ∨
    ∃ fault, read value = .error fault ∧ FirstFault value fault := by
  cases value with
  | object entries =>
    obtain ⟨entities, hlists⟩ | ⟨fault, hfault⟩ := reads_entity.lists_or_fault entries
    · obtain ⟨accessors, hothers⟩ | ⟨fault, hfault⟩ := reads_accessor.lists_or_fault entries
      · have hread := read_of_lists hlists hothers
        cases hdistinct : Snapshot.distinct entities accessors with
        | ok snapshot =>
          obtain ⟨hnodup, rfl⟩ := Snapshot.distinct_eq_ok_iff.1 hdistinct
          exact .inl ⟨_, hread.trans hdistinct, .mk hlists hothers hnodup⟩
        | error fault =>
          obtain ⟨before, after, earlier, later, rfl, hnodup, hearlier, hsame, rfl⟩ :=
            Snapshot.distinct_eq_error_iff.1 hdistinct
          exact .inr ⟨_, hread.trans hdistinct, .repeated hlists hothers hnodup hearlier hsame⟩
      · exact .inr ⟨fault, read_of_accessorsFault hlists hfault, .accessors hlists hfault⟩
    · exact .inr ⟨fault, read_of_entitiesFault hfault, .entities hfault⟩
  | null | bool | int | float | string | array =>
    exact .inr ⟨.notObject, rfl, .notObject (by simp)⟩

/-- **A value is read exactly if it describes a schema**, and as that schema. -/
theorem read_eq_ok_iff : read value = .ok snapshot ↔ Describes value snapshot := by
  constructor
  · intro h
    obtain ⟨other, hread, hdescribes⟩ | ⟨fault, hread, -⟩ := read_cases value
    · obtain rfl := Except.ok.inj (hread.symm.trans h)
      exact hdescribes
    · cases hread.symm.trans h
  · rintro ⟨hentities, haccessors, hnodup⟩
    exact (read_of_lists hentities haccessors).trans
      (Snapshot.distinct_eq_ok_iff.2 ⟨hnodup, rfl⟩)

/-- **A value that describes no schema is refused with its first fault.** -/
theorem read_eq_error_iff : read value = .error fault ↔ FirstFault value fault := by
  constructor
  · intro h
    obtain ⟨snapshot, hread, -⟩ | ⟨other, hread, hfault⟩ := read_cases value
    · cases hread.symm.trans h
    · obtain rfl := Except.error.inj (hread.symm.trans h)
      exact hfault
  · intro h
    cases h with
    | notObject hobject =>
      cases value with
      | object entries => exact absurd rfl (hobject entries)
      | null | bool | int | float | string | array => rfl
    | entities hfault => exact read_of_entitiesFault hfault
    | accessors hlists hfault => exact read_of_accessorsFault hlists hfault
    | repeated hentities haccessors hnodup hearlier hsame =>
      exact (read_of_lists hentities haccessors).trans
        (Snapshot.distinct_eq_error_iff.2 ⟨_, _, _, _, rfl, hnodup, hearlier, hsame, rfl⟩)

end Description

/-! ## Messages -/

namespace SchemaFault

/-- What a message on a fault of a description names: the list, the item with its name if it has
one, or the two entities of one shape. -/
def subject : SchemaFault → Text
  | .notList list _ => list.key
  | .itemNotObject list index | .missingName list index => itemText list index
  | .invalidType index name _ => itemText .entities index ++ (" (" : Text) ++ name
  | .missingElementType index name => itemText .accessors index ++ (" (" : Text) ++ name
  | .repeatedShape earlier later =>
    ("Entity " : Text) ++ later.quote ++ (" duplicates the shape of " : Text) ++ earlier.quote
  | .notObject => "Schema description"
  | _ => []

/-- **A message starts with what it names.** -/
theorem subject_isPrefix_message (fault : SchemaFault) : fault.subject <+: fault.message := by
  cases fault with
  | notList | itemNotObject | missingName | invalidType | missingElementType =>
    simp only [subject, message, List.append_assoc, List.prefix_append_right_inj,
      List.prefix_append]
  | repeatedShape => exact List.prefix_rfl
  | notObject => decide
  | noRegistry | notClass | unresolved => exact List.nil_prefix

end SchemaFault

end QueryScaffold
