import QueryScaffold.Schema.Basic
import QueryScaffold.Text.Blank

/-!
# Schema descriptions

A schema can be described as a JSON object with a list of entities and a list of accessors, where
shapes are type names:

    {"entities": [{"name": "Customer", "type": "Shop.Customer"}],
     "accessors": [{"name": "Customers", "elementType": "Shop.Customer"}]}

* `Description`: the entries of such an object, and `Description.ofJson`;
* `Description.entities`, `Description.accessors`: what it lists, or the first fault;
* `Description.snapshot`: the schema that it describes.

A list that is not there is empty, and an entity without a type has its own name as its shape.
-/

namespace QueryScaffold

/-- The description of a schema. -/
structure Description where
  entries : Entries

namespace Description

/-- The description in a JSON value. -/
def ofJson : Json → Except SchemaFault Description
  | .object entries => .ok ⟨entries⟩
  | _ => .error .notObject

/-- The items of a list. -/
def items (description : Description) (list : DescriptionList) : Except SchemaFault (List Json) :=
  match description.entries.get? list.key with
  | none => .ok []
  | some (.array items) => .ok items
  | some value => .error (.notList list value.kindName)

/-- The entries and the name of an item. -/
def named (list : DescriptionList) (index : Nat) (item : Json) :
    Except SchemaFault (Entries × Text) :=
  match item with
  | .object entries =>
    match Entries.get? "name" entries with
    | some (.string name) =>
      if name.isBlank then .error (.missingName list index) else .ok (entries, name)
    | _ => .error (.missingName list index)
  | _ => .error (.itemNotObject list index)

/-- The entity that an item describes. -/
def entity (index : Nat) (item : Json) : Except SchemaFault (Entity Text) :=
  match named .entities index item with
  | .error fault => .error fault
  | .ok (entries, name) =>
    match Entries.get? "type" entries with
    | none | some .null => .ok ⟨name, name⟩
    | some (.string shape) =>
      if shape.isBlank then .error (.invalidType index name (.string shape)) else .ok ⟨name, shape⟩
    | some type => .error (.invalidType index name type)

/-- The accessor that an item describes. -/
def accessor (index : Nat) (item : Json) : Except SchemaFault (Accessor Text) :=
  match named .accessors index item with
  | .error fault => .error fault
  | .ok (entries, name) =>
    match Entries.get? "elementType" entries with
    | some (.string shape) =>
      if shape.isBlank then .error (.missingElementType index name) else .ok ⟨name, shape⟩
    | _ => .error (.missingElementType index name)

/-- What a reader makes of items counted from an index on, up to the first fault. -/
def readFrom {α : Type} (read : Nat → Json → Except SchemaFault α) (index : Nat) :
    List Json → Except SchemaFault (List α)
  | [] => .ok []
  | item :: rest =>
    match read index item with
    | .error fault => .error fault
    | .ok value =>
      match readFrom read (index + 1) rest with
      | .error fault => .error fault
      | .ok values => .ok (value :: values)

/-- The entities of the description. -/
def entities (description : Description) : Except SchemaFault (List (Entity Text)) :=
  match description.items .entities with
  | .error fault => .error fault
  | .ok items => readFrom entity 0 items

/-- The accessors of the description. -/
def accessors (description : Description) : Except SchemaFault (List (Accessor Text)) :=
  match description.items .accessors with
  | .error fault => .error fault
  | .ok items => readFrom accessor 0 items

end Description

/-- The schema that a description describes. -/
def Description.snapshot (description : Description) : Except SchemaFault (Snapshot Text) :=
  match description.entities with
  | .error fault => .error fault
  | .ok entities =>
    match description.accessors with
    | .error fault => .error fault
    | .ok accessors => Snapshot.distinct entities accessors

end QueryScaffold
