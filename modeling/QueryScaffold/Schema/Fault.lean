import QueryScaffold.Json.Display

/-!
# Schemas that cannot be read

* `SchemaFault`: what is wrong with a schema;
* `SchemaFault.message`: the same in words.
-/

namespace QueryScaffold

/-- The two lists of a schema description. -/
inductive DescriptionList
  | entities
  | accessors
deriving DecidableEq, Repr

namespace DescriptionList

/-- The key of the list, which also names it in messages. -/
def key : DescriptionList → Text
  | .entities => "entities"
  | .accessors => "accessors"

end DescriptionList

/-- What is wrong with a schema. -/
inductive SchemaFault
  /-- The description is no JSON object. -/
  | notObject
  /-- A list of the description is a value of another kind. -/
  | notList (list : DescriptionList) (kind : Text)
  | itemNotObject (list : DescriptionList) (index : Nat)
  | missingName (list : DescriptionList) (index : Nat)
  /-- An entity has a type that is no name. -/
  | invalidType (index : Nat) (name : Text) (type : Json)
  /-- An accessor has no element type. -/
  | missingElementType (index : Nat) (name : Text)
  /-- Two entities have one shape. -/
  | repeatedShape (earlier later : Text)
  /-- The container has no registry of entity types. -/
  | noRegistry (container : Text)
  /-- The registry holds something that is no class. -/
  | notClass (display : Text)
  /-- An annotation of the container uses a name that has no value, as a notice says. -/
  | unresolved (container notice : Text)

namespace SchemaFault

/-- An item of a list, as messages name it. -/
def itemText (list : DescriptionList) (index : Nat) : Text :=
  list.key ++ ("[" : Text) ++ Text.ofNat index ++ ("]" : Text)

/-- The fault in words. -/
def message : SchemaFault → Text
  | .notObject => "Schema description must be an object"
  | .notList list kind => list.key ++ (" must be a list, got " : Text) ++ kind
  | .itemNotObject list index => itemText list index ++ (" must be an object" : Text)
  | .missingName list index => itemText list index ++ (" is missing a name" : Text)
  | .invalidType index name type =>
    itemText .entities index ++ (" (" : Text) ++ name ++ (") has an invalid type: " : Text) ++
      type.display
  | .missingElementType index name =>
    itemText .accessors index ++ (" (" : Text) ++ name ++ (") is missing an elementType" : Text)
  | .repeatedShape earlier later =>
    ("Entity " : Text) ++ later.quote ++ (" duplicates the shape of " : Text) ++ earlier.quote
  | .noRegistry container => container ++ (" has no entity_types registry" : Text)
  | .notClass display => ("entity_types contains a non-class entry: " : Text) ++ display
  | .unresolved container notice =>
    ("Cannot resolve annotations of " : Text) ++ container ++ (": " : Text) ++ notice

end SchemaFault

end QueryScaffold
