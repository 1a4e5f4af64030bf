import QueryScaffold.Json.Value
import QueryScaffold.Number.Shortest
import QueryScaffold.Text.Quoted

/-!
# JSON values in messages

* `Json.display`: the form in which a message shows a value: quoted texts, `[…]` for an array,
  `{…}` for an object, and the words `True`, `False` and `None`.
-/

namespace QueryScaffold

namespace Json

mutual

/-- The form of a value in a message. -/
def display : Json → Text
  | .null => "None"
  | .bool b => if b then "True" else "False"
  | .int n => Text.ofInt n
  | .float x => x.text
  | .string s => s.quote
  | .array items => ("[" : Text) ++ displayItems items ++ ("]" : Text)
  | .object entries => ("\x7b" : Text) ++ displayEntries entries ++ ("\x7d" : Text)

/-- The forms of the items of an array, separated by commas. -/
def displayItems : List Json → Text
  | [] => []
  | [item] => display item
  | item :: rest => display item ++ (", " : Text) ++ displayItems rest

/-- The forms of the entries of an object, separated by commas. -/
def displayEntries : List (Text × Json) → Text
  | [] => []
  | [(key, value)] => key.quote ++ (": " : Text) ++ display value
  | (key, value) :: rest =>
    key.quote ++ (": " : Text) ++ display value ++ (", " : Text) ++ displayEntries rest

end

end Json

end QueryScaffold
