import QueryScaffold.Number.Binary64
import QueryScaffold.Text.Basic

/-!
# JSON values

* `Json`: a value; an object keeps its entries in order;
* `Json.string?`, `Json.entries`, `Json.items`: what is in a string, an object or an array;
* `Entries`: the entries of an object, `Entries.get?` and `Entries.insert`.

`Entries.insert` keeps an object's keys distinct: a key that is there keeps its place and takes the
new value, and any other key goes to the end.
-/

namespace QueryScaffold

/-- A JSON value. -/
inductive Json
  | null
  | bool (b : Bool)
  | int (n : Int)
  | float (x : Binary64)
  | string (s : Text)
  | array (items : List Json)
  | object (entries : List (Text × Json))

instance : Inhabited Json := ⟨.null⟩

/-- The entries of an object, in order. -/
abbrev Entries := List (Text × Json)

namespace Json

/-- The text of a string. -/
def string? : Json → Option Text
  | .string s => some s
  | _ => none

/-- The entries of an object; other values have none. -/
def entries : Json → Entries
  | .object entries => entries
  | _ => []

/-- The items of an array; other values have none. -/
def items : Json → List Json
  | .array items => items
  | _ => []

end Json

namespace Entries

/-- The value under a key. -/
def get? (key : Text) : Entries → Option Json
  | [] => none
  | (k, v) :: rest => if k = key then some v else get? key rest

/-- The entries with this value under this key. -/
def insert (key : Text) (value : Json) : Entries → Entries
  | [] => [(key, value)]
  | (k, v) :: rest => if k = key then (k, value) :: rest else (k, v) :: insert key value rest

/-- The entries with each of the given ones inserted in turn. -/
def update (entries additions : Entries) : Entries :=
  additions.foldl (fun acc (k, v) => insert k v acc) entries

@[simp]
theorem get?_insert_self (key : Text) (value : Json) (entries : Entries) :
    get? key (insert key value entries) = some value := by
  induction entries with
  | nil => simp [insert, get?]
  | cons entry rest ih =>
    obtain ⟨k, v⟩ := entry
    by_cases h : k = key <;> simp [insert, get?, h, ih]

theorem get?_insert_of_ne {key other : Text} (h : other ≠ key) (value : Json) (entries : Entries) :
    get? other (insert key value entries) = get? other entries := by
  induction entries with
  | nil => simp [insert, get?, h.symm]
  | cons entry rest ih =>
    obtain ⟨k, v⟩ := entry
    by_cases hk : k = key
    · subst hk
      simp [insert, get?, h.symm]
    · by_cases ho : k = other <;> simp [insert, get?, hk, ho, ih, h]

end Entries

namespace Json

/-- The name of the kind of a value, as messages give it. -/
def kindName : Json → Text
  | .null => "NoneType"
  | .bool _ => "bool"
  | .int _ => "int"
  | .float _ => "float"
  | .string _ => "str"
  | .array _ => "list"
  | .object _ => "dict"

end Json

end QueryScaffold
