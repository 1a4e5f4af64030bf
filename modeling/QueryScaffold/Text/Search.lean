import QueryScaffold.Text.Blank

/-!
# Parts of lists

* `Search.place?`, `Search.lastPlace?`: where a list stands within another one;
* `Search.replaced`: a list with another one in place of a part;
* `Search.cut`, `Search.cutLast`: a list between the occurrences of a part;
* `Text.words`: the words of a text, `Text.lines`: its lines.

Occurrences of a part do not overlap: the search goes on behind each of them.
-/

namespace QueryScaffold

namespace Search

variable {α : Type} [DecidableEq α]

/-- The first place at which a part stands in a list. -/
def place? (part : List α) : List α → Option Nat
  | [] => if part = [] then some 0 else none
  | a :: rest =>
    if part.isPrefixOf (a :: rest) then some 0 else (place? part rest).map (· + 1)

/-- The last place at which a part stands in a list. -/
def lastPlace? (part : List α) : List α → Option Nat
  | [] => if part = [] then some 0 else none
  | a :: rest =>
    match lastPlace? part rest with
    | some place => some (place + 1)
    | none => if part.isPrefixOf (a :: rest) then some 0 else none

/-- The list between the first occurrences of a part that is not empty, so many of them at most. -/
def cut (part : List α) : Nat → List α → List (List α)
  | 0, whole => [whole]
  | limit + 1, whole =>
    match place? part whole with
    | none => [whole]
    | some place => whole.take place :: cut part limit (whole.drop (place + part.length))

/-- The same for the last occurrences. -/
def cutLast (part : List α) (limit : Nat) (whole : List α) : List (List α) :=
  ((cut part.reverse limit whole.reverse).map List.reverse).reverse

/-- The number of occurrences of a part; one without items stands everywhere. -/
def count (part whole : List α) : Nat :=
  if part = [] then whole.length + 1 else (cut part whole.length whole).length - 1

/-- Lists with another one between neighbours. -/
def joined (between : List α) : List (List α) → List α
  | [] => []
  | [part] => part
  | part :: rest => part ++ between ++ joined between rest

/-- A list put before so many of the items, and behind the last one if there is more. -/
def interspersed (between : List α) : Nat → List α → List α
  | 0, whole => whole
  | _ + 1, [] => between
  | limit + 1, a :: rest => between ++ a :: interspersed between limit rest

/-- The list with another one in place of so many occurrences of a part. -/
def replaced (part other : List α) (limit : Nat) (whole : List α) : List α :=
  if part = [] then interspersed other limit whole
  else joined other (cut part limit whole)

example : replaced [1] [2, 3] 1 [0, 1, 1] = [0, 2, 3, 1] ∧ cut [0] 5 [1, 0, 0, 2] = [[1], [], [2]] ∧
    cutLast [0] 1 [1, 0, 0, 2] = [[1, 0], [2]] ∧ count [] [1, 2] = 3 := by
  decide

end Search

namespace Text

/-- The words of a text, with so many cuts at most; what is left behind them is the last word. -/
def words (blank : CodePoint → Bool) : Nat → Text → List Text
  | 0, t =>
    let rest := t.dropWhile blank
    if rest = [] then [] else [rest]
  | limit + 1, t =>
    let rest := t.dropWhile blank
    if rest = [] then []
    else rest.takeWhile (fun c => !blank c) :: words blank limit (rest.dropWhile fun c => !blank c)

/-- The same from the end of the text. -/
def lastWords (blank : CodePoint → Bool) (limit : Nat) (t : Text) : List Text :=
  ((words blank limit t.reverse).map List.reverse).reverse

/-- The code point ends a line. -/
def endsLine (c : CodePoint) : Bool :=
  (10 ≤ c.value && c.value ≤ 13) || (0x1C ≤ c.value && c.value ≤ 0x1E) || c.value = 0x85 ||
    c.value = 0x2028 || c.value = 0x2029

/-- The lines of a text, of which the start of the first one is given; their ends may be kept. -/
def linesFrom (keepsEnds : Bool) (start : Text) : Text → List Text
  | [] => if start = [] then [] else [start]
  | [c] => if endsLine c then [if keepsEnds then start ++ [c] else start] else [start ++ [c]]
  | c :: d :: rest =>
    if c.value = 13 && d.value = 10 then
      (if keepsEnds then start ++ [c, d] else start) :: linesFrom keepsEnds [] rest
    else if endsLine c then
      (if keepsEnds then start ++ [c] else start) :: linesFrom keepsEnds [] (d :: rest)
    else linesFrom keepsEnds (start ++ [c]) (d :: rest)

/-- The lines of a text. -/
def lines (keepsEnds : Bool) (t : Text) : List Text := linesFrom keepsEnds [] t

example : words CodePoint.isSpacing 1 (ofString " a b c ") = [ofString "a", ofString "b c "] ∧
    lines false (ofString "a\r\nb\n") = [ofString "a", ofString "b"] := by
  decide +kernel

end Text

end QueryScaffold
