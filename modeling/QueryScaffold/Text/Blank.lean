import QueryScaffold.Text.Basic

/-!
# Blank text

Two sets of white space are in use: settings are trimmed with Unicode's `White_Space` property, and
the names in a schema also count the four information separators as blank.

* `CodePoint.isWhiteSpace`, `CodePoint.isSpacing`: the two sets;
* `Text.trim`, which removes a set from both ends;
* `Text.isBlank`, which holds when nothing else is there.
-/

namespace QueryScaffold

namespace CodePoint

/-- Unicode's `White_Space` property. -/
def isWhiteSpace (c : CodePoint) : Bool :=
  let n := c.value
  (9 ≤ n && n ≤ 13) || n = 0x20 || n = 0x85 || n = 0xA0 || n = 0x1680 ||
    (0x2000 ≤ n && n ≤ 0x200A) || n = 0x2028 || n = 0x2029 || n = 0x202F || n = 0x205F ||
    n = 0x3000

/-- White space, or one of the information separators U+001C to U+001F. -/
def isSpacing (c : CodePoint) : Bool :=
  c.isWhiteSpace || (0x1C ≤ c.value && c.value ≤ 0x1F)

/-- Every white space character of the core library is white space here. -/
theorem isWhiteSpace_ofChar {c : Char} (h : c.isWhitespace) : (ofChar c).isWhiteSpace := by
  simp only [Char.isWhitespace, Bool.or_eq_true, decide_eq_true_eq] at h
  rcases h with ((rfl | rfl) | rfl) | rfl <;> rfl

theorem isSpacing_of_isWhiteSpace {c : CodePoint} (h : c.isWhiteSpace) : c.isSpacing := by
  simp [isSpacing, h]

end CodePoint

namespace Text

/-- The text without the code points of a set at its two ends. -/
def trim (set : CodePoint → Bool) (t : Text) : Text :=
  ((t.dropWhile set).reverse.dropWhile set).reverse

/-- Nothing but spacing. -/
def isBlank (t : Text) : Bool :=
  t.all CodePoint.isSpacing

theorem length_dropWhile_le (set : CodePoint → Bool) (t : Text) :
    (t.dropWhile set).length ≤ t.length := by
  induction t with
  | nil => simp
  | cons c rest ih =>
    rw [List.dropWhile_cons]
    split
    · exact Nat.le_succ_of_le ih
    · exact Nat.le_refl _

theorem length_trim_le (set : CodePoint → Bool) (t : Text) :
    (t.trim set).length ≤ t.length := by
  rw [trim, List.length_reverse]
  refine Nat.le_trans (length_dropWhile_le _ _) ?_
  rw [List.length_reverse]
  exact length_dropWhile_le _ _

end Text

end QueryScaffold
