import QueryScaffold.Text.Basic

/-!
# Nested brackets

Four kinds of brackets may stand in a text, one inside another but never across each other. `Nested`
is the grammar of such texts; reading a text with a stack of the brackets that are open decides
it.

* `BracketKind`: the four kinds, with `CodePoint.isBracket`;
* `Text.Nested`: the texts whose brackets are nested;
* `Text.openBrackets?`: the brackets that are open after a text;
* `Text.nested_iff`: **the brackets of a text are nested exactly if none is open after it**, and
  none was closed out of turn;
* `Text.Nested.of_noBracket`, `Text.Nested.joined`: texts without brackets, and nested parts in a
  row.
-/

namespace QueryScaffold

/-- A kind of brackets. -/
inductive BracketKind
  | brace
  | round
  | square
  | angle
deriving DecidableEq, Repr

namespace BracketKind

/-- The bracket that opens. -/
def opening : BracketKind → CodePoint
  | .brace => CodePoint.ofChar '\x7b'
  | .round => CodePoint.ofChar '('
  | .square => CodePoint.ofChar '['
  | .angle => CodePoint.ofChar '<'

/-- The bracket that closes. -/
def closing : BracketKind → CodePoint
  | .brace => CodePoint.ofChar '\x7d'
  | .round => CodePoint.ofChar ')'
  | .square => CodePoint.ofChar ']'
  | .angle => CodePoint.ofChar '>'

/-- All kinds of brackets. -/
def all : List BracketKind := [.brace, .round, .square, .angle]

/-- The kind of brackets that a code point opens. -/
def opened? (c : CodePoint) : Option BracketKind :=
  all.find? (·.opening = c)

/-- The kind of brackets that a code point closes. -/
def closed? (c : CodePoint) : Option BracketKind :=
  all.find? (·.closing = c)

theorem opened?_opening (kind : BracketKind) : opened? kind.opening = some kind := by
  cases kind <;> decide

theorem opened?_closing (kind : BracketKind) : opened? kind.closing = none := by
  cases kind <;> decide

theorem closed?_closing (kind : BracketKind) : closed? kind.closing = some kind := by
  cases kind <;> decide

theorem eq_opening_of_opened? {c : CodePoint} {kind : BracketKind} (h : opened? c = some kind) :
    c = kind.opening := by
  have hfound := List.find?_some h
  exact (of_decide_eq_true hfound).symm

theorem eq_closing_of_closed? {c : CodePoint} {kind : BracketKind} (h : closed? c = some kind) :
    c = kind.closing := by
  have hfound := List.find?_some h
  exact (of_decide_eq_true hfound).symm

end BracketKind

/-- The code point opens or closes brackets. -/
def CodePoint.isBracket (c : CodePoint) : Bool :=
  (BracketKind.opened? c).isSome || (BracketKind.closed? c).isSome

namespace Text

/-! ## The grammar -/

/-- The texts whose brackets are nested. -/
inductive Nested : Text → Prop
  | nil : Nested []
  | other {c : CodePoint} : c.isBracket = false → Nested [c]
  | append {s t : Text} : Nested s → Nested t → Nested (s ++ t)
  | enclosed (kind : BracketKind) {t : Text} : Nested t →
      Nested (kind.opening :: t ++ [kind.closing])

/-! ## Reading with a stack -/

/-- The open brackets after a code point, the innermost first; nothing if it closes a bracket that
is not the innermost one. -/
def bracketStep? (stack : List BracketKind) (c : CodePoint) : Option (List BracketKind) :=
  match BracketKind.opened? c with
  | some kind => some (kind :: stack)
  | none =>
    match BracketKind.closed? c with
    | some kind => if stack.head? = some kind then some stack.tail else none
    | none => some stack

/-- The open brackets after a text, from those that are open before it. -/
def openBrackets? (stack : List BracketKind) (t : Text) : Option (List BracketKind) :=
  t.foldlM bracketStep? stack

theorem openBrackets?_append (stack : List BracketKind) (s t : Text) :
    openBrackets? stack (s ++ t) = (openBrackets? stack s).bind (openBrackets? · t) :=
  List.foldlM_append

theorem openBrackets?_cons (stack : List BracketKind) (c : CodePoint) (t : Text) :
    openBrackets? stack (c :: t) = (bracketStep? stack c).bind (openBrackets? · t) :=
  rfl

theorem bracketStep?_of_isBracket {c : CodePoint} (h : c.isBracket = false)
    (stack : List BracketKind) : bracketStep? stack c = some stack := by
  rw [CodePoint.isBracket, Bool.or_eq_false_iff, Option.isSome_eq_false_iff,
    Option.isSome_eq_false_iff, Option.isNone_iff_eq_none, Option.isNone_iff_eq_none] at h
  rw [bracketStep?, h.1, h.2]

theorem bracketStep?_opening (kind : BracketKind) (stack : List BracketKind) :
    bracketStep? stack kind.opening = some (kind :: stack) := by
  rw [bracketStep?, BracketKind.opened?_opening]

theorem bracketStep?_closing (kind : BracketKind) (stack : List BracketKind) :
    bracketStep? (kind :: stack) kind.closing = some stack := by
  rw [bracketStep?, BracketKind.opened?_closing, BracketKind.closed?_closing]
  simp

/-- A nested text leaves the open brackets as they were. -/
theorem openBrackets?_of_nested {t : Text} (h : Nested t) (stack : List BracketKind) :
    openBrackets? stack t = some stack := by
  induction h generalizing stack with
  | nil => rfl
  | other hc => rw [openBrackets?_cons, bracketStep?_of_isBracket hc]; rfl
  | append _ _ hs ht => rw [openBrackets?_append, hs, Option.bind_some, ht]
  | enclosed kind _ ih =>
    rw [List.cons_append, openBrackets?_cons, bracketStep?_opening, Option.bind_some,
      openBrackets?_append, ih, Option.bind_some, openBrackets?_cons, bracketStep?_closing]
    rfl

/-- The text closes these brackets one after the other, with nested texts before and between
them. -/
def Closes : List BracketKind → Text → Prop
  | [], t => Nested t
  | kind :: stack, t => ∃ s u, Nested s ∧ t = s ++ kind.closing :: u ∧ Closes stack u

theorem Closes.prepend {stack : List BracketKind} {s t : Text} (hs : Nested s)
    (h : Closes stack t) : Closes stack (s ++ t) := by
  cases stack with
  | nil => exact hs.append h
  | cons kind stack =>
    obtain ⟨front, rest, hfront, rfl, hrest⟩ := h
    exact ⟨s ++ front, rest, hs.append hfront, by rw [List.append_assoc], hrest⟩

/-- The stack is what the rest of the text still has to close. -/
theorem closes_of_openBrackets? {stack : List BracketKind} {t : Text}
    (h : openBrackets? stack t = some []) : Closes stack t := by
  induction t generalizing stack with
  | nil =>
    obtain rfl : stack = [] := Option.some.inj h
    exact Nested.nil
  | cons c rest ih =>
    rw [openBrackets?_cons] at h
    obtain ⟨next, hstep, hrest⟩ := Option.bind_eq_some_iff.1 h
    have hcloses := ih hrest
    rw [bracketStep?] at hstep
    split at hstep
    · next kind hopened =>
      obtain rfl := Option.some.inj hstep
      obtain ⟨s, u, hs, rfl, hu⟩ := hcloses
      obtain rfl := BracketKind.eq_opening_of_opened? hopened
      have htext : kind.opening :: (s ++ kind.closing :: u) =
          (kind.opening :: s ++ [kind.closing]) ++ u := by simp
      rw [htext]
      exact hu.prepend (hs.enclosed kind)
    · next hopened =>
      split at hstep
      · next kind hclosed =>
        obtain rfl := BracketKind.eq_closing_of_closed? hclosed
        split at hstep
        · next hhead =>
          obtain rfl := Option.some.inj hstep
          cases stack with
          | nil => cases hhead
          | cons first stack =>
            obtain rfl : first = kind := Option.some.inj hhead
            exact ⟨[], rest, .nil, rfl, hcloses⟩
        · cases hstep
      · next hclosed =>
        obtain rfl := Option.some.inj hstep
        have hc : c.isBracket = false := by simp [CodePoint.isBracket, hopened, hclosed]
        exact hcloses.prepend (.other hc)

/-- **The brackets of a text are nested exactly if none is open after it.** -/
theorem nested_iff {t : Text} : Nested t ↔ openBrackets? [] t = some [] :=
  ⟨fun h => openBrackets?_of_nested h [], closes_of_openBrackets?⟩

instance (t : Text) : Decidable (Nested t) := decidable_of_iff _ nested_iff.symm

/-- Brackets of two kinds may stand one inside the other, and not across each other. -/
example : Nested "f(a[i] < b > c)" ∧ ¬Nested "f(a[i)]" := by decide

/-! ## Parts of nested texts -/

namespace Nested

theorem of_noBracket {t : Text} (h : ∀ c ∈ t, c.isBracket = false) : Nested t := by
  induction t with
  | nil => exact nil
  | cons c rest ih =>
    exact (other (h c (by simp))).append (ih fun d hd => h d (List.mem_cons_of_mem _ hd))

theorem joined {separator : Text} (hs : Nested separator) {parts : List Text}
    (h : ∀ part ∈ parts, Nested part) : Nested (joined separator parts) := by
  induction parts with
  | nil => exact nil
  | cons part rest ih =>
    cases rest with
    | nil => exact h part (by simp)
    | cons next rest =>
      rw [joined_cons_cons]
      exact ((h part (by simp)).append hs).append
        (ih fun p hp => h p (List.mem_cons_of_mem _ hp))

end Nested

end Text

end QueryScaffold
