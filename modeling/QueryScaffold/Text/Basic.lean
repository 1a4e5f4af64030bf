/-!
# Text

A JSON string may hold half of a surrogate pair, and the names of a schema file travel through the
whole generator. Text is therefore a list of Unicode code points, surrogates included.

* `CodePoint` and `Text`, with string literals read as text;
* `CodePoint.toChar?`, defined exactly off the surrogates;
* `Text.le`, the order of code points;
* joining, splitting and the decimal form of a number.
-/

namespace QueryScaffold

/-- A Unicode code point. Unlike a `Char` it may be half of a surrogate pair. -/
structure CodePoint where
  /-- The number of the code point. -/
  value : Nat
  value_lt : value < 0x110000
deriving DecidableEq

namespace CodePoint

theorem value_ofChar_lt (c : Char) : c.toNat < 0x110000 := by
  rcases c.valid with h | h
  · exact Nat.lt_trans h (by decide)
  · exact h.2

/-- The code point of a character. -/
def ofChar (c : Char) : CodePoint :=
  ⟨c.toNat, value_ofChar_lt c⟩

instance : Coe Char CodePoint := ⟨ofChar⟩

instance : Inhabited CodePoint := ⟨ofChar ' '⟩

/-- Half of a surrogate pair. -/
def isSurrogate (c : CodePoint) : Bool :=
  0xD800 ≤ c.value && c.value ≤ 0xDFFF

/-- The character with this number; a surrogate has none. -/
def toChar? (c : CodePoint) : Option Char :=
  if h : c.value.isValidChar then some (Char.ofNatAux c.value h) else none

/-- The character with this number, or the replacement character for a surrogate. -/
def toCharLossy (c : CodePoint) : Char :=
  c.toChar?.getD '\uFFFD'

/-- An ASCII letter or the underscore. -/
def isWordStart (c : CodePoint) : Bool :=
  (65 ≤ c.value && c.value ≤ 90) || (97 ≤ c.value && c.value ≤ 122) || c.value = 95

/-- An ASCII letter, an ASCII digit or the underscore. -/
def isWord (c : CodePoint) : Bool :=
  c.isWordStart || (48 ≤ c.value && c.value ≤ 57)

@[simp]
theorem value_ofChar (c : Char) : (ofChar c).value = c.toNat := rfl

theorem ext_value {a b : CodePoint} (h : a.value = b.value) : a = b := by
  cases a; cases b; simp_all

end CodePoint

/-- Text: a sequence of code points. -/
abbrev Text := List CodePoint

namespace Text

/-- The text of a string. -/
def ofString (s : String) : Text :=
  s.toList.map CodePoint.ofChar

instance : Coe String Text := ⟨ofString⟩

/-- The string of a text, with a replacement character for each surrogate. -/
def toStringLossy (t : Text) : String :=
  String.ofList (t.map CodePoint.toCharLossy)

/-- Lexicographic order by code point. -/
def le : Text → Text → Bool
  | [], _ => true
  | _ :: _, [] => false
  | a :: s, b :: t => a.value < b.value || (a.value == b.value && le s t)

/-- Some code point is half of a surrogate pair. -/
def hasSurrogate (t : Text) : Bool :=
  t.any CodePoint.isSurrogate

/-- The parts with a code point added at the front of the first one. -/
def extendFirst (c : CodePoint) : List Text → List Text
  | [] => [[c]]
  | part :: parts => (c :: part) :: parts

/-- The parts between the occurrences of a separator; there is always at least one. -/
def split (separator : CodePoint) : Text → List Text
  | [] => [[]]
  | c :: rest =>
    if c = separator then [] :: split separator rest else extendFirst c (split separator rest)

/-- The text before and after the first occurrence of a separator. -/
def cut? (separator : CodePoint) : Text → Option (Text × Text)
  | [] => none
  | c :: rest =>
    if c = separator then some ([], rest)
    else (cut? separator rest).map fun (before, after) => (c :: before, after)

/-- The texts one after the other, with a separator between neighbours. -/
def joined (separator : Text) : List Text → Text
  | [] => []
  | [t] => t
  | t :: rest => t ++ separator ++ joined separator rest

/-- The decimal digits of a natural number. -/
def ofNat (n : Nat) : Text :=
  (Nat.toDigits 10 n).map CodePoint.ofChar

/-- The decimal digits of an integer, after a minus sign if it is negative. -/
def ofInt (n : Int) : Text :=
  if n < 0 then CodePoint.ofChar '-' :: ofNat n.natAbs else ofNat n.natAbs

@[simp]
theorem joined_nil (separator : Text) : joined separator [] = [] := rfl

@[simp]
theorem joined_singleton (separator t : Text) : joined separator [t] = t := rfl

theorem joined_cons_cons (separator t u : Text) (rest : List Text) :
    joined separator (t :: u :: rest) = t ++ separator ++ joined separator (u :: rest) := rfl

theorem extendFirst_ne_nil (c : CodePoint) (parts : List Text) : extendFirst c parts ≠ [] := by
  cases parts <;> simp [extendFirst]

theorem split_ne_nil (separator : CodePoint) (t : Text) : split separator t ≠ [] := by
  cases t with
  | nil => simp [split]
  | cons c rest =>
    rw [split]
    split
    · simp
    · exact extendFirst_ne_nil c _

theorem joined_extendFirst (separator : Text) (c : CodePoint) (parts : List Text)
    (h : parts ≠ []) :
    joined separator (extendFirst c parts) = c :: joined separator parts := by
  match parts, h with
  | [t], _ => rfl
  | t :: u :: rest, _ => rfl

theorem joined_nil_cons (separator : Text) (parts : List Text) (h : parts ≠ []) :
    joined separator ([] :: parts) = separator ++ joined separator parts := by
  match parts, h with
  | t :: rest, _ => rfl

/-- Joining the parts gives the text back. -/
theorem joined_split (separator : CodePoint) (t : Text) :
    joined [separator] (split separator t) = t := by
  induction t with
  | nil => rfl
  | cons c rest ih =>
    rw [split]
    split
    · next h =>
      rw [joined_nil_cons _ _ (split_ne_nil separator rest), ih, h]
      rfl
    · rw [joined_extendFirst _ _ _ (split_ne_nil separator rest), ih]

theorem length_le_of_mem_extendFirst {c : CodePoint} {parts : List Text} {n : Nat}
    (h : ∀ part ∈ parts, part.length ≤ n) {part : Text} (hp : part ∈ extendFirst c parts) :
    part.length ≤ n + 1 := by
  cases parts with
  | nil =>
    rw [extendFirst, List.mem_singleton] at hp
    simp [hp]
  | cons first rest =>
    rw [extendFirst, List.mem_cons] at hp
    rcases hp with rfl | hp
    · simpa using h first (List.mem_cons_self ..)
    · exact Nat.le_succ_of_le (h part (List.mem_cons_of_mem _ hp))

theorem length_of_cut? {separator : CodePoint} {t before after : Text}
    (h : cut? separator t = some (before, after)) :
    before.length + 1 + after.length = t.length := by
  induction t generalizing before with
  | nil => simp [cut?] at h
  | cons c rest ih =>
    rw [cut?] at h
    split at h
    · obtain ⟨rfl, rfl⟩ := by simpa using h
      simp [Nat.add_comm]
    · cases hc : cut? separator rest with
      | none => simp [hc] at h
      | some pair =>
        obtain ⟨b, a⟩ := pair
        simp only [hc, Option.map_some, Option.some.injEq, Prod.mk.injEq] at h
        obtain ⟨rfl, rfl⟩ := h
        have := ih hc
        simp only [List.length_cons]
        omega

end Text

end QueryScaffold
