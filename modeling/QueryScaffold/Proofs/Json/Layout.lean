import QueryScaffold.Proofs.Json.Scalars
import QueryScaffold.Proofs.Text.Newline

/-!
# The tokens of a JSON text

White space may stand before, between and after the tokens of a value, and line endings of any kind
are such white space.

* `Json.LaidOut`: a text of tokens in turn, with white space after each of them, and
  `Json.IsWritten`: such a text of the tokens of a value, with white space before them as well;
* `Json.IsToken`: a token as it is written for a value without doubles, shown for integers and
  strings in `Json.isToken_ofInt` and `Json.isToken_stringToken`;
* `Json.LaidOut.unifyNewlines`: **reading line endings keeps a layout of the same tokens**;
* `Json.isWritten_compact`: what `compact` writes is such a text.
-/

namespace QueryScaffold.Json

/-! ## White space -/

/-- White space. -/
def IsGap (gap : List Char) : Prop :=
  ∀ c ∈ gap, isBlank c = true

theorem isGap_nil : IsGap [] :=
  fun _ hc => absurd hc List.not_mem_nil

theorem IsGap.cons {c : Char} {gap : List Char} (hgap : IsGap gap) (hc : isBlank c = true) :
    IsGap (c :: gap) :=
  List.forall_mem_cons.2 ⟨hc, hgap⟩

/-- A text that is empty or starts with a character that is not white space. -/
def StartsSolid (text : List Char) : Prop :=
  ∀ c ∈ text.head?, isBlank c = false

theorem startsSolid_cons {c : Char} (hc : isBlank c = false) (rest : List Char) :
    StartsSolid (c :: rest) := by
  intro d hd
  exact Option.some.inj hd ▸ hc

theorem skipBlanks_gap {gap rest : List Char} (hgap : IsGap gap) (hrest : StartsSolid rest) :
    skipBlanks (gap ++ rest) = rest := by
  rw [skipBlanks, List.dropWhile_append_of_pos hgap]
  cases rest with
  | nil => rfl
  | cons c rest =>
    have hc : ¬ isBlank c = true := by simp [hrest c rfl]
    exact List.dropWhile_cons_of_neg hc

/-- Line endings in white space are white space again. -/
theorem exists_unifyNewlines_gap {gap rest : List Char} (hgap : IsGap gap)
    (hrest : StartsSolid rest) :
    ∃ read, IsGap read ∧ unifyNewlines (gap ++ rest) = read ++ unifyNewlines rest := by
  have hfeed : isBlank '\n' = true := rfl
  induction gap using unifyNewlines_induction with
  | nil => exact ⟨[], isGap_nil, rfl⟩
  | crlf gap ih =>
    obtain ⟨read, hread, heq⟩ := ih fun c hc => hgap c (by simp [hc])
    refine ⟨'\n' :: read, hread.cons hfeed, ?_⟩
    rw [List.cons_append, List.cons_append, unifyNewlines_crlf, heq, List.cons_append]
  | cr gap hhead ih =>
    obtain ⟨read, hread, heq⟩ := ih fun c hc => hgap c (by simp [hc])
    have hnext : (gap ++ rest).head? ≠ some '\n' := by
      cases gap with
      | nil => exact fun h => absurd (hrest '\n' h) (by decide)
      | cons c gap => exact hhead
    refine ⟨'\n' :: read, hread.cons hfeed, ?_⟩
    rw [List.cons_append, unifyNewlines_cr hnext, heq, List.cons_append]
  | cons c gap hc ih =>
    obtain ⟨hblank, hgap⟩ := List.forall_mem_cons.1 hgap
    obtain ⟨read, hread, heq⟩ := ih hgap
    refine ⟨c :: read, hread.cons hblank, ?_⟩
    rw [List.cons_append, unifyNewlines_cons hc, heq, List.cons_append]

/-! ## Layouts -/

/-- A text of tokens in turn, with white space after each of them. -/
inductive LaidOut : List Text → List Char → Prop
  | nil : LaidOut [] []
  | cons {token : Text} {tokens : List Text} {gap rest : List Char} : IsGap gap →
      LaidOut tokens rest → LaidOut (token :: tokens) (token.chars ++ (gap ++ rest))

/-- The tokens of a value with white space before, between and after them. -/
def IsWritten (value : Json) (text : List Char) : Prop :=
  ∃ gap body, IsGap gap ∧ LaidOut value.tokens body ∧ text = gap ++ body

/-- A token of printable ASCII characters that does not start with white space. -/
structure IsToken (t : Text) : Prop where
  printable : t.PrintableAscii
  solid : ∃ c rest, t.chars = c :: rest ∧ isBlank c = false

theorem IsToken.notMem {t : Text} (h : IsToken t) {d : Char}
    (hd : (CodePoint.ofChar d).isPrintableAscii = false) : d ∉ t.chars := by
  intro hm
  obtain ⟨c, hc, rfl⟩ := List.mem_map.1 hm
  have hbounds := CodePoint.isPrintableAscii_iff.1 (h.printable c hc)
  have hscalar : c.isSurrogate = false := by
    simp only [CodePoint.isSurrogate, Bool.and_eq_false_iff, decide_eq_false_iff_not]
    omega
  have hvalue : CodePoint.ofChar c.toCharLossy = c :=
    CodePoint.ext_value (CodePoint.toNat_toCharLossy hscalar)
  rw [hvalue, h.printable c hc] at hd
  cases hd

namespace LaidOut

variable {tokens : List Text} {text : List Char}

theorem exists_of_cons {token : Text} (h : LaidOut (token :: tokens) text) :
    ∃ gap rest, IsGap gap ∧ LaidOut tokens rest ∧ text = token.chars ++ (gap ++ rest) := by
  cases h with
  | cons hgap hrest => exact ⟨_, _, hgap, hrest, rfl⟩

theorem exists_of_mark {c : Char} (h : LaidOut ([CodePoint.ofChar c] :: tokens) text) :
    ∃ gap rest, IsGap gap ∧ LaidOut tokens rest ∧ text = c :: (gap ++ rest) := by
  obtain ⟨gap, rest, hgap, hrest, rfl⟩ := h.exists_of_cons
  refine ⟨gap, rest, hgap, hrest, ?_⟩
  rw [Text.chars_cons, CodePoint.toCharLossy_ofChar]
  rfl

theorem head?_eq {token : Text} (h : LaidOut (token :: tokens) text) (htoken : IsToken token) :
    text.head? = token.chars.head? := by
  obtain ⟨gap, rest, -, -, rfl⟩ := h.exists_of_cons
  obtain ⟨c, chars, hchars, -⟩ := htoken.solid
  rw [hchars]
  rfl

theorem startsSolid (h : LaidOut tokens text) (htokens : ∀ t ∈ tokens.head?, IsToken t) :
    StartsSolid text := by
  cases tokens with
  | nil =>
    cases h with
    | nil => exact fun c hc => absurd hc (by simp)
  | cons token tokens =>
    have htoken := htokens token rfl
    obtain ⟨c, chars, hchars, hc⟩ := htoken.solid
    intro d hd
    rw [h.head?_eq htoken, hchars] at hd
    exact Option.some.inj hd ▸ hc

theorem length_le (h : LaidOut tokens text) (htokens : ∀ t ∈ tokens, IsToken t) :
    tokens.length ≤ text.length := by
  induction h with
  | nil => exact Nat.le_refl 0
  | cons hgap hrest ih =>
    obtain ⟨htoken, htokens⟩ := List.forall_mem_cons.1 htokens
    obtain ⟨c, chars, hchars, -⟩ := htoken.solid
    have hlength := ih htokens
    simp only [hchars, List.length_append, List.length_cons]
    omega

theorem notMem (h : LaidOut tokens text) (htokens : ∀ t ∈ tokens, IsToken t) {d : Char}
    (hblank : isBlank d = false) (hd : (CodePoint.ofChar d).isPrintableAscii = false) :
    d ∉ text := by
  induction h with
  | nil => exact List.not_mem_nil
  | @cons token tokens gap rest hgap hrest ih =>
    obtain ⟨htoken, htokens⟩ := List.forall_mem_cons.1 htokens
    have hnotToken : d ∉ token.chars := htoken.notMem hd
    have hnotGap : d ∉ gap := fun hm => absurd (hgap d hm) (by simp [hblank])
    simp [hnotToken, hnotGap, ih htokens]

/-- **Reading line endings keeps a layout of the same tokens.** -/
theorem unifyNewlines (h : LaidOut tokens text) (htokens : ∀ t ∈ tokens, IsToken t) :
    LaidOut tokens (unifyNewlines text) := by
  induction h with
  | nil => exact .nil
  | cons hgap hrest ih =>
    obtain ⟨htoken, htokens⟩ := List.forall_mem_cons.1 htokens
    have hsolid := hrest.startsSolid fun t ht => htokens t (List.mem_of_mem_head? ht)
    obtain ⟨read, hread, heq⟩ := exists_unifyNewlines_gap hgap hsolid
    rw [unifyNewlines_append (htoken.notMem (by decide)), heq]
    exact .cons hread (ih htokens)

end LaidOut

/-- A space after each comma and colon is such white space. -/
theorem isWritten_compact (value : Json) : IsWritten value value.compact.chars := by
  have hlaid (tokens : List Text) : LaidOut tokens (Text.chars (tokens.flatMap fun token =>
      if token = (("," : Text)) ∨ token = ((":" : Text)) then token ++ (" " : Text) else token)) := by
    induction tokens with
    | nil => exact .nil
    | cons token tokens ih =>
      rw [List.flatMap_cons, Text.chars_append]
      split
      · have hspace : IsGap [' '] := isGap_nil.cons rfl
        rw [Text.chars_append, List.append_assoc]
        exact .cons hspace ih
      · exact .cons isGap_nil ih
  exact ⟨[], _, isGap_nil, hlaid value.tokens, rfl⟩

/-! ## The tokens of values -/

theorem printableAscii_digits {digits : List Char} (h : ∀ c ∈ digits, c.isDigit = true) :
    Text.PrintableAscii (digits.map CodePoint.ofChar) := by
  refine List.forall_mem_map.2 fun c hc => ?_
  have hdigit : 48 ≤ c.toNat ∧ c.toNat ≤ 57 := by
    simpa [Char.isDigit, UInt32.le_iff_toNat_le] using h c hc
  rw [CodePoint.isPrintableAscii_iff, CodePoint.value_ofChar]
  omega

theorem isToken_ofInt (n : Int) : IsToken (Text.ofInt n) where
  printable := by
    have hdigits : (Text.ofNat n.natAbs).PrintableAscii :=
      printableAscii_digits fun c hc => isDigit_of_mem_toDigits hc
    rw [Text.ofInt]
    split
    · exact List.forall_mem_cons.2 ⟨by decide, hdigits⟩
    · exact hdigits
  solid := by
    obtain ⟨c, chars, hchars, hc⟩ := exists_chars_ofInt n
    refine ⟨c, chars, hchars, ?_⟩
    rcases hc with rfl | hc
    · rfl
    · exact isBlank_of_isDigit hc

theorem printableAscii_unitEscape {n : Nat} (h : n < 0x10000) :
    (unitEscape n).PrintableAscii := by
  have hdigit : ∀ d < 16, (CodePoint.ofChar (Nat.digitChar d)).isPrintableAscii = true := by
    decide
  have hdigits : Text.PrintableAscii ((unitDigits n).map CodePoint.ofChar) := by
    simp only [unitDigits, Text.PrintableAscii, List.forall_mem_map, List.forall_mem_cons]
    refine ⟨hdigit _ ?_, hdigit _ ?_, hdigit _ ?_, hdigit _ ?_, by simp⟩ <;> omega
  rw [unitEscape, hexadecimal_four h]
  exact .append (by decide) hdigits

theorem printableAscii_escapePoint (c : CodePoint) : (escapePoint c).PrintableAscii := by
  have hlt := c.value_lt
  unfold escapePoint
  split
  · decide
  split
  · decide
  split
  · decide
  split
  · decide
  split
  · decide
  split
  · decide
  split
  · decide
  split
  · next hplain =>
    have hc : c.isPrintableAscii = true := CodePoint.isPrintableAscii_iff.2 (by omega)
    exact List.forall_mem_cons.2 ⟨hc, by simp⟩
  split
  · next h => exact printableAscii_unitEscape h
  · exact .append (printableAscii_unitEscape (by omega)) (printableAscii_unitEscape (by omega))

theorem isToken_stringToken (s : Text) : IsToken (stringToken s) where
  printable := by
    have hinside : Text.PrintableAscii (s.flatMap escapePoint) := by
      intro d hd
      obtain ⟨c, -, hd⟩ := List.mem_flatMap.1 hd
      exact printableAscii_escapePoint c d hd
    have hopening : Text.PrintableAscii [CodePoint.ofChar '"'] := by decide
    exact (hopening.append hinside).append (by decide)
  solid := ⟨'"', _, rfl, rfl⟩

end QueryScaffold.Json
