import QueryScaffold.Json.Reader
import QueryScaffold.Json.Writer
import QueryScaffold.Proofs.Source.Characters
import QueryScaffold.Proofs.Text.Utf8

/-!
# Strings and numbers in JSON

What is written for a code point or for an integer is read back, whatever the text after it.

* `Json.EscapeForm`: the ways to write a code point inside a string, and
  `Json.EscapeForm.readString_eq`: each of them is read as the code point;
* `Json.readString_stringToken`: **a string without surrogates is read back**;
* `Json.readPlain_ofInt`: **an integer is read back** where no character after it goes on with it.
-/

namespace QueryScaffold.Json

/-! ## Hexadecimal digits -/

theorem hexDigit?_digitChar : ∀ d < 16, hexDigit? (Nat.digitChar d) = some d := by
  decide

/-- The digits of a 16-bit unit. -/
def unitDigits (n : Nat) : List Char :=
  [(n / 0x1000).digitChar, (n / 0x100 % 0x10).digitChar, (n / 0x10 % 0x10).digitChar,
    (n % 0x10).digitChar]

/-- A number of fewer digits is filled up with zeros. -/
theorem hexadecimal_four {n : Nat} (h : n < 0x10000) :
    hexadecimal 4 n = (unitDigits n).map CodePoint.ofChar := by
  have hstep {m : Nat} (hm : 16 ≤ m) :
      Nat.toDigits 16 m = Nat.toDigits 16 (m / 16) ++ [(m % 16).digitChar] :=
    Nat.toDigits_of_base_le (by decide) hm
  have hlast {m : Nat} (hm : m < 16) : Nat.toDigits 16 m = [m.digitChar] :=
    Nat.toDigits_of_lt_base hm
  have hzero {m : Nat} (hm : m = 0) : m.digitChar = '0' := hm ▸ rfl
  have h2 : n / 16 / 16 = n / 0x100 := Nat.div_div_eq_div_mul n 16 16
  have h3 : n / 0x100 / 16 = n / 0x1000 := Nat.div_div_eq_div_mul n 0x100 16
  unfold hexadecimal unitDigits
  rcases Nat.lt_or_ge n 0x10 with h1 | h1
  · rw [hlast h1, hzero (show n / 0x1000 = 0 by omega), hzero (show n / 0x100 % 0x10 = 0 by omega),
      hzero (show n / 0x10 % 0x10 = 0 by omega), Nat.mod_eq_of_lt h1]
    rfl
  rcases Nat.lt_or_ge n 0x100 with h1 | h1
  · rw [hstep (by omega), hlast (show n / 16 < 16 by omega), hzero (show n / 0x1000 = 0 by omega),
      hzero (show n / 0x100 % 0x10 = 0 by omega), Nat.mod_eq_of_lt (show n / 0x10 < 0x10 by omega)]
    rfl
  rcases Nat.lt_or_ge n 0x1000 with h1 | h1
  · rw [hstep (by omega), hstep (show 16 ≤ n / 16 by omega), h2,
      hlast (show n / 0x100 < 16 by omega), hzero (show n / 0x1000 = 0 by omega),
      Nat.mod_eq_of_lt (show n / 0x100 < 0x10 by omega)]
    rfl
  · rw [hstep (by omega), hstep (show 16 ≤ n / 16 by omega), h2,
      hstep (show 16 ≤ n / 0x100 by omega), h3, hlast (show n / 0x1000 < 16 by omega)]
    rfl

theorem hexUnit?_unitDigits {n : Nat} (h : n < 0x10000) :
    hexUnit? (n / 0x1000).digitChar (n / 0x100 % 0x10).digitChar (n / 0x10 % 0x10).digitChar
      (n % 0x10).digitChar = some ⟨n, h⟩ := by
  have hvalue :
      ((n / 0x1000 * 16 + n / 0x100 % 0x10) * 16 + n / 0x10 % 0x10) * 16 + n % 0x10 = n := by
    omega
  rw [hexUnit?, hexDigit?_digitChar _ (by omega), hexDigit?_digitChar _ (by omega),
    hexDigit?_digitChar _ (by omega), hexDigit?_digitChar _ (by omega)]
  simp only [hvalue, Option.some.injEq]
  exact Fin.ext (Nat.mod_eq_of_lt h)

/-! ## Escapes -/

/-- The characters of a 16-bit unit as an escape. -/
def unitChars (n : Nat) : List Char :=
  '\\' :: 'u' :: unitDigits n

theorem chars_unitEscape {n : Nat} (h : n < 0x10000) : (unitEscape n).chars = unitChars n := by
  have hdigits : Text.chars ((unitDigits n).map CodePoint.ofChar) = unitDigits n := by
    simp [Text.chars, Function.comp_def]
  rw [unitEscape, Text.chars_append, hexadecimal_four h, hdigits]
  rfl

/-- What is written for a code point inside a string. -/
inductive EscapeForm : CodePoint → List Char → Prop
  | short {letter c : Char} : plainEscape? letter = some c →
      EscapeForm (CodePoint.ofChar c) ['\\', letter]
  | plain {c : Char} : c ≠ '"' → c ≠ '\\' → 0x20 ≤ c.toNat → EscapeForm (CodePoint.ofChar c) [c]
  | unit {c : CodePoint} : c.value < 0x10000 → EscapeForm c (unitChars c.value)
  | pair {c : CodePoint} : 0x10000 ≤ c.value →
      EscapeForm c (unitChars (0xD800 + (c.value - 0x10000) / 0x400) ++
        unitChars (0xDC00 + (c.value - 0x10000) % 0x400))

theorem EscapeForm.of_value_eq {c : CodePoint} {d : Char} (letter : Char)
    (hletter : plainEscape? letter = some d) (h : c.value = d.toNat) :
    EscapeForm c ['\\', letter] := by
  obtain rfl : c = CodePoint.ofChar d := CodePoint.ext_value h
  exact .short hletter

theorem escapeForm_escapePoint (c : CodePoint) : EscapeForm c (escapePoint c).chars := by
  have hlt := c.value_lt
  unfold escapePoint
  split
  · next h => exact .of_value_eq '"' rfl (h ▸ rfl)
  split
  · next h => exact .of_value_eq '\\' rfl (h ▸ rfl)
  split
  · next h => exact .of_value_eq 'n' rfl (h ▸ rfl)
  split
  · next h => exact .of_value_eq 'r' rfl (h ▸ rfl)
  split
  · next h => exact .of_value_eq 't' rfl (h ▸ rfl)
  split
  · next h => exact .of_value_eq 'f' rfl h
  split
  · next h => exact .of_value_eq 'b' rfl h
  split
  · next hquote hbackslash _ _ _ _ _ hplain =>
    have hscalar : c.isSurrogate = false := by
      simp only [CodePoint.isSurrogate, Bool.and_eq_false_iff, decide_eq_false_iff_not]
      omega
    obtain ⟨d, rfl⟩ : ∃ d, c = CodePoint.ofChar d :=
      ⟨c.toCharLossy, CodePoint.ext_value (CodePoint.toNat_toCharLossy hscalar).symm⟩
    rw [Text.chars_cons, CodePoint.toCharLossy_ofChar]
    exact .plain (fun h => hquote (h ▸ rfl)) (fun h => hbackslash (h ▸ rfl)) hplain.1
  split
  · next h =>
    rw [chars_unitEscape h]
    exact .unit h
  · next h =>
    rw [Text.chars_append, chars_unitEscape (by omega), chars_unitEscape (by omega)]
    exact .pair (by omega)

/-! ## Reading an escape -/

theorem readUnit_unitDigits {n : Nat} (h : n < 0x10000) (hhigh : isHighHalf ⟨n, h⟩ = false) (x : Char)
    (after : List Char) :
    readUnit (unitDigits n ++ x :: after) = .ok (unitPoint ⟨n, h⟩, 4) := by
  simp only [readUnit, unitDigits, List.cons_append, List.nil_append, hexUnit?_unitDigits h, hhigh]
  rfl

theorem readUnit_pair {high low : Nat} (hhigh : high < 0x10000) (hlow : low < 0x10000)
    (h : isHighHalf ⟨high, hhigh⟩ = true) (h' : isLowHalf ⟨low, hlow⟩ = true) (x : Char)
    (after : List Char) :
    readUnit (unitDigits high ++ unitChars low ++ x :: after) =
      .ok (pairPoint ⟨high, hhigh⟩ ⟨low, hlow⟩, 10) := by
  simp only [readUnit, unitDigits, unitChars, List.cons_append, List.nil_append,
    hexUnit?_unitDigits hhigh, hexUnit?_unitDigits hlow, h, h', if_true]

/-- The characters of an escape that was read are passed over. -/
theorem readString_skip (opening : Nat) (done : Text) (escape rest : List Char) :
    readString opening done escape.length (escape ++ rest) = readString opening done 0 rest := by
  induction escape with
  | nil => rfl
  | cons c escape ih =>
    rw [List.length_cons, List.cons_append, ← ih]
    rfl

theorem readString_escape {opening : Nat} {escape rest : List Char} {c : CodePoint}
    (h : readEscape opening (escape ++ rest) = .ok (c, escape.length)) (done : Text) :
    readString opening done 0 ('\\' :: (escape ++ rest)) = readString opening (c :: done) 0 rest := by
  rw [readString, if_neg (by decide), if_pos rfl, h]
  exact readString_skip opening (c :: done) escape rest

/-- A code point is read from what is written for it, where some character follows. -/
theorem EscapeForm.readString_eq {c : CodePoint} {chars : List Char} (h : EscapeForm c chars)
    (hc : c.isSurrogate = false) (opening : Nat) (done : Text) (x : Char) (rest : List Char) :
    readString opening done 0 (chars ++ x :: rest) =
      readString opening (c :: done) 0 (x :: rest) := by
  have hlt := c.value_lt
  have hscalar : c.value < 0xD800 ∨ 0xDFFF < c.value := by
    simp only [CodePoint.isSurrogate, Bool.and_eq_false_iff, decide_eq_false_iff_not] at hc
    omega
  cases h with
  | @short letter c hletter =>
    have hread : readEscape opening ([letter] ++ x :: rest) = .ok (CodePoint.ofChar c, 1) := by
      rw [List.singleton_append, readEscape, hletter]
      rintro rfl
      cases hletter
    exact readString_escape hread done
  | @plain c hquote hbackslash hbound =>
    rw [List.singleton_append, readString, if_neg hquote, if_neg hbackslash, if_neg (by omega)]
  | unit h =>
    have hhigh : isHighHalf ⟨c.value, h⟩ = false := by
      simp only [isHighHalf, Bool.and_eq_false_iff, decide_eq_false_iff_not]
      omega
    have hread : readEscape opening ('u' :: unitDigits c.value ++ x :: rest) = .ok (c, 5) := by
      rw [List.cons_append, readEscape, readUnit_unitDigits h hhigh]
      rfl
    exact readString_escape hread done
  | pair h =>
    obtain ⟨m, hm⟩ : ∃ m, m = c.value - 0x10000 := ⟨_, rfl⟩
    rw [← hm]
    have hhigh : isHighHalf ⟨0xD800 + m / 0x400, by omega⟩ = true := by
      simp only [isHighHalf, Bool.and_eq_true, decide_eq_true_eq]
      omega
    have hlow : isLowHalf ⟨0xDC00 + m % 0x400, by omega⟩ = true := by
      simp only [isLowHalf, Bool.and_eq_true, decide_eq_true_eq]
      omega
    have hpoint : pairPoint ⟨0xD800 + m / 0x400, by omega⟩ ⟨0xDC00 + m % 0x400, by omega⟩ = c := by
      apply CodePoint.ext_value
      simp only [pairPoint]
      omega
    have hread : readEscape opening ('u' :: unitDigits (0xD800 + m / 0x400) ++
        unitChars (0xDC00 + m % 0x400) ++ x :: rest) = .ok (c, 11) := by
      rw [List.cons_append, List.cons_append, readEscape, readUnit_pair _ _ hhigh hlow, hpoint]
      rfl
    exact readString_escape hread done

/-! ## Strings -/

/-- After each code point the next one or the closing quote follows. -/
theorem readString_flatMap_escapePoint {s : Text} (hs : s.hasSurrogate = false) (opening : Nat)
    (done : Text) (rest : List Char) :
    readString opening done 0 (Text.chars (s.flatMap escapePoint) ++ '"' :: rest) =
      .ok (done.reverse ++ s, rest) := by
  induction s generalizing done with
  | nil => simp [Text.chars, readString]
  | cons c s ih =>
    obtain ⟨hc, hs⟩ : c.isSurrogate = false ∧ Text.hasSurrogate s = false := by
      simpa [Text.hasSurrogate] using hs
    have hform := escapeForm_escapePoint c
    obtain ⟨x, tail, htail⟩ : ∃ x tail,
        Text.chars (s.flatMap escapePoint) ++ '"' :: rest = x :: tail :=
      List.exists_cons_of_ne_nil (by simp)
    rw [List.flatMap_cons, Text.chars_append, List.append_assoc, htail,
      hform.readString_eq hc opening done x tail, ← htail, ih hs, List.reverse_cons,
      List.append_assoc, List.singleton_append]

/-- **A string is read back**, whatever follows it. -/
theorem readString_stringToken {s : Text} (hs : s.hasSurrogate = false) :
    ∃ inside, (stringToken s).chars = '"' :: inside ∧
      ∀ opening rest, readString opening [] 0 (inside ++ rest) = .ok (s, rest) := by
  refine ⟨Text.chars (s.flatMap escapePoint) ++ ['"'], ?_, fun opening rest => ?_⟩
  · rw [stringToken, List.cons_append, Text.chars_cons, Text.chars_append]
    rfl
  · rw [List.append_assoc]
    exact readString_flatMap_escapePoint hs opening [] rest

/-! ## Integers -/

theorem isDigit_of_mem_toDigits {n : Nat} {c : Char} (h : c ∈ Nat.toDigits 10 n) :
    isDigit c = true :=
  Nat.isDigit_of_mem_toDigits (by decide) (by decide) h

theorem isBlank_of_isDigit {c : Char} (h : isDigit c = true) : isBlank c = false := by
  refine eq_false_of_ne_true fun hblank => ?_
  simp only [isBlank, Bool.or_eq_true, decide_eq_true_eq] at hblank
  rcases hblank with ((rfl | rfl) | rfl) | rfl <;> exact absurd h (by decide)

theorem chars_ofNat (n : Nat) : (Text.ofNat n).chars = Nat.toDigits 10 n := by
  simp [Text.ofNat, Text.chars, Function.comp_def]

/-- An integer starts with a minus sign or a digit. -/
theorem exists_chars_ofInt (n : Int) :
    ∃ c chars, (Text.ofInt n).chars = c :: chars ∧ (c = '-' ∨ isDigit c = true) := by
  rw [Text.ofInt]
  split
  · exact ⟨'-', _, rfl, .inl rfl⟩
  · obtain ⟨c, digits, hdigits⟩ : ∃ c digits, Nat.toDigits 10 n.natAbs = c :: digits :=
      List.exists_cons_of_ne_nil Nat.toDigits_ne_nil
    have hc : isDigit c = true := isDigit_of_mem_toDigits (hdigits ▸ List.mem_cons_self)
    exact ⟨c, digits, (chars_ofNat _).trans hdigits, .inr hc⟩

theorem digitsValue_toDigits (n : Nat) : digitsValue (Nat.toDigits 10 n) = n :=
  Nat.ofDigitChars_toDigits (by decide) (by decide)

/-- Only zero is written with a zero in front. -/
theorem exists_toDigits_eq_cons {n : Nat} (h : 0 < n) :
    ∃ c digits, Nat.toDigits 10 n = c :: digits ∧ c ≠ '0' := by
  induction n using Nat.strongRecOn with
  | ind n ih =>
    rcases Nat.lt_or_ge n 10 with hn | hn
    · have hchar : ∀ d < 10, 0 < d → d.digitChar ≠ '0' := by decide
      exact ⟨n.digitChar, [], Nat.toDigits_of_lt_base hn, hchar n hn h⟩
    · obtain ⟨c, digits, hdigits, hc⟩ := ih (n / 10) (by omega) (by omega)
      refine ⟨c, digits ++ [(n % 10).digitChar], ?_, hc⟩
      rw [Nat.toDigits_of_base_le (by decide) hn, hdigits, List.cons_append]

/-- No number goes on with the first character of the text. -/
def EndsNumber (rest : List Char) : Prop :=
  ∀ c ∈ rest.head?, isDigit c = false ∧ c ≠ '.' ∧ c ≠ 'e' ∧ c ≠ 'E'

theorem takeWhile_isDigit_toDigits (n : Nat) {rest : List Char} (hrest : EndsNumber rest) :
    (Nat.toDigits 10 n ++ rest).takeWhile isDigit = Nat.toDigits 10 n ∧
      (Nat.toDigits 10 n ++ rest).dropWhile isDigit = rest := by
  have hdigits : ∀ c ∈ Nat.toDigits 10 n, isDigit c = true := fun c hc =>
    isDigit_of_mem_toDigits hc
  rw [List.takeWhile_append_of_pos hdigits, List.dropWhile_append_of_pos hdigits]
  cases rest with
  | nil => simp
  | cons c rest =>
    have hc : ¬ isDigit c = true := by simp [(hrest c rfl).1]
    rw [List.takeWhile_cons_of_neg hc, List.dropWhile_cons_of_neg hc]
    exact ⟨List.append_nil _, rfl⟩

theorem readWhole?_toDigits (n : Nat) {rest : List Char} (hrest : EndsNumber rest) :
    readWhole? (Nat.toDigits 10 n ++ rest) = some (Nat.toDigits 10 n, rest) := by
  rcases Nat.eq_zero_or_pos n with rfl | hn
  · rfl
  · obtain ⟨c, digits, hdigits, hc⟩ := exists_toDigits_eq_cons hn
    obtain ⟨htake, hdrop⟩ := takeWhile_isDigit_toDigits n hrest
    rw [hdigits, List.cons_append] at htake hdrop ⊢
    rw [readWhole?, htake, hdrop]
    intro rest h
    exact hc (List.cons.inj h).1

theorem readFraction_of_endsNumber {rest : List Char} (h : EndsNumber rest) :
    readFraction rest = ([], rest) := by
  rw [readFraction]
  rintro tail rfl
  exact (h '.' rfl).2.1 rfl

theorem readExponent_of_endsNumber {rest : List Char} (h : EndsNumber rest) :
    readExponent rest = (none, rest) := by
  cases rest with
  | nil => rfl
  | cons c rest =>
    obtain ⟨-, -, hlower, hupper⟩ := h c rfl
    simp [readExponent, hlower, hupper]

theorem readNumber?_toDigits {n : Nat} (hn : (Nat.toDigits 10 n).length ≤ maxDigits)
    {rest : List Char} (hrest : EndsNumber rest) (negative : Bool) :
    readNumber? negative (Nat.toDigits 10 n ++ rest) =
      some (.ok (.int (if negative then -n else n), rest)) := by
  simp only [readNumber?, readWhole?_toDigits n hrest, Option.map_some,
    readFraction_of_endsNumber hrest, readExponent_of_endsNumber hrest, digitsValue_toDigits]
  rw [if_neg (Nat.not_lt.2 hn)]

/-- A text that starts with a digit is read as a number. -/
theorem readPlain_digit {c : Char} (hc : isDigit c = true) (rest : List Char) :
    readPlain (c :: rest) =
      (readNumber? false (c :: rest)).getD (.error (.malformed .noValue (c :: rest).length)) := by
  have hne {d : Char} (hd : isDigit d = false) : c ≠ d := by
    rintro rfl
    exact absurd hc (by simp [hd])
  rw [readPlain]
  all_goals
    rintro tail h
    exact hne (by decide) (List.cons.inj h).1

/-- **An integer is read back** where no number goes on after it. -/
theorem readPlain_ofInt {n : Int} (hn : (Text.ofNat n.natAbs).length ≤ maxDigits)
    {rest : List Char} (hrest : EndsNumber rest) :
    readPlain ((Text.ofInt n).chars ++ rest) = .ok (.int n, rest) := by
  have hlength : (Nat.toDigits 10 n.natAbs).length ≤ maxDigits := by
    simpa [Text.ofNat] using hn
  obtain ⟨c, digits, hdigits⟩ : ∃ c digits, Nat.toDigits 10 n.natAbs = c :: digits :=
    List.exists_cons_of_ne_nil Nat.toDigits_ne_nil
  have hc : isDigit c = true := isDigit_of_mem_toDigits (hdigits ▸ List.mem_cons_self)
  have hread := readNumber?_toDigits hlength hrest
  rw [hdigits, List.cons_append] at hread
  rw [Text.ofInt]
  split
  · next hneg =>
    have hvalue : -(n.natAbs : Int) = n := by omega
    rw [Text.chars_cons, chars_ofNat, hdigits, CodePoint.toCharLossy_ofChar, List.cons_append,
      List.cons_append, readPlain, hread, if_pos rfl, hvalue]
    · rfl
    · -- No infinity begins with a digit.
      rintro tail h
      obtain ⟨rfl, -⟩ := List.cons.inj h
      exact absurd hc (by decide)
  · next hneg =>
    have hvalue : (n.natAbs : Int) = n := by omega
    rw [chars_ofNat, hdigits, List.cons_append, readPlain_digit hc, hread, if_neg (by decide), hvalue]
    rfl

end QueryScaffold.Json
