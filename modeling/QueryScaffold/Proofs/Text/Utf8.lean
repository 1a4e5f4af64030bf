import Mathlib.Data.List.Basic
import QueryScaffold.Text.Utf8

/-!
# Reading UTF-8

A reader of UTF-8 looks at what stands at the head of its bytes. There it finds a character exactly
if the bytes begin with those of the character, so that bytes are read as a text in one way at most,
and refused only if no text has them.

* `Text.chars`: the characters of a text;
* `Utf8Form`: the bytes of a code point number;
* `Utf8Form.utf8Head_eq`, `utf8Form_of_utf8Head`: the bytes of a character at the head, in both
  directions;
* `decodeUtf8_eq_ok_iff`: **bytes are read as the characters whose bytes they are**;
* `decodeUtf8_of_utf8?`, `exists_of_decodeUtf8`: a text is read back from its bytes, and what is read
  is a text with these bytes;
* `decodeUtf8_eq_error_iff`: **bytes are refused exactly if no text has them**.
-/

namespace QueryScaffold

/-! ## Bytes -/

theorem toNat_toUInt8 {n : Nat} (h : n < 256) : n.toUInt8.toNat = n := by
  simp only [Nat.toUInt8, UInt8.toNat_ofNat']
  omega

theorem toUInt8_eq {n : Nat} {b : UInt8} (h : n = b.toNat) : n.toUInt8 = b := by
  rw [h, Nat.toUInt8, UInt8.ofNat_toNat]

theorem isContinuation_iff {b : UInt8} :
    isContinuation b ↔ 0x80 ≤ b.toNat ∧ b.toNat ≤ 0xBF := by
  simp [isContinuation, UInt8.le_iff_toNat_le]

theorem fitsLead_iff {lead b : UInt8} :
    fitsLead lead b ↔ isContinuation b ∧
      (lead.toNat = 0xE0 → 0xA0 ≤ b.toNat) ∧ (lead.toNat = 0xED → b.toNat < 0xA0) ∧
      (lead.toNat = 0xF0 → 0x90 ≤ b.toNat) ∧ (lead.toNat = 0xF4 → b.toNat < 0x90) := by
  simp only [fitsLead, ← UInt8.toNat_inj, Bool.and_eq_true]
  grind [UInt8.le_iff_toNat_le, UInt8.lt_iff_toNat_lt]

theorem toNat_charOfNat {n : Nat} (h : n.isValidChar) : (Char.ofNat n).toNat = n := by
  rw [Char.ofNat, dif_pos h]
  rfl

/-! ## The head of a byte sequence -/

/-- The bytes of a code point number, as numbers: a lead byte and the bytes that continue it. -/
inductive Utf8Form : Nat → UInt8 → List UInt8 → Prop
  | one {n : Nat} {lead : UInt8} : n < 0x80 → lead.toNat = n → Utf8Form n lead []
  | two {n : Nat} {lead b : UInt8} : 0x80 ≤ n → n < 0x800 →
      lead.toNat = 0xC0 + n / 0x40 → b.toNat = 0x80 + n % 0x40 → Utf8Form n lead [b]
  | three {n : Nat} {lead b c : UInt8} : 0x800 ≤ n → n < 0x10000 →
      lead.toNat = 0xE0 + n / 0x1000 → b.toNat = 0x80 + n / 0x40 % 0x40 →
      c.toNat = 0x80 + n % 0x40 → Utf8Form n lead [b, c]
  | four {n : Nat} {lead b c d : UInt8} : 0x10000 ≤ n → n < 0x110000 →
      lead.toNat = 0xF0 + n / 0x40000 → b.toNat = 0x80 + n / 0x1000 % 0x40 →
      c.toNat = 0x80 + n / 0x40 % 0x40 → d.toNat = 0x80 + n % 0x40 → Utf8Form n lead [b, c, d]

theorem Utf8Form.utf8Bytes_eq {n : Nat} {lead : UInt8} {more : List UInt8}
    (h : Utf8Form n lead more) : utf8Bytes n = lead :: more := by
  unfold utf8Bytes
  cases h with
  | one hn hlead => rw [if_pos hn, toUInt8_eq hlead.symm]
  | two h1 h2 hlead hb =>
    rw [if_neg (by omega), if_pos h2, toUInt8_eq hlead.symm, toUInt8_eq hb.symm]
  | three h1 h2 hlead hb hc =>
    rw [if_neg (by omega), if_neg (by omega), if_pos h2, toUInt8_eq hlead.symm, toUInt8_eq hb.symm,
      toUInt8_eq hc.symm]
  | four h1 h2 hlead hb hc hd =>
    rw [if_neg (by omega), if_neg (by omega), if_neg (by omega), toUInt8_eq hlead.symm,
      toUInt8_eq hb.symm, toUInt8_eq hc.symm, toUInt8_eq hd.symm]

theorem exists_utf8Form {n : Nat} (h : n < 0x110000) : ∃ lead more, Utf8Form n lead more := by
  have hbyte {m : Nat} (hm : m < 256) : ∃ b : UInt8, b.toNat = m := ⟨m.toUInt8, toNat_toUInt8 hm⟩
  obtain ⟨last, hlast⟩ := hbyte (show 0x80 + n % 0x40 < 256 by omega)
  obtain ⟨third, hthird⟩ := hbyte (show 0x80 + n / 0x40 % 0x40 < 256 by omega)
  obtain ⟨second, hsecond⟩ := hbyte (show 0x80 + n / 0x1000 % 0x40 < 256 by omega)
  rcases Nat.lt_or_ge n 0x80 with h1 | h1
  · obtain ⟨lead, hlead⟩ := hbyte (show n < 256 by omega)
    exact ⟨lead, _, .one h1 hlead⟩
  rcases Nat.lt_or_ge n 0x800 with h2 | h2
  · obtain ⟨lead, hlead⟩ := hbyte (show 0xC0 + n / 0x40 < 256 by omega)
    exact ⟨lead, _, .two h1 h2 hlead hlast⟩
  rcases Nat.lt_or_ge n 0x10000 with h3 | h3
  · obtain ⟨lead, hlead⟩ := hbyte (show 0xE0 + n / 0x1000 < 256 by omega)
    exact ⟨lead, _, .three h2 h3 hlead hthird hlast⟩
  · obtain ⟨lead, hlead⟩ := hbyte (show 0xF0 + n / 0x40000 < 256 by omega)
    exact ⟨lead, _, .four h3 h hlead hsecond hthird hlast⟩

/-- A character is read from its bytes, whatever follows them. -/
theorem Utf8Form.utf8Head_eq {c : Char} {lead : UInt8} {more : List UInt8}
    (h : Utf8Form c.toNat lead more) (rest : List UInt8) :
    utf8Head lead (more ++ rest) = .char c more.length := by
  have hvalid : c.toNat < 0xD800 ∨ 0xDFFF < c.toNat ∧ c.toNat < 0x110000 := c.valid
  have hchar {m : Nat} (hm : m = c.toNat) : Char.ofNat m = c := by rw [hm, Char.ofNat_toNat]
  generalize c.toNat = n at h hvalid hchar
  unfold utf8Head
  cases h with
  | one hn hlead => rw [if_pos (by omega), hchar hlead, List.length_nil]
  | @two b h1 h2 hlead hb =>
    have hlast : isContinuation b := isContinuation_iff.2 (by omega)
    rw [if_neg (by omega), if_neg (by omega), if_pos (by omega)]
    simp only [List.cons_append, hlast, if_true, lowBits]
    rw [hchar (by omega)]
    rfl
  | @three b c h1 h2 hlead hb hc =>
    have hsecond : fitsLead lead b :=
      fitsLead_iff.2 ⟨isContinuation_iff.2 (by omega), by omega, by omega, by omega, by omega⟩
    have hlast : isContinuation c := isContinuation_iff.2 (by omega)
    rw [if_neg (by omega), if_neg (by omega), if_neg (by omega), if_pos (by omega)]
    simp only [List.cons_append, hsecond, hlast, if_true, lowBits]
    rw [hchar (by omega)]
    rfl
  | @four b c d h1 h2 hlead hb hc hd =>
    have hsecond : fitsLead lead b :=
      fitsLead_iff.2 ⟨isContinuation_iff.2 (by omega), by omega, by omega, by omega, by omega⟩
    have hthird : isContinuation c := isContinuation_iff.2 (by omega)
    have hlast : isContinuation d := isContinuation_iff.2 (by omega)
    rw [if_neg (by omega), if_neg (by omega), if_neg (by omega), if_neg (by omega),
      if_pos (by omega)]
    simp only [List.cons_append, hsecond, hthird, hlast, if_true, lowBits]
    rw [hchar (by omega)]
    rfl

section Head

variable {c : Char} {extra : Nat} {lead : UInt8} {rest : List UInt8}

theorem utf8Form_of_two (hlow : 0xC2 ≤ lead.toNat) (hhigh : lead.toNat < 0xE0)
    (h : utf8Head lead rest = .char c extra) :
    ∃ more tail, rest = more ++ tail ∧ more.length = extra ∧ Utf8Form c.toNat lead more := by
  simp only [utf8Head] at h
  rw [if_neg (by omega), if_neg (by omega), if_pos hhigh] at h
  rcases rest with _ | ⟨b, tail⟩
  · cases h
  by_cases hb : isContinuation b
  · simp only [hb, if_true, Utf8Head.char.injEq, lowBits] at h
    obtain ⟨rfl, rfl⟩ := h
    have hb := isContinuation_iff.1 hb
    rw [toNat_charOfNat (.inl (by omega))]
    exact ⟨[b], tail, rfl, rfl, .two (by omega) (by omega) (by omega) (by omega)⟩
  · simp [hb] at h

theorem utf8Form_of_three (hlow : 0xE0 ≤ lead.toNat) (hhigh : lead.toNat < 0xF0)
    (h : utf8Head lead rest = .char c extra) :
    ∃ more tail, rest = more ++ tail ∧ more.length = extra ∧ Utf8Form c.toNat lead more := by
  simp only [utf8Head] at h
  rw [if_neg (by omega), if_neg (by omega), if_neg (by omega), if_pos hhigh] at h
  rcases rest with _ | ⟨b, rest⟩
  · cases h
  by_cases hb : fitsLead lead b
  · simp only [hb, Bool.not_true, Bool.false_eq_true, if_false] at h
    rcases rest with _ | ⟨d, tail⟩
    · cases h
    by_cases hd : isContinuation d
    · simp only [hd, if_true, Utf8Head.char.injEq, lowBits] at h
      obtain ⟨rfl, rfl⟩ := h
      obtain ⟨hb, hoverlong, hsurrogate, -, -⟩ := fitsLead_iff.1 hb
      have hb := isContinuation_iff.1 hb
      have hd := isContinuation_iff.1 hd
      rw [toNat_charOfNat (by unfold Nat.isValidChar; omega)]
      exact ⟨[b, d], tail, rfl, rfl, .three (by omega) (by omega) (by omega) (by omega) (by omega)⟩
    · simp [hd] at h
  · simp [hb] at h

theorem utf8Form_of_four (hlow : 0xF0 ≤ lead.toNat) (hhigh : lead.toNat < 0xF5)
    (h : utf8Head lead rest = .char c extra) :
    ∃ more tail, rest = more ++ tail ∧ more.length = extra ∧ Utf8Form c.toNat lead more := by
  simp only [utf8Head] at h
  rw [if_neg (by omega), if_neg (by omega), if_neg (by omega), if_neg (by omega),
    if_pos hhigh] at h
  rcases rest with _ | ⟨b, rest⟩
  · cases h
  by_cases hb : fitsLead lead b
  · simp only [hb, Bool.not_true, Bool.false_eq_true, if_false] at h
    rcases rest with _ | ⟨d, rest⟩
    · cases h
    by_cases hd : isContinuation d
    · simp only [hd, Bool.not_true, Bool.false_eq_true, if_false] at h
      rcases rest with _ | ⟨e, tail⟩
      · cases h
      by_cases he : isContinuation e
      · simp only [he, if_true, Utf8Head.char.injEq, lowBits] at h
        obtain ⟨rfl, rfl⟩ := h
        obtain ⟨hb, -, -, hoverlong, hbound⟩ := fitsLead_iff.1 hb
        have hb := isContinuation_iff.1 hb
        have hd := isContinuation_iff.1 hd
        have he := isContinuation_iff.1 he
        rw [toNat_charOfNat (by unfold Nat.isValidChar; omega)]
        exact ⟨[b, d, e], tail, rfl, rfl,
          .four (by omega) (by omega) (by omega) (by omega) (by omega) (by omega)⟩
      · simp [he] at h
    · simp [hd] at h
  · simp [hb] at h

/-- What is read as a character are its bytes. The lead byte tells how many there are. -/
theorem utf8Form_of_utf8Head (h : utf8Head lead rest = .char c extra) :
    ∃ more tail, rest = more ++ tail ∧ more.length = extra ∧ Utf8Form c.toNat lead more := by
  have hhead := h
  simp only [utf8Head] at h
  rcases Nat.lt_or_ge lead.toNat 0x80 with h1 | h1
  · rw [if_pos h1] at h
    obtain ⟨rfl, rfl⟩ := Utf8Head.char.inj h
    rw [toNat_charOfNat (.inl (by omega))]
    exact ⟨[], rest, rfl, rfl, .one h1 rfl⟩
  rcases Nat.lt_or_ge lead.toNat 0xC2 with h2 | h2
  · rw [if_neg (by omega), if_pos h2] at h
    cases h
  rcases Nat.lt_or_ge lead.toNat 0xE0 with h3 | h3
  · exact utf8Form_of_two h2 h3 hhead
  rcases Nat.lt_or_ge lead.toNat 0xF0 with h4 | h4
  · exact utf8Form_of_three h3 h4 hhead
  rcases Nat.lt_or_ge lead.toNat 0xF5 with h5 | h5
  · exact utf8Form_of_four h4 h5 hhead
  · rw [if_neg (by omega), if_neg (by omega), if_neg (by omega), if_neg (by omega),
      if_neg (by omega)] at h
    cases h

end Head

/-! ## Whole sequences -/

/-- The bytes of characters. -/
def utf8BytesOf (chars : List Char) : List UInt8 :=
  chars.flatMap fun c => utf8Bytes c.toNat

theorem utf8BytesOf_cons (c : Char) (chars : List Char) :
    utf8BytesOf (c :: chars) = utf8Bytes c.toNat ++ utf8BytesOf chars := List.flatMap_cons

/-- The bytes that belong to the last character are passed over. -/
theorem decodeUtf8_go_append (done : List Char) (offset : Nat) (more rest : List UInt8) :
    decodeUtf8.go done offset more.length (more ++ rest) =
      decodeUtf8.go done (offset + more.length) 0 rest := by
  induction more generalizing offset with
  | nil => rfl
  | cons b more ih =>
    have hoffset : offset + (more.length + 1) = offset + 1 + more.length := by omega
    rw [List.length_cons, List.cons_append, hoffset, ← ih]
    rfl

theorem decodeUtf8_go_char {c : Char} {lead : UInt8} {more : List UInt8}
    (h : Utf8Form c.toNat lead more) (done : List Char) (offset : Nat) (rest : List UInt8) :
    decodeUtf8.go done offset 0 (lead :: (more ++ rest)) =
      decodeUtf8.go (c :: done) (offset + 1 + more.length) 0 rest := by
  rw [← decodeUtf8_go_append, decodeUtf8.go, h.utf8Head_eq rest]

theorem decodeUtf8_go_utf8BytesOf (done : List Char) (offset : Nat) (chars : List Char) :
    decodeUtf8.go done offset 0 (utf8BytesOf chars) = .ok (done.reverse ++ chars) := by
  induction chars generalizing done offset with
  | nil =>
    rw [List.append_nil]
    rfl
  | cons c chars ih =>
    have hbound : c.toNat < 0x110000 := CodePoint.value_ofChar_lt c
    obtain ⟨lead, more, hform⟩ := exists_utf8Form hbound
    rw [utf8BytesOf_cons, hform.utf8Bytes_eq, List.cons_append, decodeUtf8_go_char hform, ih,
      List.reverse_cons, List.append_assoc, List.singleton_append]

/-- By induction on the number of bytes: those of the first character are taken off. -/
theorem exists_of_decodeUtf8_go {done text : List Char} {offset : Nat} {bytes : List UInt8}
    (h : decodeUtf8.go done offset 0 bytes = .ok text) :
    ∃ chars, text = done.reverse ++ chars ∧ bytes = utf8BytesOf chars := by
  induction hlength : bytes.length using Nat.strongRecOn
    generalizing done offset bytes with
  | ind length ih =>
    cases bytes with
    | nil => exact ⟨[], by rw [List.append_nil, ← Except.ok.inj h], rfl⟩
    | cons lead rest =>
      cases hhead : utf8Head lead rest with
      | fault reason width =>
        simp only [decodeUtf8.go, hhead] at h
        cases h
      | char c extra =>
        obtain ⟨more, tail, rfl, -, hform⟩ := utf8Form_of_utf8Head hhead
        rw [decodeUtf8_go_char hform] at h
        have hshorter : tail.length < length := by
          rw [← hlength, List.length_cons, List.length_append]
          omega
        obtain ⟨chars, rfl, rfl⟩ := ih tail.length hshorter h rfl
        refine ⟨c :: chars, ?_, ?_⟩
        · rw [List.reverse_cons, List.append_assoc, List.singleton_append]
        · rw [utf8BytesOf_cons, hform.utf8Bytes_eq, List.cons_append]

/-- **Bytes are read as the characters whose bytes they are.** -/
theorem decodeUtf8_eq_ok_iff {bytes : List UInt8} {chars : List Char} :
    decodeUtf8 bytes = .ok chars ↔ bytes = utf8BytesOf chars := by
  constructor
  · intro h
    obtain ⟨found, rfl, hbytes⟩ := exists_of_decodeUtf8_go h
    exact hbytes
  · rintro rfl
    exact decodeUtf8_go_utf8BytesOf [] 0 chars

/-! ## Texts -/

namespace Text

/-- The characters of a text, with a replacement character for each surrogate. -/
def chars (t : Text) : List Char :=
  t.map CodePoint.toCharLossy

@[simp]
theorem chars_append (s t : Text) : (s ++ t).chars = s.chars ++ t.chars := List.map_append

@[simp]
theorem chars_cons (c : CodePoint) (t : Text) : chars (c :: t) = c.toCharLossy :: t.chars := rfl

end Text

theorem CodePoint.toNat_toCharLossy {c : CodePoint} (h : c.isSurrogate = false) :
    c.toCharLossy.toNat = c.value := by
  have hvalid : c.value.isValidChar := by
    have hlt := c.value_lt
    simp only [isSurrogate, Bool.and_eq_false_iff, decide_eq_false_iff_not] at h
    unfold Nat.isValidChar
    omega
  rw [toCharLossy, toChar?, dif_pos hvalid]
  rfl

theorem CodePoint.isSurrogate_ofChar (c : Char) : (ofChar c).isSurrogate = false := by
  have hvalid : c.toNat < 0xD800 ∨ 0xDFFF < c.toNat ∧ c.toNat < 0x110000 := c.valid
  rw [isSurrogate, value_ofChar, Bool.and_eq_false_iff, decide_eq_false_iff_not,
    decide_eq_false_iff_not]
  omega

@[simp]
theorem CodePoint.toCharLossy_ofChar (c : Char) : (ofChar c).toCharLossy = c := by
  rw [← Char.ofNat_toNat (ofChar c).toCharLossy, toNat_toCharLossy (isSurrogate_ofChar c),
    value_ofChar, Char.ofNat_toNat]

/-- **A text is read back from its bytes.** -/
theorem decodeUtf8_of_utf8? {t : Text} {bytes : List UInt8} (h : t.utf8? = some bytes) :
    decodeUtf8 bytes = .ok t.chars := by
  rw [Text.utf8?] at h
  split at h
  · cases h
  next hscalar =>
  obtain rfl := Option.some.inj h
  rw [decodeUtf8_eq_ok_iff, utf8BytesOf, Text.chars, List.flatMap_map]
  refine List.flatMap_congr fun c hc => ?_
  have hc : c.isSurrogate = false := eq_false_of_ne_true fun h =>
    hscalar (List.any_eq_true.2 ⟨c, hc, h⟩)
  rw [CodePoint.toNat_toCharLossy hc]

/-- What is read is a text with these bytes. -/
theorem exists_of_decodeUtf8 {bytes : List UInt8} {chars : List Char}
    (h : decodeUtf8 bytes = .ok chars) : ∃ t : Text, t.utf8? = some bytes ∧ t.chars = chars := by
  have hscalar : Text.hasSurrogate (chars.map CodePoint.ofChar) = false := by
    rw [Text.hasSurrogate, List.any_map, List.any_eq_false]
    intro c _
    simp [CodePoint.isSurrogate_ofChar]
  refine ⟨chars.map CodePoint.ofChar, ?_, ?_⟩
  · rw [Text.utf8?, hscalar, decodeUtf8_eq_ok_iff.1 h, List.flatMap_map]
    rfl
  · simp [Text.chars, Function.comp_def]

/-- **Bytes are refused exactly if no text has them.** -/
theorem decodeUtf8_eq_error_iff {bytes : List UInt8} :
    (∃ fault, decodeUtf8 bytes = .error fault) ↔ ∀ t : Text, t.utf8? ≠ some bytes := by
  constructor
  · rintro ⟨fault, hfault⟩ t ht
    cases hfault.symm.trans (decodeUtf8_of_utf8? ht)
  · intro hnone
    cases hdecode : decodeUtf8 bytes with
    | error fault => exact ⟨fault, rfl⟩
    | ok chars =>
      obtain ⟨t, ht, -⟩ := exists_of_decodeUtf8 hdecode
      exact absurd ht (hnone t)

end QueryScaffold
