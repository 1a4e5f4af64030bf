import Mathlib.Data.List.Infix
import QueryScaffold.Proofs.Text.Newline
import QueryScaffold.Proofs.Text.Utf8
import QueryScaffold.Json.Reader

/-!
# Why a file is not read

A reader goes on within its text and stops for one of two reasons: what comes next is not JSON, or an
integer has more digits than are read. The second one needs as many digits in a row.

* `Json.HasDigits`: so many digits stand in a row;
* `Json.StaysIn`: an outcome whose rest is at the end of the text, or whose long integer is in it;
* `Json.staysIn_readers`: **every reader stays in its text**;
* `Json.ofBytes_error`: **why bytes are not read as JSON**.
-/

namespace QueryScaffold.Json

/-! ## Outcomes -/

/-- So many digits stand in a row. -/
def HasDigits (count : Nat) (text : List Char) : Prop :=
  ∃ digits : List Char, digits.length = count ∧ (∀ c ∈ digits, isDigit c = true) ∧ digits <:+: text

/-- What is read ends where a text ends, and an integer is too long only if its digits are in the
text. -/
structure StaysIn {α : Type} (text : List Char) (outcome : Except ReadFault (α × List Char)) :
    Prop where
  suffix : ∀ {value rest}, outcome = .ok (value, rest) → rest <:+ text
  digits : ∀ {n}, outcome = .error (.numberTooLong n) → maxDigits < n ∧ HasDigits n text

section Outcomes

variable {α β : Type} {text whole : List Char}

theorem staysIn_ok {value : α} {rest : List Char} (h : rest <:+ text) :
    StaysIn text (.ok (value, rest)) where
  suffix := by
    rintro _ _ ⟨⟩
    exact h
  digits := by rintro _ ⟨⟩

theorem staysIn_malformed (reason : JsonReason) (remaining : Nat) :
    StaysIn text (.error (.malformed reason remaining) : Except ReadFault (α × List Char)) where
  suffix := by rintro _ _ ⟨⟩
  digits := by rintro _ ⟨⟩

theorem StaysIn.mono {outcome : Except ReadFault (α × List Char)} (h : StaysIn text outcome)
    (hsuffix : text <:+ whole) : StaysIn whole outcome where
  suffix heq := (h.suffix heq).trans hsuffix
  digits heq := by
    obtain ⟨hlong, digits, hlength, hdigits, hinfix⟩ := h.digits heq
    exact ⟨hlong, digits, hlength, hdigits, hinfix.trans hsuffix.isInfix⟩

theorem StaysIn.error {fault : ReadFault}
    (h : StaysIn text (.error fault : Except ReadFault (α × List Char))) :
    StaysIn text (.error fault : Except ReadFault (β × List Char)) where
  suffix := by rintro _ _ ⟨⟩
  digits := by
    rintro _ ⟨⟩
    exact h.digits rfl

theorem StaysIn.map {outcome : Except ReadFault (α × List Char)} (h : StaysIn text outcome)
    (f : α → β) : StaysIn text (outcome.map fun (value, rest) => (f value, rest)) := by
  cases outcome with
  | error fault => exact h.error
  | ok read => exact staysIn_ok (h.suffix rfl)

theorem skipBlanks_suffix (text : List Char) : skipBlanks text <:+ text :=
  List.dropWhile_suffix isBlank

/-- What stands after white space stands after its first character. -/
theorem suffix_of_skipBlanks {c : Char} {rest : List Char} (h : skipBlanks text = c :: rest) :
    rest <:+ text :=
  (List.suffix_cons c rest).trans (h ▸ skipBlanks_suffix text)

end Outcomes

/-! ## Strings -/

theorem readUnit_ne_numberTooLong (digits : List Char) (n : Nat) :
    readUnit digits ≠ .error (.numberTooLong n) := by
  unfold readUnit
  intro h
  repeat' split at h
  all_goals cases h

theorem readEscape_ne_numberTooLong (opening : Nat) (text : List Char) (n : Nat) :
    readEscape opening text ≠ .error (.numberTooLong n) := by
  unfold readEscape
  intro h
  split at h
  · cases h
  · next digits =>
    have hunit := readUnit_ne_numberTooLong digits n
    cases hread : readUnit digits with
    | error fault =>
      rw [hread] at h hunit
      exact hunit h
    | ok unit =>
      rw [hread] at h
      cases h
  · split at h <;> cases h

theorem staysIn_readString (opening : Nat) (done : Text) (skip : Nat) (text : List Char) :
    StaysIn text (readString opening done skip text) := by
  induction text generalizing done skip with
  | nil => exact staysIn_malformed _ _
  | cons c rest ih =>
    have hrest : rest <:+ c :: rest := List.suffix_cons c rest
    cases skip with
    | succ skip => exact (ih done skip).mono hrest
    | zero =>
      rw [readString]
      split
      · exact staysIn_ok hrest
      split
      · cases hescape : readEscape opening rest with
        | error fault =>
          cases fault with
          | malformed reason remaining => exact staysIn_malformed _ _
          | numberTooLong n => exact absurd hescape (readEscape_ne_numberTooLong opening rest n)
        | ok escape => exact (ih _ _).mono hrest
      split
      · exact staysIn_malformed _ _
      · exact (ih _ _).mono hrest

/-! ## Numbers -/

theorem readWhole?_eq_some {text whole rest : List Char} (h : readWhole? text = some (whole, rest)) :
    text = whole ++ rest ∧ ∀ c ∈ whole, isDigit c = true := by
  unfold readWhole? at h
  split at h
  · obtain ⟨rfl, rfl⟩ := Prod.mk.inj (Option.some.inj h)
    exact ⟨rfl, List.forall_mem_singleton.2 rfl⟩
  · split at h
    · cases h
    · obtain ⟨rfl, rfl⟩ := Prod.mk.inj (Option.some.inj h)
      exact ⟨(List.takeWhile_append_dropWhile).symm,
        fun c hc => List.all_eq_true.1 List.all_takeWhile c hc⟩

theorem readFraction_suffix (text : List Char) : (readFraction text).2 <:+ text := by
  unfold readFraction
  split
  · split
    · exact List.suffix_refl _
    · exact (List.dropWhile_suffix _).trans (List.suffix_cons _ _)
  · exact List.suffix_refl _

theorem readExponent_suffix (text : List Char) : (readExponent text).2 <:+ text := by
  unfold readExponent
  split
  · next c rest =>
    split
    · simp only
      split
      · exact List.suffix_refl _
      · -- The digits stand after a sign, if there is one.
        refine ((List.dropWhile_suffix _).trans ?_).trans (List.suffix_cons c rest)
        split
        · exact List.suffix_cons _ _
        · exact List.suffix_cons _ _
        · exact List.suffix_refl _
    · exact List.suffix_refl _
  · exact List.suffix_refl _

theorem staysIn_readNumber? {negative : Bool} {text : List Char}
    {outcome : Except ReadFault (Json × List Char)} (h : readNumber? negative text = some outcome) :
    StaysIn text outcome := by
  rw [readNumber?, Option.map_eq_some_iff] at h
  obtain ⟨⟨whole, rest⟩, hwhole, rfl⟩ := h
  obtain ⟨rfl, hdigits⟩ := readWhole?_eq_some hwhole
  have hrest : (readExponent (readFraction rest).2).2 <:+ whole ++ rest :=
    ((readExponent_suffix _).trans (readFraction_suffix rest)).trans (List.suffix_append whole rest)
  simp only
  split
  · split
    · next hlong =>
      constructor
      · rintro _ _ ⟨⟩
      · rintro _ ⟨⟩
        exact ⟨hlong, whole, rfl, hdigits, (List.prefix_append whole rest).isInfix⟩
    · exact staysIn_ok hrest
  · exact staysIn_ok hrest

/-! ## Values -/

theorem staysIn_readPlain (text : List Char) : StaysIn text (readPlain text) := by
  have hnumber {negative : Bool} {rest : List Char} (hrest : rest <:+ text) (remaining : Nat) :
      StaysIn text ((readNumber? negative rest).getD (.error (.malformed .noValue remaining))) := by
    cases hread : readNumber? negative rest with
    | none => exact staysIn_malformed _ _
    | some outcome => exact (staysIn_readNumber? hread).mono hrest
  unfold readPlain
  split
  iterate 6 exact staysIn_ok (by simp [List.suffix_cons_iff])
  · exact hnumber (List.suffix_cons _ _) _
  · exact hnumber (List.suffix_refl _) _

section Step

variable {fuel : Nat} (hvalue : ∀ text, StaysIn text (readValue fuel text))
  (hitems : ∀ done text, StaysIn text (readItems fuel done text))
  (hentries : ∀ done text, StaysIn text (readEntries fuel done text))

include hitems hentries in
theorem staysIn_readValue_succ (text : List Char) : StaysIn text (readValue (fuel + 1) text) := by
  rw [readValue.eq_def]
  simp only
  split
  · next rest => exact ((staysIn_readString _ _ _ rest).map _).mono (List.suffix_cons _ _)
  · next rest =>
    have hrest : rest <:+ '[' :: rest := List.suffix_cons _ _
    split
    · next hskip => exact staysIn_ok ((suffix_of_skipBlanks hskip).trans hrest)
    · exact (hitems _ _).mono ((skipBlanks_suffix rest).trans hrest)
  · next rest =>
    have hrest : rest <:+ '\x7b' :: rest := List.suffix_cons _ _
    split
    · next hskip => exact staysIn_ok ((suffix_of_skipBlanks hskip).trans hrest)
    · exact (hentries _ _).mono ((skipBlanks_suffix rest).trans hrest)
  · exact staysIn_readPlain text

include hvalue hitems in
theorem staysIn_readItems_succ (done : List Json) (text : List Char) :
    StaysIn text (readItems (fuel + 1) done text) := by
  have hread := hvalue text
  rw [readItems]
  cases hitem : readValue fuel text with
  | error fault => exact (hitem ▸ hread).error
  | ok read =>
    obtain ⟨item, rest⟩ := read
    have hrest : rest <:+ text := hread.suffix hitem
    simp only
    split
    · next hskip => exact staysIn_ok ((suffix_of_skipBlanks hskip).trans hrest)
    · next after hskip =>
      have hafter : after <:+ text := (suffix_of_skipBlanks hskip).trans hrest
      exact (hitems _ _).mono ((skipBlanks_suffix after).trans hafter)
    · exact staysIn_malformed _ _

include hvalue hentries in
theorem staysIn_readEntries_succ (done : Entries) (text : List Char) :
    StaysIn text (readEntries (fuel + 1) done text) := by
  rw [readEntries.eq_def]
  simp only
  split
  · next inside =>
    have hinside : inside <:+ '"' :: inside := List.suffix_cons _ _
    have hread := staysIn_readString ('"' :: inside).length [] 0 inside
    cases hkey : readString ('"' :: inside).length [] 0 inside with
    | error fault => exact ((hkey ▸ hread).mono hinside).error
    | ok read =>
      obtain ⟨key, rest⟩ := read
      have hrest : rest <:+ '"' :: inside := (hread.suffix hkey).trans hinside
      simp only
      split
      · next after hskip =>
        have hafter : skipBlanks after <:+ '"' :: inside :=
          (skipBlanks_suffix after).trans ((suffix_of_skipBlanks hskip).trans hrest)
        have hread := (hvalue (skipBlanks after)).mono hafter
        cases hentry : readValue fuel (skipBlanks after) with
        | error fault => exact (hentry ▸ hread).error
        | ok read =>
          obtain ⟨value, rest⟩ := read
          have hrest : rest <:+ '"' :: inside := hread.suffix hentry
          simp only
          split
          · next hskip => exact staysIn_ok ((suffix_of_skipBlanks hskip).trans hrest)
          · next more hskip =>
            have hmore : more <:+ '"' :: inside := (suffix_of_skipBlanks hskip).trans hrest
            exact (hentries _ _).mono ((skipBlanks_suffix more).trans hmore)
          · exact staysIn_malformed _ _
      · exact staysIn_malformed _ _
  · exact staysIn_malformed _ _

end Step

/-- **Every reader stays in its text.** Those of values, items and entries call each other with less
fuel. -/
theorem staysIn_readers (fuel : Nat) :
    (∀ text, StaysIn text (readValue fuel text)) ∧
    (∀ done text, StaysIn text (readItems fuel done text)) ∧
    ∀ done text, StaysIn text (readEntries fuel done text) := by
  induction fuel with
  | zero => exact ⟨fun _ => staysIn_malformed _ _, fun _ _ => staysIn_malformed _ _,
      fun _ _ => staysIn_malformed _ _⟩
  | succ fuel ih =>
    obtain ⟨hvalue, hitems, hentries⟩ := ih
    exact ⟨staysIn_readValue_succ hitems hentries, staysIn_readItems_succ hvalue hitems,
      staysIn_readEntries_succ hvalue hentries⟩

/-! ## Files -/

theorem readText_numberTooLong {text : List Char} {n : Nat}
    (h : readText text = .error (.numberTooLong n)) : maxDigits < n ∧ HasDigits n text := by
  unfold readText at h
  split at h
  · cases h
  have hread := ((staysIn_readers (2 * text.length + 2)).1 (skipBlanks text)).mono
    (skipBlanks_suffix text)
  cases hvalue : readValue (2 * text.length + 2) (skipBlanks text) with
  | error fault =>
    rw [hvalue] at h
    obtain rfl := Except.error.inj h
    exact hread.digits hvalue
  | ok read =>
    rw [hvalue] at h
    simp only at h
    split at h <;> cases h

/-- **Why bytes are not read as JSON.** Either no text has them, or they are those of a text that is
not JSON, or of one with more digits in a row than an integer may have. -/
theorem ofBytes_error {bytes : List UInt8} {fault : Fault} (h : ofBytes bytes = .error fault) :
    (∃ reason, fault = .encoding reason ∧ ∀ t : Text, t.utf8? ≠ some bytes) ∨
    (∃ reason place, fault = .malformed reason place ∧ ∃ t : Text, t.utf8? = some bytes) ∨
    ∃ n, fault = .numberTooLong n ∧ maxDigits < n ∧
      ∃ t : Text, t.utf8? = some bytes ∧ HasDigits n t.chars := by
  unfold ofBytes at h
  cases hdecode : decodeUtf8 bytes with
  | error reason =>
    rw [hdecode] at h
    obtain rfl := Except.error.inj h
    exact .inl ⟨reason, rfl, decodeUtf8_eq_error_iff.1 ⟨reason, hdecode⟩⟩
  | ok text =>
    obtain ⟨t, ht, hchars⟩ := exists_of_decodeUtf8 hdecode
    rw [hdecode] at h
    simp only [read] at h
    cases hread : readText (unifyNewlines text) with
    | ok value =>
      rw [hread] at h
      cases h
    | error fault =>
      rw [hread] at h
      obtain rfl := Except.error.inj h
      cases fault with
      | malformed reason remaining => exact .inr (.inl ⟨reason, _, rfl, t, ht⟩)
      | numberTooLong n =>
        obtain ⟨hlong, digits, hlength, hdigits, hinfix⟩ := readText_numberTooLong hread
        have hline : '\n' ∉ digits := fun hm => absurd (hdigits _ hm) (by decide)
        have hinfix := infix_of_infix_unifyNewlines hline hinfix
        exact .inr (.inr ⟨n, rfl, hlong, t, ht, digits, hlength, hdigits, hchars ▸ hinfix⟩)

theorem exists_encoding {bytes : List UInt8} (h : ∀ t : Text, t.utf8? ≠ some bytes) :
    ∃ reason, ofBytes bytes = .error (.encoding reason) := by
  obtain ⟨reason, hreason⟩ := decodeUtf8_eq_error_iff.2 h
  exact ⟨reason, by rw [ofBytes, hreason]⟩

end QueryScaffold.Json
