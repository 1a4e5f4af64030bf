import QueryScaffold.Name.Convention
import QueryScaffold.Name.Identifier
import QueryScaffold.Proofs.Text.Splitting

/-!
# Words, identifiers and qualified names

What an identifier is made of, and which of the names that the generator derives are identifiers
whatever they are derived from.

* `IsQualifiedName`: the grammar of qualified names, and `isQualifiedName_iff` for the recogniser;
* `notMem_of_isIdentifier`, `notMem_of_isQualifiedName`: what cannot stand in a name;
* `isIdentifier_methodName`: no reserved word starts with a capital letter;
* `isIdentifier_contextVariableName_iff`: no reserved word has an underscore, so the stem of a
  context variable may even be a reserved word.
-/

namespace QueryScaffold

namespace Text

/-! ## Words -/

theorem isWord_cons {c : CodePoint} {rest : Text} :
    isWord (c :: rest) = true ↔ c.isWordStart = true ∧ ∀ d ∈ rest, d.isWord = true := by
  simp [isWord]

theorem isWord_of_isWordStart {c : CodePoint} (h : c.isWordStart = true) : c.isWord = true := by
  simp [CodePoint.isWord, h]

/-- A word is made of word characters. -/
theorem isWord_of_mem {t : Text} (h : t.isWord = true) {c : CodePoint} (hc : c ∈ t) :
    c.isWord = true := by
  cases t with
  | nil => simp at hc
  | cons d rest =>
    obtain ⟨hd, hrest⟩ := isWord_cons.1 h
    rcases List.mem_cons.1 hc with rfl | hc
    · exact isWord_of_isWordStart hd
    · exact hrest c hc

theorem ne_nil_of_isWord {t : Text} (h : t.isWord = true) : t ≠ [] := by
  rintro rfl
  simp [isWord] at h

/-- A word stays one with word characters behind it. -/
theorem isWord_append {s t : Text} (hs : s.isWord = true) (ht : ∀ c ∈ t, c.isWord = true) :
    (s ++ t).isWord = true := by
  cases s with
  | nil => simp [isWord] at hs
  | cons d rest =>
    obtain ⟨hd, hrest⟩ := isWord_cons.1 hs
    refine isWord_cons.2 ⟨hd, fun c hc => ?_⟩
    rcases List.mem_append.1 hc with hc | hc
    · exact hrest c hc
    · exact ht c hc

/-- The front of a word is a word, unless nothing is left of it. -/
theorem isWord_of_isWord_append {s t : Text} (hs : s ≠ []) (h : (s ++ t).isWord = true) :
    s.isWord = true := by
  cases s with
  | nil => exact absurd rfl hs
  | cons d rest =>
    obtain ⟨hd, hrest⟩ := isWord_cons.1 h
    exact isWord_cons.2 ⟨hd, fun c hc => hrest c (List.mem_append_left _ hc)⟩

/-! ## Identifiers -/

theorem isIdentifier_iff {t : Text} :
    t.isIdentifier = true ↔ t.isWord = true ∧ t ∉ keywords := by
  simp [isIdentifier]

theorem isWord_of_isIdentifier {t : Text} (h : t.isIdentifier = true) : t.isWord = true :=
  (isIdentifier_iff.1 h).1

theorem ne_nil_of_isIdentifier {t : Text} (h : t.isIdentifier = true) : t ≠ [] :=
  ne_nil_of_isWord (isWord_of_isIdentifier h)

theorem notMem_of_isIdentifier {t : Text} (h : t.isIdentifier = true) {c : CodePoint}
    (hc : c.isWord = false) : c ∉ t := by
  intro hm
  rw [isWord_of_mem (isWord_of_isIdentifier h) hm] at hc
  exact absurd hc (by decide)

/-! ## Qualified names -/

/-- The grammar of qualified names: one or more identifiers with points between them. -/
def IsQualifiedName (t : Text) : Prop :=
  ∃ parts : List Text, parts ≠ [] ∧ (∀ part ∈ parts, part.isIdentifier = true) ∧
    t = joined ("." : Text) parts

theorem isQualifiedName_iff {t : Text} : t.isQualifiedName = true ↔ IsQualifiedName t := by
  constructor
  · intro h
    refine ⟨t.split (CodePoint.ofChar '.'), split_ne_nil _ _, ?_, (joined_split _ t).symm⟩
    exact List.all_eq_true.1 h
  · rintro ⟨parts, hne, hparts, rfl⟩
    have hsplit : split (CodePoint.ofChar '.') (joined ("." : Text) parts) = parts :=
      split_joined hne fun part hp => notMem_of_isIdentifier (hparts part hp) (by decide)
    rw [isQualifiedName, hsplit]
    exact List.all_eq_true.2 hparts

theorem eq_point_or_isWord_of_mem {t : Text} (h : t.isQualifiedName = true) {c : CodePoint}
    (hc : c ∈ t) : c = CodePoint.ofChar '.' ∨ c.isWord = true := by
  obtain ⟨parts, -, hparts, rfl⟩ := isQualifiedName_iff.1 h
  rcases mem_joined hc with hc | ⟨part, hp, hc⟩
  · exact .inl (by simpa [Text.ofString] using hc)
  · exact .inr (isWord_of_mem (isWord_of_isIdentifier (hparts part hp)) hc)

theorem notMem_of_isQualifiedName {t : Text} (h : t.isQualifiedName = true) {c : CodePoint}
    (hp : c ≠ CodePoint.ofChar '.') (hc : c.isWord = false) : c ∉ t := by
  intro hm
  rcases eq_point_or_isWord_of_mem h hm with he | hw
  · exact hp he
  · rw [hw] at hc
    exact absurd hc (by decide)

theorem ne_nil_of_isQualifiedName {t : Text} (h : t.isQualifiedName = true) : t ≠ [] := by
  rintro rfl
  exact absurd h (by decide)

/-! ## Derived names -/

theorem head?_ne_of_mem_keywords :
    ∀ word ∈ keywords, word.head? ≠ some (CodePoint.ofChar 'G') := by
  decide

theorem underscore_notMem_of_mem_keywords :
    ∀ word ∈ keywords, CodePoint.ofChar '_' ∉ word := by
  decide

/-- The method of an accessor that is a word has an identifier for its name. -/
theorem isIdentifier_methodName {accessor : Text} (h : accessor.isWord = true) :
    (methodName accessor).isIdentifier = true := by
  refine isIdentifier_iff.2 ⟨?_, ?_⟩
  · exact isWord_append (by decide) fun c hc => isWord_of_mem h hc
  · intro hk
    exact head?_ne_of_mem_keywords _ hk rfl

/-- **The stem decides over a context variable.** The accessor behind it adds word characters only,
and the underscore keeps the whole from being reserved. -/
theorem isIdentifier_contextVariableName_iff {stem accessor : Text} (hs : stem ≠ [])
    (ha : accessor.isWord = true) :
    (contextVariableName stem accessor).isIdentifier = true ↔ stem.isWord = true := by
  rw [isIdentifier_iff, contextVariableName, List.append_assoc]
  constructor
  · rintro ⟨hw, -⟩
    exact isWord_of_isWord_append hs hw
  · intro hw
    refine ⟨isWord_append hw fun c hc => ?_, fun hk => ?_⟩
    · rcases List.mem_append.1 hc with hc | hc
      · have hu : c = CodePoint.ofChar '_' := by simpa [Text.ofString] using hc
        rw [hu]
        decide
      · exact isWord_of_mem ha hc
    · refine underscore_notMem_of_mem_keywords _ hk ?_
      simp [Text.ofString]

end Text

end QueryScaffold
