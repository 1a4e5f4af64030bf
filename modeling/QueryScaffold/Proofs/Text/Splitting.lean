import QueryScaffold.Text.Basic

/-!
# Splitting undoes joining

A text that is put together with a separator can be taken apart again as long as the parts are free
of the separator. Everything that is said about written source text rests on this: lines are parts
between line feeds, qualified names are parts between points.

* `split_append_cons`, `split_joined`: parts without the separator come out as they went in, and
  `notMem_of_mem_split`: no others come out;
* `joined_concat`, `joined_concat_append`: joining with one more part, or with more of the last one;
* `cut?_append_cons`, `eq_append_of_cut?`: the first occurrence of a separator;
* `append_cons_inj`, `append_cons_inj_right`: a text with a separator that stands in only one of its
  two halves determines both.
-/

namespace QueryScaffold

namespace Text

/-! ## The first occurrence -/

theorem cut?_append_cons {c : CodePoint} {before : Text} (h : c ∉ before) (after : Text) :
    cut? c (before ++ c :: after) = some (before, after) := by
  induction before with
  | nil => simp [cut?]
  | cons d rest ih =>
    have hd : d ≠ c := fun he => h (by simp [he])
    have hrest : c ∉ rest := fun hm => h (List.mem_cons_of_mem _ hm)
    rw [List.cons_append, cut?, if_neg hd, ih hrest]
    rfl

theorem cut?_eq_none_iff {c : CodePoint} {t : Text} : cut? c t = none ↔ c ∉ t := by
  induction t with
  | nil => simp [cut?]
  | cons d rest ih =>
    by_cases hd : d = c
    · simp [cut?, hd]
    · have hcd : ¬c = d := fun he => hd he.symm
      simp [cut?, hd, ih, hcd]

theorem eq_append_of_cut? {c : CodePoint} {t before after : Text}
    (h : cut? c t = some (before, after)) : t = before ++ c :: after ∧ c ∉ before := by
  induction t generalizing before with
  | nil => simp [cut?] at h
  | cons d rest ih =>
    rw [cut?] at h
    split at h
    · next hd =>
      obtain ⟨rfl, rfl⟩ := by simpa using h
      exact ⟨by rw [hd]; rfl, by simp⟩
    · next hd =>
      obtain ⟨⟨first, last⟩, hc, he⟩ := Option.map_eq_some_iff.1 h
      obtain ⟨rfl, rfl⟩ := Prod.mk.inj he
      obtain ⟨hrest, hfirst⟩ := ih hc
      refine ⟨by rw [hrest]; rfl, ?_⟩
      intro hm
      rcases List.mem_cons.1 hm with hcd | hm
      · exact hd hcd.symm
      · exact hfirst hm

/-! ## One separator between two halves -/

/-- The separator is not in the first half, so it is the first occurrence that divides. -/
theorem append_cons_inj {c : CodePoint} {s t u v : Text} (hs : c ∉ s) (ht : c ∉ t)
    (h : s ++ c :: u = t ++ c :: v) : s = t ∧ u = v := by
  have hcut : some (s, u) = some (t, v) := by
    rw [← cut?_append_cons hs u, ← cut?_append_cons ht v, h]
  simpa using hcut

/-- The separator is not in the second half, so it is the last occurrence that divides. -/
theorem append_cons_inj_right {c : CodePoint} {s t u v : Text} (hu : c ∉ u) (hv : c ∉ v)
    (h : s ++ c :: u = t ++ c :: v) : s = t ∧ u = v := by
  have hrev : u.reverse ++ c :: s.reverse = v.reverse ++ c :: t.reverse := by
    simpa using congrArg List.reverse h
  obtain ⟨huv, hst⟩ := append_cons_inj (by simpa using hu) (by simpa using hv) hrev
  exact ⟨List.reverse_inj.1 hst, List.reverse_inj.1 huv⟩

/-! ## All occurrences -/

theorem split_of_notMem {c : CodePoint} {t : Text} (h : c ∉ t) : split c t = [t] := by
  induction t with
  | nil => rfl
  | cons d rest ih =>
    have hd : d ≠ c := fun he => h (by simp [he])
    have hrest : c ∉ rest := fun hm => h (List.mem_cons_of_mem _ hm)
    rw [split, if_neg hd, ih hrest]
    rfl

theorem split_append_cons {c : CodePoint} {before : Text} (h : c ∉ before) (after : Text) :
    split c (before ++ c :: after) = before :: split c after := by
  induction before with
  | nil => simp [split]
  | cons d rest ih =>
    have hd : d ≠ c := fun he => h (by simp [he])
    have hrest : c ∉ rest := fun hm => h (List.mem_cons_of_mem _ hm)
    rw [List.cons_append, split, if_neg hd, ih hrest]
    rfl

/-- **Splitting undoes joining**, if there is a part and no part holds the separator. -/
theorem split_joined {c : CodePoint} {parts : List Text} (hne : parts ≠ [])
    (h : ∀ part ∈ parts, c ∉ part) : split c (joined [c] parts) = parts := by
  induction parts with
  | nil => exact absurd rfl hne
  | cons part rest ih =>
    have hpart : c ∉ part := h part (by simp)
    cases rest with
    | nil => exact split_of_notMem hpart
    | cons next rest =>
      rw [joined_cons_cons, List.append_assoc, List.singleton_append, split_append_cons hpart,
        ih (by simp) fun p hp => h p (List.mem_cons_of_mem _ hp)]

/-- No part holds the separator. -/
theorem notMem_of_mem_split {c : CodePoint} {t part : Text} (h : part ∈ split c t) : c ∉ part := by
  induction t generalizing part with
  | nil =>
    rw [split, List.mem_singleton] at h
    simp [h]
  | cons d rest ih =>
    rw [split] at h
    split at h
    · rcases List.mem_cons.1 h with rfl | h
      · exact List.not_mem_nil
      · exact ih h
    · next hd =>
      cases hrest : split c rest with
      | nil => exact absurd hrest (split_ne_nil c rest)
      | cons first others =>
        rw [hrest] at h ih
        rcases List.mem_cons.1 h with rfl | h
        · have hcd : ¬c = d := fun he => hd he.symm
          simp [hcd, ih List.mem_cons_self]
        · exact ih (List.mem_cons_of_mem _ h)

/-- One more part at the end stands behind one more separator. -/
theorem joined_concat (separator last : Text) {parts : List Text} (h : parts ≠ []) :
    joined separator (parts ++ [last]) = joined separator parts ++ separator ++ last := by
  induction parts with
  | nil => exact absurd rfl h
  | cons part rest ih =>
    cases rest with
    | nil => rfl
    | cons next rest =>
      have hrest := ih (List.cons_ne_nil next rest)
      show part ++ separator ++ joined separator (next :: rest ++ [last]) = _
      rw [hrest, joined_cons_cons]
      simp only [List.append_assoc]

theorem joined_concat_append (separator : Text) (parts : List Text) (last more : Text) :
    joined separator (parts ++ [last ++ more]) = joined separator (parts ++ [last]) ++ more := by
  by_cases h : parts = []
  · subst h
    rfl
  · rw [joined_concat _ _ h, joined_concat _ _ h]
    simp only [List.append_assoc]

/-- What stands in joined parts stands in the separator or in a part. -/
theorem mem_joined {c : CodePoint} {separator : Text} {parts : List Text}
    (h : c ∈ joined separator parts) : c ∈ separator ∨ ∃ part ∈ parts, c ∈ part := by
  induction parts with
  | nil => simp at h
  | cons part rest ih =>
    cases rest with
    | nil => exact .inr ⟨part, by simp, by simpa using h⟩
    | cons next rest =>
      rw [joined_cons_cons, List.mem_append, List.mem_append] at h
      rcases h with (h | h) | h
      · exact .inr ⟨part, by simp, h⟩
      · exact .inl h
      · rcases ih h with h | ⟨p, hp, h⟩
        · exact .inl h
        · exact .inr ⟨p, List.mem_cons_of_mem _ hp, h⟩

end Text

end QueryScaffold
