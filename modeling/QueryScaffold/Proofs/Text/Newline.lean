import Mathlib.Data.List.Infix
import QueryScaffold.Text.Newline

/-!
# Unified line endings

A carriage return becomes a line feed, together with the line feed that follows it; every other
character stays.

* `unifyNewlines_crlf`, `unifyNewlines_cr`, `unifyNewlines_cons`: one line ending or character after
  another, and `unifyNewlines_induction`, the induction along them;
* `unifyNewlines_append`: a text before the first carriage return stays as it is;
* `infix_of_infix_unifyNewlines`: what stands within one line stood there before.
-/

namespace QueryScaffold

/-! ## One line ending or character after another -/

/-- A text starts with `\r\n`, with a `\r` alone, or with any other character. -/
theorem unifyNewlines_induction {motive : List Char → Prop} (nil : motive [])
    (crlf : ∀ rest, motive rest → motive ('\r' :: '\n' :: rest))
    (cr : ∀ rest, rest.head? ≠ some '\n' → motive rest → motive ('\r' :: rest))
    (cons : ∀ c rest, c ≠ '\r' → motive rest → motive (c :: rest)) (text : List Char) :
    motive text := by
  have hgo (done text : List Char) : motive text := by
    induction done, text using unifyNewlines.go.induct with
    | case1 => exact nil
    | case2 done rest ih => exact crlf rest ih
    | case3 done rest hrest ih =>
      refine cr rest (fun h => ?_) ih
      obtain ⟨tail, rfl⟩ := List.head?_eq_some_iff.1 h
      exact hrest tail rfl
    | case4 done c rest _ hc ih => exact cons c rest (fun h => hc h) ih
  exact hgo [] text

theorem unifyNewlines_go_cr {rest : List Char} (h : rest.head? ≠ some '\n') (done : List Char) :
    unifyNewlines.go done ('\r' :: rest) = unifyNewlines.go ('\n' :: done) rest := by
  rw [unifyNewlines.go]
  rintro rest rfl
  exact h rfl

theorem unifyNewlines_go_cons {c : Char} (h : c ≠ '\r') (done rest : List Char) :
    unifyNewlines.go done (c :: rest) = unifyNewlines.go (c :: done) rest := by
  rw [unifyNewlines.go]
  · rintro rest rfl
    exact absurd rfl h
  · rintro rfl
    exact absurd rfl h

/-- The characters that were collected stand before the others. -/
theorem unifyNewlines_go (done text : List Char) :
    unifyNewlines.go done text = done.reverse ++ unifyNewlines text := by
  unfold unifyNewlines
  induction text using unifyNewlines_induction generalizing done with
  | nil => simp [unifyNewlines.go]
  | crlf rest ih =>
    rw [unifyNewlines.go, unifyNewlines.go, ih, ih ['\n']]
    simp
  | cr rest hrest ih =>
    rw [unifyNewlines_go_cr hrest, unifyNewlines_go_cr hrest, ih, ih ['\n']]
    simp
  | cons c rest hc ih =>
    rw [unifyNewlines_go_cons hc, unifyNewlines_go_cons hc, ih, ih [c]]
    simp

@[simp]
theorem unifyNewlines_nil : unifyNewlines [] = [] := rfl

@[simp]
theorem unifyNewlines_crlf (rest : List Char) :
    unifyNewlines ('\r' :: '\n' :: rest) = '\n' :: unifyNewlines rest := by
  rw [unifyNewlines, unifyNewlines.go, unifyNewlines_go]
  rfl

theorem unifyNewlines_cr {rest : List Char} (h : rest.head? ≠ some '\n') :
    unifyNewlines ('\r' :: rest) = '\n' :: unifyNewlines rest := by
  rw [unifyNewlines, unifyNewlines_go_cr h, unifyNewlines_go]
  rfl

theorem unifyNewlines_cons {c : Char} (h : c ≠ '\r') (rest : List Char) :
    unifyNewlines (c :: rest) = c :: unifyNewlines rest := by
  rw [unifyNewlines, unifyNewlines_go_cons h, unifyNewlines_go]
  rfl

/-- The text before the first carriage return stays as it is. -/
theorem unifyNewlines_append {before : List Char} (h : '\r' ∉ before) (rest : List Char) :
    unifyNewlines (before ++ rest) = before ++ unifyNewlines rest := by
  induction before with
  | nil => rfl
  | cons c before ih =>
    obtain ⟨hc, hbefore⟩ := List.ne_and_not_mem_of_not_mem_cons h
    rw [List.cons_append, unifyNewlines_cons hc.symm, ih hbefore, List.cons_append]

/-! ## Within one line -/

theorem prefix_of_prefix_unifyNewlines {run text : List Char} (hrun : '\n' ∉ run)
    (h : run <+: unifyNewlines text) : run <+: text := by
  -- A run that is not empty starts with a character that stayed.
  have hfeed {run rest : List Char} (hrun : '\n' ∉ run) (h : run <+: '\n' :: rest) : run = [] := by
    rcases List.prefix_cons_iff.1 h with rfl | ⟨tail, rfl, -⟩
    · rfl
    · exact absurd List.mem_cons_self hrun
  induction text using unifyNewlines_induction generalizing run with
  | nil => exact h
  | crlf rest ih =>
    rw [unifyNewlines_crlf] at h
    exact hfeed hrun h ▸ List.nil_prefix
  | cr rest hrest ih =>
    rw [unifyNewlines_cr hrest] at h
    exact hfeed hrun h ▸ List.nil_prefix
  | cons c rest hc ih =>
    rw [unifyNewlines_cons hc] at h
    rcases List.prefix_cons_iff.1 h with rfl | ⟨tail, rfl, htail⟩
    · exact List.nil_prefix
    · have htail := ih (fun hm => hrun (List.mem_cons_of_mem _ hm)) htail
      exact List.cons_prefix_cons.2 ⟨rfl, htail⟩

/-- **What stands within one line stood there before.** -/
theorem infix_of_infix_unifyNewlines {run text : List Char} (hrun : '\n' ∉ run)
    (h : run <:+: unifyNewlines text) : run <:+: text := by
  have hwhole {text : List Char} (h : run <+: unifyNewlines text) : run <:+: text :=
    (prefix_of_prefix_unifyNewlines hrun h).isInfix
  induction text using unifyNewlines_induction with
  | nil => exact h
  | crlf rest ih =>
    rw [unifyNewlines_crlf, List.infix_cons_iff, ← unifyNewlines_crlf] at h
    rcases h with hstart | hlater
    · exact hwhole hstart
    · exact List.infix_cons (List.infix_cons (ih hlater))
  | cr rest hrest ih =>
    rw [unifyNewlines_cr hrest, List.infix_cons_iff, ← unifyNewlines_cr hrest] at h
    rcases h with hstart | hlater
    · exact hwhole hstart
    · exact List.infix_cons (ih hlater)
  | cons c rest hc ih =>
    rw [unifyNewlines_cons hc, List.infix_cons_iff, ← unifyNewlines_cons hc] at h
    rcases h with hstart | hlater
    · exact hwhole hstart
    · exact List.infix_cons (ih hlater)

end QueryScaffold
