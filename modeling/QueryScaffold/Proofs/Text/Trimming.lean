import Mathlib.Data.List.DropRight
import QueryScaffold.Text.Blank

/-!
# Trimming

* `Text.trim_infix`: what is left is a piece of the text;
* `Text.trim_eq_nil_iff`: nothing is left exactly of a text of the set;
* `Text.trim_trim`: **trimming a second time takes nothing away**.
-/

namespace QueryScaffold

namespace Text

variable {set : CodePoint → Bool}

theorem trim_eq_rdropWhile (t : Text) : t.trim set = (t.dropWhile set).rdropWhile set := rfl

theorem trim_infix (t : Text) : t.trim set <:+: t :=
  (List.rdropWhile_prefix set _).isInfix.trans (List.dropWhile_suffix set).isInfix

theorem trim_eq_nil_iff {t : Text} : t.trim set = [] ↔ ∀ c ∈ t, set c := by
  rw [trim_eq_rdropWhile, List.rdropWhile_eq_nil_iff, ← List.dropWhile_eq_nil_iff,
    List.dropWhile_idempotent, List.dropWhile_eq_nil_iff]

theorem isEmpty_trim (t : Text) : (t.trim set).isEmpty = !t.any fun c => !set c := by
  rw [Bool.eq_iff_iff, List.isEmpty_iff, trim_eq_nil_iff]
  simp

/-- **Trimming a second time takes nothing away.** What is left begins as the text does behind its
leading code points of the set, so that it does not begin with one. -/
theorem trim_trim (t : Text) : (t.trim set).trim set = t.trim set := by
  have hstart : (t.trim set).dropWhile set = t.trim set := by
    obtain ⟨rest, hrest⟩ : t.trim set <+: t.dropWhile set := List.rdropWhile_prefix set _
    cases htrim : t.trim set with
    | nil => rfl
    | cons c more =>
      have hdrop := List.dropWhile_idempotent set t
      rw [← hrest, htrim, List.cons_append, List.dropWhile_eq_self_iff] at hdrop
      exact List.dropWhile_cons_of_neg (hdrop (Nat.succ_pos _))
  rw [trim_eq_rdropWhile, hstart]
  exact List.rdropWhile_idempotent set _

end Text

end QueryScaffold
