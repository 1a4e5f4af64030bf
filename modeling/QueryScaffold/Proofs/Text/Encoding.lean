import Mathlib.Data.List.TakeWhile
import QueryScaffold.Text.Encoding

/-!
# Texts that can be encoded

* `Encoding.fault?_eq_none_iff`: a text has bytes in an encoding exactly if each of its code points
  has;
* `Text.fault?_utf8_eq_none_iff`: in UTF-8, a text without a fault is one with bytes;
* `Text.utf8?_of_ascii`: **an ASCII text is one byte for each character**.
-/

namespace QueryScaffold

namespace Encoding

/-- A text has bytes in an encoding exactly if each of its code points has. -/
theorem fault?_eq_none_iff {encoding : Encoding} {t : Text} :
    encoding.fault? t = none ↔ ∀ c ∈ t, encoding.lacks c = false := by
  have hdrop : (t.takeWhile (fun c => !encoding.lacks c) ++
      t.dropWhile fun c => !encoding.lacks c).drop
        (t.takeWhile fun c => !encoding.lacks c).length =
      t.dropWhile fun c => !encoding.lacks c := List.drop_left
  rw [List.takeWhile_append_dropWhile] at hdrop
  have hnone : encoding.fault? t = none ↔ t.dropWhile (fun c => !encoding.lacks c) = [] := by
    simp only [fault?, hdrop]
    cases t.dropWhile fun c => !encoding.lacks c <;> simp
  simp only [hnone, List.dropWhile_eq_nil_iff, Bool.not_eq_true']

theorem lacks_utf8 (c : CodePoint) : utf8.lacks c = c.isSurrogate := by
  rw [lacks, bytes?]
  cases c.isSurrogate <;> rfl

end Encoding

namespace Text

theorem hasSurrogate_eq_false_iff {t : Text} :
    t.hasSurrogate = false ↔ ∀ c ∈ t, c.isSurrogate = false := by
  simp [hasSurrogate]

/-- A text has UTF-8 bytes exactly if it can be written without a fault. -/
theorem fault?_utf8_eq_none_iff {t : Text} :
    Encoding.utf8.fault? t = none ↔ ∃ bytes, t.utf8? = some bytes := by
  simp only [Encoding.fault?_eq_none_iff, Encoding.lacks_utf8, ← hasSurrogate_eq_false_iff]
  rw [utf8?]
  cases t.hasSurrogate <;> simp

/-- **An ASCII text is one byte for each character.** -/
theorem utf8?_of_ascii {t : Text} (h : ∀ c ∈ t, c.value < 0x80) :
    t.utf8? = some (t.map fun c => c.value.toUInt8) := by
  have hbytes : t.flatMap (fun c => utf8Bytes c.value) = t.map fun c => c.value.toUInt8 := by
    induction t with
    | nil => rfl
    | cons c rest ih =>
      rw [List.flatMap_cons, List.map_cons, utf8Bytes, if_pos (h c (by simp)),
        ih fun d hd => h d (List.mem_cons_of_mem _ hd), List.singleton_append]
  have hsurrogate : t.hasSurrogate = false := by
    refine hasSurrogate_eq_false_iff.2 fun c hc => ?_
    have hlt := h c hc
    simp only [CodePoint.isSurrogate, Bool.and_eq_false_iff, decide_eq_false_iff_not]
    omega
  rw [utf8?, hsurrogate, if_neg (by decide), hbytes]

end Text

end QueryScaffold
