import QueryScaffold.Files.Path
import QueryScaffold.Proofs.Text.Splitting

/-!
# Paths as they are written

A path can be read from its text again, as long as its names are ones that can stand between
slashes. Paths that were read or put together from texts have no others.

* `Path.IsNormal`: the names of the path can be read between slashes;
* `Path.isNormal_ofText`, `Path.isNormal_child`: paths that come from texts are like that;
* `Path.ofText_text`: **such a path is the one that its text writes**.
-/

namespace QueryScaffold

namespace Path

/-- The names of the path can be read between slashes. -/
def IsNormal (path : Path) : Prop :=
  ∀ name ∈ path.names, slash ∉ name ∧ name ≠ [] ∧ name ≠ ("." : Text)

theorem isNormal_ofText (t : Text) : (ofText t).IsNormal := by
  intro name hname
  obtain ⟨hsplit, hkept⟩ := List.mem_filter.1 hname
  exact ⟨Text.notMem_of_mem_split hsplit, of_decide_eq_true hkept⟩

/-- A path inside a directory has the names of the directory and of the text, or those of the text
alone. -/
theorem isNormal_child {path : Path} (h : path.IsNormal) (t : Text) : (path.child t).IsNormal := by
  have hinner := isNormal_ofText t
  rw [child]
  cases (ofText t).anchor with
  | relative => exact fun name hname => (List.mem_append.1 hname).elim (h name) (hinner name)
  | root => exact hinner
  | doubleRoot => exact hinner

/-- A text that does not start with a slash is read behind an anchor as it is read alone. -/
theorem ofText_anchor_append (anchor : Anchor) {t : Text} (h : t.head? ≠ some slash) :
    ofText (anchor.text ++ t) = ⟨anchor, (ofText t).names⟩ := by
  have hslashes : t.takeWhile (· = slash) = [] := by
    cases t with
    | nil => rfl
    | cons c rest =>
      have hc : c ≠ slash := fun he => h (congrArg some he)
      exact List.takeWhile_cons_of_neg (by simpa using hc)
  have hcons : ∀ u : Text, (slash :: u).takeWhile (· = slash) = slash :: u.takeWhile (· = slash) :=
    fun u => List.takeWhile_cons_of_pos (by simp)
  cases anchor with
  | relative =>
    show ofText t = _
    rw [ofText, hslashes]
    rfl
  | root =>
    show ofText (slash :: t) = _
    rw [ofText, hcons, hslashes, Text.split, if_pos rfl]
    rfl
  | doubleRoot =>
    show ofText (slash :: slash :: t) = _
    rw [ofText, hcons, hcons, hslashes, Text.split, if_pos rfl, Text.split, if_pos rfl]
    rfl

/-- Joined names are read as these names. -/
theorem names_ofText_joined {names : List Text}
    (h : ∀ name ∈ names, slash ∉ name ∧ name ≠ [] ∧ name ≠ ("." : Text)) :
    (ofText (Text.joined [slash] names)).names = names := by
  cases names with
  | nil => rfl
  | cons first rest =>
    rw [ofText, Text.split_joined (List.cons_ne_nil _ _) fun name hname => (h name hname).1]
    exact List.filter_eq_self.2 fun name hname => decide_eq_true (h name hname).2

/-- Joined names do not start with a slash. -/
theorem head?_joined_ne_slash {names : List Text}
    (h : ∀ name ∈ names, slash ∉ name ∧ name ≠ [] ∧ name ≠ ("." : Text)) :
    (Text.joined [slash] names).head? ≠ some slash := by
  cases names with
  | nil => nofun
  | cons first rest =>
    obtain ⟨hslash, hne, -⟩ := h first List.mem_cons_self
    obtain ⟨c, tail, rfl⟩ := List.exists_cons_of_ne_nil hne
    have hstart : (Text.joined [slash] ((c :: tail) :: rest)).head? = some c := by
      cases rest <;> rfl
    rw [hstart]
    intro hc
    exact hslash (Option.some.inj hc ▸ List.mem_cons_self)

/-- **A normal path is the one that its text writes.** -/
theorem ofText_text {path : Path} (h : path.IsNormal) : ofText path.text = path := by
  obtain ⟨anchor, names⟩ := path
  have hread : ofText (anchor.text ++ Text.joined [slash] names) = ⟨anchor, names⟩ := by
    rw [ofText_anchor_append anchor (head?_joined_ne_slash h), names_ofText_joined h]
  cases anchor with
  | relative =>
    cases names with
    | nil => rfl
    | cons first rest => exact hread
  | root => exact hread
  | doubleRoot => exact hread

end Path

end QueryScaffold
