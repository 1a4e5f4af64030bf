import QueryScaffold.Files.Tree

/-!
# What operations on a tree keep

* `Tree.entry?_put_self`, `Tree.entry?_put_of_ne`: what is at a location after an entry was put;
* `Tree.locate_of_keepsDirectories`: paths lead where they led as long as directories stay;
* `Tree.Extends`: a later tree with nothing new but directories on the way to a given one, and so
  with the same files, `Tree.SameFiles`;
* `Tree.extends_makeDirectories`: **making a directory does no more than that**, whether it succeeds
  or not.
-/

namespace QueryScaffold

namespace Tree

/-! ## Putting an entry -/

theorem find?_putEntry_self (location : Location) (entry : Entry)
    (pairs : List (Location × Entry)) :
    (putEntry location entry pairs).find? (fun pair => pair.1 = location) =
      some (location, entry) := by
  induction pairs with
  | nil => simp [putEntry]
  | cons pair rest ih =>
    rw [putEntry]
    split
    · simp
    · next hne => rw [List.find?_cons_of_neg (by simpa using hne), ih]

theorem find?_putEntry_of_ne {location other : Location} (h : other ≠ location) (entry : Entry)
    (pairs : List (Location × Entry)) :
    (putEntry location entry pairs).find? (fun pair => pair.1 = other) =
      pairs.find? fun pair => pair.1 = other := by
  have hnew : ¬(location, entry).1 = other := fun he => h he.symm
  induction pairs with
  | nil => rw [putEntry, List.find?_cons_of_neg (by simpa using hnew)]
  | cons pair rest ih =>
    rw [putEntry]
    split
    · next hp =>
      have hold : ¬pair.1 = other := fun he => h (he.symm.trans hp)
      rw [List.find?_cons_of_neg (by simpa using hnew),
        List.find?_cons_of_neg (by simpa using hold)]
    · by_cases ho : pair.1 = other
      · rw [List.find?_cons_of_pos (by simpa using ho), List.find?_cons_of_pos (by simpa using ho)]
      · rw [List.find?_cons_of_neg (by simpa using ho), List.find?_cons_of_neg (by simpa using ho),
          ih]

/-- The root is a directory in every tree. -/
theorem ne_nil_of_entry?_ne {tree : Tree} {location : Location}
    (h : tree.entry? location ≠ some .directory) : location ≠ [] := by
  rintro rfl
  exact h rfl

/-- Only the root cannot be given another entry. -/
theorem entry?_put_self {location : Location} (h : location ≠ []) (tree : Tree) (entry : Entry) :
    Tree.entry? (tree.put location entry) location = some entry := by
  unfold entry?
  rw [if_neg h, put, find?_putEntry_self, Option.map_some]

theorem entry?_put_of_ne {location other : Location} (h : other ≠ location) (tree : Tree)
    (entry : Entry) : Tree.entry? (tree.put location entry) other = tree.entry? other := by
  unfold entry?
  rw [put, find?_putEntry_of_ne h]

/-! ## Where paths lead -/

/-- The working directory is the same, and every directory is still one. -/
structure KeepsDirectories (before after : Tree) : Prop where
  home : after.home = before.home
  directory : ∀ location, before.entry? location = some .directory →
    after.entry? location = some .directory

theorem step_of_keepsDirectories {before after : Tree} (h : KeepsDirectories before after)
    {here there : Location} {name : Text} (hs : before.step here name = .ok there) :
    after.step here name = .ok there := by
  rw [step] at hs ⊢
  cases he : before.entry? here with
  | none => simp [he] at hs
  | some entry =>
    cases entry with
    | directory =>
      rw [he] at hs
      rw [h.directory here he]
      exact hs
    | file content => simp [he] at hs
    | module start statements => simp [he] at hs

theorem foldlM_step_of_keepsDirectories {before after : Tree} (h : KeepsDirectories before after)
    {names : List Text} {here there : Location} (hs : names.foldlM before.step here = .ok there) :
    names.foldlM after.step here = .ok there := by
  induction names generalizing here with
  | nil => exact hs
  | cons name rest ih =>
    rw [List.foldlM_cons] at hs ⊢
    cases hstep : before.step here name with
    | error reason =>
      rw [hstep] at hs
      cases hs
    | ok next =>
      rw [hstep] at hs
      rw [step_of_keepsDirectories h hstep]
      exact ih hs

/-- Where the names of a path are followed from. -/
def origin (tree : Tree) : Anchor → Location
  | .relative => tree.home
  | _ => []

theorem locate_eq (tree : Tree) (path : Path) :
    tree.locate path =
      if path.text.any (·.value = 0) then .error .embeddedNull
      else if maxPathBytes < path.text.utf8Size then .error (.system .nameTooLong)
      else
        match path.names.foldlM tree.step (tree.origin path.anchor) with
        | .ok there => .ok there
        | .error reason => .error (.system reason) := by
  rw [locate]
  cases path with
  | mk anchor names => cases anchor <;> rfl

theorem locate_eq_ok_iff {tree : Tree} {path : Path} {location : Location} :
    tree.locate path = .ok location ↔
      path.text.any (·.value = 0) = false ∧ path.text.utf8Size ≤ maxPathBytes ∧
        path.names.foldlM tree.step (tree.origin path.anchor) = .ok location := by
  rw [locate_eq]
  by_cases hnull : path.text.any (·.value = 0)
  · simp [hnull]
  · by_cases hlong : maxPathBytes < path.text.utf8Size
    · simp [hnull, hlong, Nat.not_le_of_gt hlong]
    · rw [if_neg hnull, if_neg hlong]
      cases path.names.foldlM tree.step (tree.origin path.anchor) with
      | error reason => simp
      | ok there => simp [hnull, Nat.le_of_not_lt hlong]

/-- **A path leads where it led** as long as directories stay. -/
theorem locate_of_keepsDirectories {before after : Tree} (h : KeepsDirectories before after)
    {path : Path} {location : Location} (hl : before.locate path = .ok location) :
    after.locate path = .ok location := by
  obtain ⟨hnull, hlong, hnames⟩ := locate_eq_ok_iff.1 hl
  have horigin : after.origin path.anchor = before.origin path.anchor := by
    cases path.anchor
    · exact h.home
    · rfl
    · rfl
  refine locate_eq_ok_iff.2 ⟨hnull, hlong, ?_⟩
  rw [horigin]
  exact foldlM_step_of_keepsDirectories h hnames

/-! ## Making directories -/

/-- The location is where the path of a directory leads, or one that it passes on its way. -/
def IsOnWay (tree : Tree) (directory : Path) (location : Location) : Prop :=
  ∃ front, front <+: directory.names ∧ tree.locate ⟨directory.anchor, front⟩ = .ok location

/-- A later tree holds what an earlier one does, and beyond that nothing but directories on the way
to a given one. -/
structure Extends (directory : Path) (before after : Tree) : Prop where
  home : after.home = before.home
  kept : ∀ location entry, before.entry? location = some entry →
    after.entry? location = some entry
  made : ∀ location entry, after.entry? location = some entry →
    before.entry? location = none → entry = .directory ∧ after.IsOnWay directory location

namespace Extends

variable {directory : Path} {first second third : Tree}

theorem keepsDirectories (h : Extends directory first second) : KeepsDirectories first second :=
  ⟨h.home, fun location => h.kept location .directory⟩

theorem refl (directory : Path) (tree : Tree) : Extends directory tree tree := by
  refine ⟨rfl, fun _ _ h => h, fun location entry h hnone => ?_⟩
  rw [hnone] at h
  cases h

theorem trans (h : Extends directory first second) (h' : Extends directory second third) :
    Extends directory first third := by
  refine ⟨h'.home.trans h.home, fun location entry hfirst => h'.kept _ _ (h.kept _ _ hfirst),
    fun location entry hthird hnone => ?_⟩
  cases hsecond : second.entry? location with
  | none => exact h'.made location entry hthird hsecond
  | some old =>
    -- What the first step made is still there, and its path still leads to it.
    obtain ⟨rfl, front, hfront, hlocate⟩ := h.made location old hsecond hnone
    have hsame := h'.kept location .directory hsecond
    rw [hthird] at hsame
    exact ⟨Option.some.inj hsame, front, hfront,
      locate_of_keepsDirectories h'.keepsDirectories hlocate⟩

/-- What is on the way to an outer directory is on the way to an inner one. -/
theorem inner {anchor : Anchor} {outer names : List Text} (hnames : outer <+: names)
    (h : Extends ⟨anchor, outer⟩ first second) : Extends ⟨anchor, names⟩ first second := by
  refine ⟨h.home, h.kept, fun location entry hsecond hnone => ?_⟩
  obtain ⟨hentry, front, hfront, hlocate⟩ := h.made location entry hsecond hnone
  exact ⟨hentry, front, hfront.trans hnames, hlocate⟩

end Extends

/-- Two trees have the same files: none is there in only one of them, or holds something else. -/
def SameFiles (before after : Tree) : Prop :=
  ∀ location entry, entry.isFile = true →
    (after.entry? location = some entry ↔ before.entry? location = some entry)

theorem Extends.sameFiles {directory : Path} {before after : Tree}
    (h : Extends directory before after) : SameFiles before after := by
  refine fun location entry hfile => ⟨fun hafter => ?_, h.kept location entry⟩
  cases hbefore : before.entry? location with
  | none =>
    obtain ⟨rfl, -⟩ := h.made location entry hafter hbefore
    cases hfile
  | some old => rw [← hafter, h.kept location old hbefore]

/-- One directory is made where a path leads to nothing. -/
theorem makeDirectory_eq_ok_iff {tree after : Tree} {path : Path} :
    tree.makeDirectory path = .ok after ↔
      ∃ location, tree.locate path = .ok location ∧ tree.entry? location = none ∧
        after = tree.put location .directory := by
  rw [makeDirectory]
  cases hlocate : tree.locate path with
  | error reason => simp
  | ok location =>
    cases hentry : tree.entry? location with
    | some entry => simp [hentry]
    | none => simp [hentry, eq_comm]

theorem extends_makeDirectory {tree after : Tree} {path : Path}
    (h : tree.makeDirectory path = .ok after) : Extends path tree after := by
  obtain ⟨location, hlocate, hentry, rfl⟩ := makeDirectory_eq_ok_iff.1 h
  have hroot : location ≠ [] := ne_nil_of_entry?_ne (by rw [hentry]; nofun)
  have hkept : ∀ other entry, tree.entry? other = some entry →
      Tree.entry? (tree.put location .directory) other = some entry := by
    intro other entry hother
    have hne : other ≠ location := by
      rintro rfl
      rw [hentry] at hother
      cases hother
    rw [entry?_put_of_ne hne, hother]
  refine ⟨rfl, hkept, fun other entry hother hnone => ?_⟩
  by_cases hne : other = location
  · subst hne
    rw [entry?_put_self hroot] at hother
    have hkeeps : KeepsDirectories tree (tree.put other .directory) :=
      ⟨rfl, fun location => hkept location .directory⟩
    exact ⟨(Option.some.inj hother).symm, path.names, List.prefix_rfl,
      locate_of_keepsDirectories hkeeps hlocate⟩
  · rw [entry?_put_of_ne hne, hnone] at hother
    cases hother

/-- The induction follows the names from the last to the first: the outer directories are made in
between two attempts at the inner one. -/
theorem extends_makeDirectoriesFrom (anchor : Anchor) (tree : Tree) (names : List Text) :
    Extends ⟨anchor, names.reverse⟩ tree (makeDirectoriesFrom anchor tree names).1 := by
  induction names with
  | nil =>
    rw [makeDirectoriesFrom]
    cases hmade : tree.makeDirectory ⟨anchor, []⟩ with
    | ok after => exact extends_makeDirectory hmade
    | error reason => exact .refl _ _
  | cons name outer ih =>
    have houter : Extends ⟨anchor, (name :: outer).reverse⟩ tree
        (makeDirectoriesFrom anchor tree outer).1 := by
      refine .inner ?_ ih
      rw [List.reverse_cons]
      exact List.prefix_append _ _
    rw [makeDirectoriesFrom]
    split
    · next after hmade => exact extends_makeDirectory hmade
    · split
      · next hfrom => rw [hfrom] at houter; exact houter
      · next between hfrom =>
        rw [hfrom] at houter
        split
        · next after hmade => exact houter.trans (extends_makeDirectory hmade)
        · exact houter
        · exact houter
    · exact .refl _ _

/-- **Making a directory does no more** than to make directories on the way to it, whether it
succeeds or not. -/
theorem extends_makeDirectories (tree : Tree) (path : Path) :
    Extends path tree (tree.makeDirectories path).1 := by
  have h := extends_makeDirectoriesFrom path.anchor tree path.names.reverse
  rwa [List.reverse_reverse] at h

end Tree

end QueryScaffold
