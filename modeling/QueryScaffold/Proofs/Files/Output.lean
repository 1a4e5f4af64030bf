import QueryScaffold.Files.Output
import QueryScaffold.Proofs.Files.Tree
import QueryScaffold.Proofs.Text.Encoding

/-!
# What writing the output changes

A text that can be encoded is written to its file, or it is not and every file is as it was. In both
cases directories may have been made on the way.

* `Tree.WrittenAt`: a later tree with bytes in one file, where every other file is as it was;
* `Tree.write_cases`, `Tree.writeOutput_cases`: **the two outcomes of writing**.
-/

namespace QueryScaffold

namespace Tree

/-- A later tree holds bytes in the file at a path, which leads to a location that was no directory.
Otherwise it holds what an earlier one does, and beyond that nothing but directories on the way to a
given one. -/
structure WrittenAt (path directory : Path) (bytes : List UInt8) (before after : Tree)
    (location : Location) : Prop where
  home : after.home = before.home
  located : after.locate path = .ok location
  holds : after.entry? location = some (.file bytes)
  wasNoDirectory : before.entry? location ≠ some .directory
  kept : ∀ other entry, other ≠ location → before.entry? other = some entry →
    after.entry? other = some entry
  made : ∀ other entry, other ≠ location → after.entry? other = some entry →
    before.entry? other = none → entry = .directory ∧ after.IsOnWay directory other

theorem WrittenAt.entryAt_eq {path directory : Path} {bytes : List UInt8} {before after : Tree}
    {location : Location} (h : WrittenAt path directory bytes before after location) :
    after.entryAt path = .ok (.file bytes) := by
  rw [entryAt, h.located]
  simp only [h.holds]

theorem keepsDirectories_put_file {tree : Tree} {location : Location}
    (h : tree.entry? location ≠ some .directory) (bytes : List UInt8) :
    KeepsDirectories tree (tree.put location (.file bytes)) := by
  refine ⟨rfl, fun other hother => ?_⟩
  have hne : other ≠ location := by
    rintro rfl
    exact h hother
  rw [entry?_put_of_ne hne, hother]

/-- Bytes are put where the path leads, unless it leads nowhere or to a directory. -/
theorem write_cases (tree : Tree) (path : Path) (bytes : List UInt8) :
    (∃ fault, tree.write path bytes = .error fault) ∨
      ∃ location, tree.locate path = .ok location ∧ tree.entry? location ≠ some .directory ∧
        tree.write path bytes = .ok (tree.put location (.file bytes)) := by
  rw [write]
  cases hlocate : tree.locate path with
  | error reason => exact .inl ⟨_, rfl⟩
  | ok location =>
    cases hentry : tree.entry? location with
    | none => exact .inr ⟨location, rfl, by simp [hentry], by simp [hentry]⟩
    | some entry =>
      cases entry with
      | directory => exact .inl ⟨⟨path, .system .isDirectory⟩, by simp only [hentry]⟩
      | file content => exact .inr ⟨location, rfl, by simp [hentry], by simp [hentry]⟩
      | module start statements => exact .inr ⟨location, rfl, by simp [hentry], by simp [hentry]⟩

/-- After directories were made, the file is the one more thing that differs. -/
theorem writtenAt_put {path directory : Path} {before between : Tree} {location : Location}
    (h : Extends directory before between) (hl : between.locate path = .ok location)
    (hd : between.entry? location ≠ some .directory) (bytes : List UInt8) :
    WrittenAt path directory bytes before (between.put location (.file bytes)) location := by
  have hkeeps := keepsDirectories_put_file hd bytes
  refine
    { home := h.home
      located := locate_of_keepsDirectories hkeeps hl
      holds := entry?_put_self (ne_nil_of_entry?_ne hd) _ _
      wasNoDirectory := fun hbefore => hd (h.kept _ _ hbefore)
      kept := fun other entry hne hbefore => ?_
      made := fun other entry hne hafter hnone => ?_ }
  · rw [entry?_put_of_ne hne, h.kept _ _ hbefore]
  · rw [entry?_put_of_ne hne] at hafter
    obtain ⟨hentry, front, hfront, hlocate⟩ := h.made other entry hafter hnone
    exact ⟨hentry, front, hfront, locate_of_keepsDirectories hkeeps hlocate⟩

/-- **The two outcomes of writing a text that can be encoded.** Either the file holds its bytes, or
no file has changed. -/
theorem writeOutput_cases {text : Text} {bytes : List UInt8} (h : text.utf8? = some bytes)
    (tree : Tree) (directory : Path) (fileName : Text) :
    (∃ after location,
      tree.writeOutput text directory fileName = (after, .ok (directory.child fileName)) ∧
      WrittenAt (directory.child fileName) directory bytes tree after location) ∨
    ∃ after fault,
      tree.writeOutput text directory fileName =
        (after, .error ⟨directory.child fileName, .path fault⟩) ∧
      Extends directory tree after := by
  have hmade := extends_makeDirectories tree directory
  rw [writeOutput, h, Option.getD_some, Text.fault?_utf8_eq_none_iff.2 ⟨bytes, h⟩]
  rcases houtcome : tree.makeDirectories directory with ⟨between, fault | ⟨⟩⟩ <;>
    rw [houtcome] at hmade
  · exact .inr ⟨between, fault, rfl, hmade⟩
  · simp only
    rcases between.write_cases (directory.child fileName) bytes with
      ⟨fault, hwrite⟩ | ⟨location, hlocate, hentry, hwrite⟩
    · rw [hwrite]
      exact .inr ⟨between, fault, rfl, hmade⟩
    · rw [hwrite]
      exact .inl ⟨_, location, rfl, writtenAt_put hmade hlocate hentry bytes⟩

end Tree

end QueryScaffold
