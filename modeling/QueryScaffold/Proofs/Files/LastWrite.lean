import QueryScaffold.Proofs.Files.Output

/-!
# Writing to one place again

A write that succeeds leaves its directory behind, and a file where its path leads. Neither changes
where any path led before, so that a second write to the same place finds the directory made, puts
its bytes at the same location and takes the place of the first one, as if that had never been.

* `Tree.isDirectory_of_makeDirectories`, `Tree.makeDirectories_of_isDirectory`: what making a
  directory is for, and that it does nothing to one that is there;
* `Tree.writeOutput_eq_ok_iff`: when writing succeeds;
* `Tree.writeOutput_writeOutput`: a second write acts as it would have without the first one;
* `Tree.SameFilesBut`: trees with the same files except at one location;
* `Tree.writeOutput_lastWriter`: **writing is exact, repeatable, and the last writer wins**;
* `Tree.writeInTurn_concat`: the same after any number of writes.
-/

namespace QueryScaffold

namespace Tree

/-! ## Putting an entry twice -/

theorem putEntry_putEntry (location : Location) (old new : Entry)
    (pairs : List (Location × Entry)) :
    putEntry location new (putEntry location old pairs) = putEntry location new pairs := by
  induction pairs with
  | nil => simp [putEntry]
  | cons pair rest ih =>
    obtain ⟨other, found⟩ := pair
    by_cases h : other = location
    · simp [putEntry, h]
    · simp [putEntry, h, ih]

/-- The second of two entries at one location stays. -/
theorem put_put (tree : Tree) (location : Location) (old new : Entry) :
    (tree.put location old).put location new = tree.put location new := by
  simp only [put, putEntry_putEntry]

/-! ## Directories that are there -/

variable {tree before between after : Tree} {path directory : Path} {fileName : Text}

theorem isDirectory_eq_true_iff :
    tree.isDirectory path = .ok true ↔
      ∃ location, tree.locate path = .ok location ∧ tree.entry? location = some .directory := by
  rw [isDirectory, test, entryAt]
  cases tree.locate path with
  | error reason =>
    cases reason with
    | embeddedNull => simp
    | system reason => cases reason <;> simp
  | ok location =>
    cases hentry : tree.entry? location with
    | none => simp [hentry]
    | some entry => cases entry <;> simp [hentry, Entry.isDirectory]

theorem isDirectory_of_keepsDirectories (h : KeepsDirectories before after)
    (hd : before.isDirectory path = .ok true) : after.isDirectory path = .ok true := by
  obtain ⟨location, hlocate, hentry⟩ := isDirectory_eq_true_iff.1 hd
  exact isDirectory_eq_true_iff.2
    ⟨location, locate_of_keepsDirectories h hlocate, h.directory location hentry⟩

theorem isDirectory_of_makeDirectory (h : tree.makeDirectory path = .ok after) :
    after.isDirectory path = .ok true := by
  have hkeeps := (extends_makeDirectory h).keepsDirectories
  obtain ⟨location, hlocate, hentry, rfl⟩ := makeDirectory_eq_ok_iff.1 h
  have hroot : location ≠ [] := ne_nil_of_entry?_ne (by rw [hentry]; nofun)
  exact isDirectory_eq_true_iff.2
    ⟨location, locate_of_keepsDirectories hkeeps hlocate, entry?_put_self hroot _ _⟩

theorem isDirectory_of_orDirectory {reason : PathReason}
    (h : tree.orDirectory path reason = .ok ()) : tree.isDirectory path = .ok true := by
  cases reason with
  | embeddedNull => cases h
  | system reason =>
    rw [orDirectory] at h
    split at h
    · assumption
    · cases h

/-- The last step of making a directory has made it or met it, whatever was made on the way. -/
theorem makeDirectoriesFrom_ok_cases {anchor : Anchor} {names : List Text}
    (h : makeDirectoriesFrom anchor tree names = (after, .ok ())) :
    (∃ between, makeDirectory between ⟨anchor, names.reverse⟩ = .ok after) ∨
      ∃ reason, after.orDirectory ⟨anchor, names.reverse⟩ reason = .ok () := by
  cases names with
  | nil =>
    rw [makeDirectoriesFrom] at h
    split at h
    · next made hmade =>
      obtain ⟨rfl, -⟩ := Prod.mk.inj h
      exact .inl ⟨tree, hmade⟩
    · next reason _ =>
      obtain ⟨rfl, hor⟩ := Prod.mk.inj h
      exact .inr ⟨reason, hor⟩
  | cons name outer =>
    rw [makeDirectoriesFrom] at h
    split at h
    · next made hmade =>
      obtain ⟨rfl, -⟩ := Prod.mk.inj h
      exact .inl ⟨tree, hmade⟩
    · split at h
      · cases congrArg Prod.snd h
      · next between _ =>
        split at h
        · next made hmade =>
          obtain ⟨rfl, -⟩ := Prod.mk.inj h
          exact .inl ⟨between, hmade⟩
        · cases congrArg Prod.snd h
        · next reason _ _ =>
          obtain ⟨rfl, hor⟩ := Prod.mk.inj h
          exact .inr ⟨reason, hor⟩
    · next reason _ _ =>
      obtain ⟨rfl, hor⟩ := Prod.mk.inj h
      exact .inr ⟨reason, hor⟩

/-- Where making a directory succeeds, its path leads to one. -/
theorem isDirectory_of_makeDirectories (h : tree.makeDirectories directory = (after, .ok ())) :
    after.isDirectory directory = .ok true := by
  have hcases := makeDirectoriesFrom_ok_cases h
  rw [List.reverse_reverse] at hcases
  rcases hcases with ⟨between, hmade⟩ | ⟨reason, hmet⟩
  · exact isDirectory_of_makeDirectory hmade
  · exact isDirectory_of_orDirectory hmet

theorem makeDirectory_of_isDirectory (h : tree.isDirectory path = .ok true) :
    tree.makeDirectory path = .error (.system .alreadyThere) := by
  obtain ⟨location, hlocate, hentry⟩ := isDirectory_eq_true_iff.1 h
  simp only [makeDirectory, hlocate, hentry]

theorem makeDirectoriesFrom_of_isDirectory {anchor : Anchor} {names : List Text}
    (h : tree.isDirectory ⟨anchor, names.reverse⟩ = .ok true) :
    makeDirectoriesFrom anchor tree names = (tree, .ok ()) := by
  have hmake := makeDirectory_of_isDirectory h
  have hthere : tree.orDirectory ⟨anchor, names.reverse⟩ (.system .alreadyThere) = .ok () := by
    simp only [orDirectory, h]
  cases names with
  | nil =>
    rw [List.reverse_nil] at hmake hthere
    simp only [makeDirectoriesFrom, hmake, hthere]
  | cons name outer => simp only [makeDirectoriesFrom, hmake, hthere]

/-- A directory that is there is left alone, and so are those it is in. -/
theorem makeDirectories_of_isDirectory (h : tree.isDirectory directory = .ok true) :
    tree.makeDirectories directory = (tree, .ok ()) := by
  refine makeDirectoriesFrom_of_isDirectory ?_
  rw [List.reverse_reverse]
  exact h

/-! ## Writing bytes -/

theorem write_eq_ok_iff {bytes : List UInt8} :
    tree.write path bytes = .ok after ↔
      ∃ location, tree.locate path = .ok location ∧ tree.entry? location ≠ some .directory ∧
        after = tree.put location (.file bytes) := by
  constructor
  · intro h
    rcases tree.write_cases path bytes with
      ⟨fault, herror⟩ | ⟨location, hlocate, hentry, hwrite⟩
    · rw [herror] at h
      cases h
    · rw [hwrite] at h
      exact ⟨location, hlocate, hentry, (Except.ok.inj h).symm⟩
  · rintro ⟨location, hlocate, hentry, rfl⟩
    simp only [write, hlocate]

theorem keepsDirectories_write {bytes : List UInt8} (h : tree.write path bytes = .ok after) :
    KeepsDirectories tree after := by
  obtain ⟨location, -, hentry, rfl⟩ := write_eq_ok_iff.1 h
  exact keepsDirectories_put_file hentry bytes

/-- Bytes that were written before make no difference to what is written now. -/
theorem write_write {old : List UInt8} (h : tree.write path old = .ok between)
    (new : List UInt8) : between.write path new = tree.write path new := by
  have hkeeps := keepsDirectories_write h
  obtain ⟨location, hlocate, hentry, rfl⟩ := write_eq_ok_iff.1 h
  have hroot : location ≠ [] := ne_nil_of_entry?_ne hentry
  have hfile : Tree.entry? (tree.put location (.file old)) location ≠ some .directory := by
    rw [entry?_put_self hroot]
    nofun
  have hnow : tree.write path new = .ok (tree.put location (.file new)) :=
    write_eq_ok_iff.2 ⟨location, hlocate, hentry, rfl⟩
  have hagain : Tree.write (tree.put location (.file old)) path new =
      .ok ((tree.put location (.file old)).put location (.file new)) :=
    write_eq_ok_iff.2 ⟨location, locate_of_keepsDirectories hkeeps hlocate, hfile, rfl⟩
  rw [hnow, hagain, put_put]

/-- Where some bytes can be put, all can. -/
theorem exists_write {old : List UInt8} (h : tree.write path old = .ok between)
    (new : List UInt8) : ∃ final, tree.write path new = .ok final := by
  obtain ⟨location, hlocate, hentry, -⟩ := write_eq_ok_iff.1 h
  exact ⟨_, write_eq_ok_iff.2 ⟨location, hlocate, hentry, rfl⟩⟩

/-! ## Writing texts -/

/-- Writing succeeds if its directory can be made, its text has bytes, and these can be put where
the path leads. -/
theorem writeOutput_eq_ok_iff {text : Text} :
    tree.writeOutput text directory fileName = (after, .ok path) ↔
      path = directory.child fileName ∧ ∃ between bytes,
        tree.makeDirectories directory = (between, .ok ()) ∧ text.utf8? = some bytes ∧
        between.write path bytes = .ok after := by
  constructor
  · intro h
    rw [writeOutput] at h
    rcases hmade : tree.makeDirectories directory with ⟨between, fault | ⟨⟩⟩ <;>
      simp only [hmade] at h
    · cases congrArg Prod.snd h
    · cases hwrite : between.write (directory.child fileName) (text.utf8?.getD []) with
      | error fault =>
        simp only [hwrite] at h
        cases congrArg Prod.snd h
      | ok written =>
        simp only [hwrite] at h
        cases hfault : Encoding.utf8.fault? text with
        | some fault =>
          simp only [hfault] at h
          cases congrArg Prod.snd h
        | none =>
          simp only [hfault, Prod.mk.injEq, Except.ok.injEq] at h
          obtain ⟨rfl, rfl⟩ := h
          obtain ⟨bytes, hbytes⟩ := Text.fault?_utf8_eq_none_iff.1 hfault
          rw [hbytes, Option.getD_some] at hwrite
          exact ⟨rfl, between, bytes, rfl, hbytes, hwrite⟩
  · rintro ⟨rfl, between, bytes, hmade, hbytes, hwrite⟩
    simp only [writeOutput, hmade, hbytes, Option.getD_some, hwrite,
      Text.fault?_utf8_eq_none_iff.2 ⟨bytes, hbytes⟩]

/-- **A second write acts as it would have without the first one**, on the tree as well as in its
outcome, also where its text has no bytes. -/
theorem writeOutput_writeOutput {text : Text}
    (h : tree.writeOutput text directory fileName = (after, .ok path)) (other : Text) :
    after.writeOutput other directory fileName = tree.writeOutput other directory fileName := by
  obtain ⟨rfl, between, bytes, hmade, -, hwrite⟩ := writeOutput_eq_ok_iff.1 h
  -- The file is put where no directory was, so the directory is still there for the second write.
  have hthere : after.isDirectory directory = .ok true :=
    isDirectory_of_keepsDirectories (keepsDirectories_write hwrite)
      (isDirectory_of_makeDirectories hmade)
  obtain ⟨final, hfinal⟩ := exists_write hwrite (other.utf8?.getD [])
  simp only [writeOutput, makeDirectories_of_isDirectory hthere, hmade, write_write hwrite, hfinal]

/-- Where a text was written, every text that has bytes can be written. -/
theorem exists_writeOutput {text other : Text} {bytes : List UInt8}
    (h : tree.writeOutput text directory fileName = (after, .ok path))
    (hbytes : other.utf8? = some bytes) :
    ∃ final, tree.writeOutput other directory fileName = (final, .ok path) := by
  obtain ⟨hpath, between, _, hmade, _, hwrite⟩ := writeOutput_eq_ok_iff.1 h
  obtain ⟨final, hfinal⟩ := exists_write hwrite bytes
  exact ⟨final, writeOutput_eq_ok_iff.2 ⟨hpath, between, bytes, hmade, hbytes, hfinal⟩⟩

/-- Off one location, two trees have the same files: none is there in only one of them, or holds
something else. -/
def SameFilesBut (location : Location) (before after : Tree) : Prop :=
  ∀ other entry, other ≠ location → entry.isFile = true →
    (after.entry? other = some entry ↔ before.entry? other = some entry)

theorem WrittenAt.sameFilesBut {bytes : List UInt8} {location : Location}
    (h : WrittenAt path directory bytes before after location) :
    SameFilesBut location before after := by
  refine fun other entry hne hfile => ⟨fun hafter => ?_, h.kept other entry hne⟩
  cases hbefore : before.entry? other with
  | none =>
    obtain ⟨rfl, -⟩ := h.made other entry hne hafter hbefore
    cases hfile
  | some old => rw [← hafter, h.kept other old hne hbefore]

theorem exists_writtenAt {text : Text}
    (h : tree.writeOutput text directory fileName = (after, .ok path)) :
    ∃ bytes location, text.utf8? = some bytes ∧
      WrittenAt path directory bytes tree after location := by
  obtain ⟨rfl, -, bytes, -, hbytes, -⟩ := writeOutput_eq_ok_iff.1 h
  rcases writeOutput_cases hbytes tree directory fileName with
    ⟨written, location, hok, hwritten⟩ | ⟨written, fault, herror, -⟩
  · obtain rfl := congrArg Prod.fst (h.symm.trans hok)
    exact ⟨bytes, location, hbytes, hwritten⟩
  · cases congrArg Prod.snd (h.symm.trans herror)

/-- **Writing is exact, repeatable, and the last writer wins.** Where a text was written, its path
leads to a file with its bytes and every other file is as it was; to write it again changes nothing;
and to write another text leaves the tree that this one would have left in the first place. -/
theorem writeOutput_lastWriter {text : Text}
    (h : tree.writeOutput text directory fileName = (after, .ok path)) :
    (∃ bytes location, text.utf8? = some bytes ∧ after.entryAt path = .ok (.file bytes) ∧
      after.locate path = .ok location ∧ SameFilesBut location tree after) ∧
    after.writeOutput text directory fileName = (after, .ok path) ∧
    ∀ other bytes, other.utf8? = some bytes → ∃ final,
      after.writeOutput other directory fileName = (final, .ok path) ∧
      tree.writeOutput other directory fileName = (final, .ok path) := by
  refine ⟨?_, (writeOutput_writeOutput h text).trans h, fun other bytes hbytes => ?_⟩
  · obtain ⟨bytes, location, hbytes, hwritten⟩ := exists_writtenAt h
    exact ⟨bytes, location, hbytes, hwritten.entryAt_eq, hwritten.located, hwritten.sameFilesBut⟩
  · obtain ⟨final, hfinal⟩ := exists_writeOutput h hbytes
    exact ⟨final, (writeOutput_writeOutput h other).trans hfinal, hfinal⟩

/-- A working directory with an output of five bytes. -/
def longerOutput : Tree :=
  { home := ["work"]
    entries :=
      [(["work"], .directory), (["work", "api"], .directory),
        (["work", "api", "Query.cs"], .file [0x2F, 0x2F, 0x2F, 0x2F, 0x0A]),
        (["work", "shop.py"], .module [] [])] }

/-- The same working directory with an output of four bytes, and with a directory that the way to it
has led through. -/
def shorterOutput : Tree :=
  { home := ["work"]
    entries :=
      [(["work"], .directory), (["work", "api"], .directory),
        (["work", "api", "Query.cs"], .file [0xC3, 0xA9, 0x0D, 0x0A]),
        (["work", "shop.py"], .module [] []), (["work", "new"], .directory)] }

/-- The first of these paths makes the directory that it leaves again at once. -/
theorem writeOutput_lastWriter_longerOutput :
    longerOutput.writeOutput "é\r\n" (Path.ofText "new//./../api/") "Query.cs" =
      (shorterOutput, .ok (Path.ofText "new/../api/Query.cs")) ∧
    (∃ bytes location, Text.utf8? "é\r\n" = some bytes ∧
      shorterOutput.entryAt (Path.ofText "new/../api/Query.cs") = .ok (.file bytes) ∧
      shorterOutput.locate (Path.ofText "new/../api/Query.cs") = .ok location ∧
      SameFilesBut location longerOutput shorterOutput) ∧
    shorterOutput.writeOutput "é\r\n" (Path.ofText "new//./../api/") "Query.cs" =
      (shorterOutput, .ok (Path.ofText "new/../api/Query.cs")) ∧
    Text.utf8? "//" = some [0x2F, 0x2F] ∧
    ∃ final,
      shorterOutput.writeOutput "//" (Path.ofText "new//./../api/") "Query.cs" =
        (final, .ok (Path.ofText "new/../api/Query.cs")) ∧
      longerOutput.writeOutput "//" (Path.ofText "new//./../api/") "Query.cs" =
        (final, .ok (Path.ofText "new/../api/Query.cs")) := by
  have hwritten : longerOutput.writeOutput "é\r\n" (Path.ofText "new//./../api/") "Query.cs" =
      (shorterOutput, .ok (Path.ofText "new/../api/Query.cs")) := rfl
  have hslashes : Text.utf8? "//" = some [0x2F, 0x2F] := rfl
  obtain ⟨hexact, hagain, hother⟩ := writeOutput_lastWriter hwritten
  exact ⟨hwritten, hexact, hagain, hslashes, hother "//" _ hslashes⟩

/-! ## Many writes -/

/-- The tree after texts were written to one place, one after the other. -/
def writeInTurn (directory : Path) (fileName : Text) (tree : Tree) (texts : List Text) : Tree :=
  texts.foldl (fun tree text => (tree.writeOutput text directory fileName).1) tree

/-- **The last writer wins** over any number of writes: once a text was written, texts that follow
it are gone with the last one. The induction drops the first of the texts, as the second one would
have been written all the same. -/
theorem writeInTurn_concat {text : Text}
    (h : tree.writeOutput text directory fileName = (after, .ok path)) (texts : List Text)
    (htexts : ∀ other ∈ texts, ∃ bytes, other.utf8? = some bytes) (last : Text) :
    writeInTurn directory fileName tree (text :: texts ++ [last]) =
      (tree.writeOutput last directory fileName).1 := by
  induction texts generalizing text after with
  | nil =>
    show ((tree.writeOutput text directory fileName).1.writeOutput last directory fileName).1 = _
    rw [h, writeOutput_writeOutput h]
  | cons next rest ih =>
    obtain ⟨⟨bytes, hbytes⟩, hrest⟩ := List.forall_mem_cons.1 htexts
    obtain ⟨final, hfinal⟩ := exists_writeOutput h hbytes
    have hdrop : writeInTurn directory fileName tree (text :: next :: rest ++ [last]) =
        writeInTurn directory fileName tree (next :: rest ++ [last]) := by
      show (rest ++ [last]).foldl _ ((tree.writeOutput text directory fileName).1.writeOutput next
          directory fileName).1 =
        (rest ++ [last]).foldl _ (tree.writeOutput next directory fileName).1
      rw [h, writeOutput_writeOutput h]
    rw [hdrop, ih hfinal hrest]

end Tree

end QueryScaffold
