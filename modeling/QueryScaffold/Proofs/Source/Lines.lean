import QueryScaffold.Proofs.Source.Characters

/-!
# The lines of a rendered file

A file is rendered line by line, and what can be read back from the text are its parts between line
feeds. The two are the same lines, because a line feed is not printable and no comment of a
well-formed file holds one.

* `split_textOfLines`: lines without line feeds can be read back;
* `count_textOfLines`, `count_lineFeed_textOfLines`: how often a character stands in the text of
  lines;
* `SourceFile.split_text`: **the text of a well-formed file falls into the lines of the file**, with
  an empty part at the end.
-/

namespace QueryScaffold

/-! ## Lines and their text -/

theorem textOfLines_cons (line : Text) (rest : List Text) :
    textOfLines (line :: rest) = line ++ CodePoint.ofChar '\n' :: textOfLines rest := by
  show (line ++ ("\n" : Text)) ++ textOfLines rest = _
  rw [List.append_assoc]
  rfl

theorem textOfLines_append (lines rest : List Text) :
    textOfLines (lines ++ rest) = textOfLines lines ++ textOfLines rest :=
  List.flatMap_append

/-- Lines without line feeds can be read back. The part behind the last line feed is empty. -/
theorem split_textOfLines {lines : List Text}
    (h : ∀ line ∈ lines, CodePoint.ofChar '\n' ∉ line) :
    (textOfLines lines).split (CodePoint.ofChar '\n') = lines ++ [[]] := by
  induction lines with
  | nil => rfl
  | cons line rest ih =>
    rw [textOfLines_cons, Text.split_append_cons (h line (by simp)),
      ih fun l hl => h l (List.mem_cons_of_mem _ hl)]
    rfl

/-- A character of a text stands in one of its lines or ends one. -/
theorem mem_textOfLines {lines : List Text} {c : CodePoint} (h : c ∈ textOfLines lines) :
    c = CodePoint.ofChar '\n' ∨ ∃ line ∈ lines, c ∈ line := by
  obtain ⟨line, hl, hc⟩ := List.mem_flatMap.1 h
  rcases List.mem_append.1 hc with hc | hc
  · exact .inr ⟨line, hl, hc⟩
  · exact .inl (by simpa [Text.ofString] using hc)

/-- Only line feeds come between lines. -/
theorem count_textOfLines {c : CodePoint} (h : c ≠ CodePoint.ofChar '\n') (lines : List Text) :
    (textOfLines lines).count c = lines.flatten.count c := by
  induction lines with
  | nil => rfl
  | cons line rest ih =>
    rw [textOfLines_cons, List.count_append, List.count_cons_of_ne h.symm, ih, List.flatten_cons,
      List.count_append]

/-- There are as many line feeds as lines, if none stands in a line. -/
theorem count_lineFeed_textOfLines {lines : List Text}
    (h : ∀ line ∈ lines, CodePoint.ofChar '\n' ∉ line) :
    (textOfLines lines).count (CodePoint.ofChar '\n') = lines.length := by
  induction lines with
  | nil => rfl
  | cons line rest ih =>
    rw [textOfLines_cons, List.count_append, List.count_cons_self,
      List.count_eq_zero.2 (h line (by simp)), ih fun l hl => h l (List.mem_cons_of_mem _ hl),
      List.length_cons]
    omega

/-! ## The lines of a file -/

namespace SourceFile

variable {file : SourceFile}

/-- A line feed is not printable, and none stands in a comment. -/
theorem lineFeed_notMem_lines (h : file.WellFormed) :
    ∀ line ∈ file.lines, CodePoint.ofChar '\n' ∉ line := by
  have hcomments : CodePoint.ofChar '\n' ∉ file.comments.flatten := by
    intro hm
    obtain ⟨comment, hc, hm⟩ := List.mem_flatten.1 hm
    rcases List.mem_cons.1 hc with rfl | hc
    · exact h.provenance hm
    · obtain ⟨m, hmethod, rfl⟩ := List.mem_map.1 hc
      exact (h.methods m hmethod).summary hm
  have hcount : file.lines.flatten.count (CodePoint.ofChar '\n') = 0 := by
    rw [count_lines_of_isPrintableAscii h (by decide), List.count_eq_zero.2 hcomments]
  intro line hl hm
  exact List.count_eq_zero.1 hcount (List.mem_flatten.2 ⟨line, hl, hm⟩)

/-- **The text of a well-formed file falls into the lines of the file.** -/
theorem split_text (h : file.WellFormed) :
    file.text.split (CodePoint.ofChar '\n') = file.lines ++ [[]] :=
  split_textOfLines (lineFeed_notMem_lines h)

end SourceFile

end QueryScaffold
