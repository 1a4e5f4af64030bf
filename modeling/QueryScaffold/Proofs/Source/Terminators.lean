import Mathlib.Algebra.GroupWithZero.Nat
import QueryScaffold.Proofs.Source.Faithful

/-!
# How the lines of a rendered file end

There is a line feed at the end of every line and nowhere else. The check of a file keeps line feeds
out of its comments, but not the other characters that end a line of the generated language.

* `SourceFile.count_lineFeed_text`: how many lines a well-formed file has;
* `CodePoint.isLineTerminator`: the characters that end a line;
* `Text.firstLine`: a text up to the first of them;
* `SourceFile.render_lineTerminators`: **the characters that end a line of a rendered file**, where
  nothing is known of those in comments but that they are no line feeds.
-/

namespace QueryScaffold

/-! ## Line feeds -/

namespace SourceFile

variable {file : SourceFile}

theorem length_lines (file : SourceFile) :
    file.lines.length = 15 + file.imports.length +
      (file.queryClass.methods.map fun m => 9 + m.annotations.length).sum := by
  have hmethod : ∀ m : QueryMethod, m.lines.length = 9 + m.annotations.length := by
    intro m
    simp only [QueryMethod.lines, List.length_append, List.length_cons, List.length_nil,
      List.length_map]
    omega
  simp only [lines, headerLines, QueryClass.openingLines, footerLines, List.length_append,
    List.length_cons, List.length_nil, List.length_map, List.length_flatMap, hmethod]
  omega

/-- How many lines a well-formed file has. -/
theorem count_lineFeed_text (h : file.WellFormed) :
    file.text.count (CodePoint.ofChar '\n') = 15 + file.imports.length +
      (file.queryClass.methods.map fun m => 9 + m.annotations.length).sum := by
  rw [text, count_lineFeed_textOfLines (lineFeed_notMem_lines h), length_lines]

end SourceFile

/-! ## The characters that end a line -/

/-- A character that ends a line of the generated language: a line feed, a carriage return, U+0085,
U+2028 or U+2029. -/
def CodePoint.isLineTerminator (c : CodePoint) : Bool :=
  [0x0A, 0x0D, 0x85, 0x2028, 0x2029].contains c.value

theorem CodePoint.isPrintableAscii_of_isLineTerminator {c : CodePoint}
    (h : c.isLineTerminator = true) : c.isPrintableAscii = false := by
  simp only [isLineTerminator, List.contains_eq_mem, List.mem_cons, List.not_mem_nil, or_false,
    decide_eq_true_eq] at h
  simp only [isPrintableAscii, Bool.and_eq_false_iff, decide_eq_false_iff_not]
  omega

/-- What a text starts with, up to the first line terminator. -/
def Text.firstLine (t : Text) : Text :=
  t.takeWhile fun c => !c.isLineTerminator

/-- The part before a terminator is the first line exactly if it has no terminator itself. -/
theorem Text.firstLine_append_cons_eq_iff {line rest : Text} {c : CodePoint}
    (hc : c.isLineTerminator = true) :
    (line ++ c :: rest).firstLine = line ↔ ∀ d ∈ line, d.isLineTerminator = false := by
  constructor
  · intro h d hd
    rw [← h] at hd
    simpa using List.all_eq_true.1 List.all_takeWhile d hd
  · intro h
    rw [firstLine, List.takeWhile_append_of_pos (by simpa using h), List.takeWhile_cons_of_neg
      (by simp [hc]), List.append_nil]

namespace SourceFile

/-- **The characters that end a line of a rendered file.** There is one line feed for each line of
the file. Every other character that ends a line comes from a comment, and stands in the text as
often as in the comments: nothing keeps it out. So the first comment is the first line exactly if it
has no such character. -/
theorem render_lineTerminators {file : SourceFile} {text : Text} (h : file.render = .ok text) :
    text.count (CodePoint.ofChar '\n') = 15 + file.imports.length +
        (file.queryClass.methods.map fun m => 9 + m.annotations.length).sum ∧
      (∀ c : CodePoint, c.isLineTerminator = true → c ≠ CodePoint.ofChar '\n' →
        text.count c = file.comments.flatten.count c) ∧
      (text.firstLine = ("// " : Text) ++ file.provenance ↔
        ∀ c ∈ file.provenance, c.isLineTerminator = false) := by
  obtain ⟨hfile, rfl⟩ := render_eq_ok_iff.1 h
  refine ⟨count_lineFeed_text hfile, fun c hc hf => ?_, ?_⟩
  · rw [SourceFile.text, count_textOfLines hf]
    exact count_lines_of_isPrintableAscii hfile
      (CodePoint.isPrintableAscii_of_isLineTerminator hc)
  · have htext : file.text = (("// " : Text) ++ file.provenance) ++ CodePoint.ofChar '\n' ::
        textOfLines file.lines.tail := textOfLines_cons _ _
    rw [htext, Text.firstLine_append_cons_eq_iff (by decide), List.forall_mem_append]
    exact and_iff_right (by decide)

/-- A file whose first comment goes on behind a carriage return. -/
def brokenComment : SourceFile :=
  { nestedArguments "Customer" with provenance := "made by hand\rint code;" }

theorem render_brokenComment : brokenComment.render = .ok brokenComment.text :=
  render_eq_ok_iff.2 ⟨fault?_eq_none_iff.1 (by decide +kernel), rfl⟩

theorem render_lineTerminators_brokenComment :
    ∃ text, brokenComment.render = .ok text ∧
      text.count (CodePoint.ofChar '\n') = 28 ∧ text.count (CodePoint.ofChar '\r') = 1 ∧
      text.firstLine ≠ ("// " : Text) ++ brokenComment.provenance := by
  obtain ⟨hfeeds, hothers, hfirst⟩ := render_lineTerminators render_brokenComment
  refine ⟨brokenComment.text, render_brokenComment, hfeeds, ?_, fun h => ?_⟩
  · rw [hothers _ (by decide) (by decide)]
    decide
  · exact absurd (hfirst.1 h) (by decide)

/-- **A comment may end its line.** The rest of it stands where code is expected. -/
theorem brokenComment_ends_line :
    ∃ text, brokenComment.render = .ok text ∧
      text = ("// made by hand\rint code;\n" : Text) ++ textOfLines brokenComment.lines.tail ∧
      CodePoint.ofChar '\r' ∈ text ∧ text.firstLine = "// made by hand" ∧
      text.firstLine ≠ ("// " : Text) ++ brokenComment.provenance := by
  refine ⟨brokenComment.text, render_brokenComment, rfl, ?_⟩
  decide

end SourceFile

end QueryScaffold
