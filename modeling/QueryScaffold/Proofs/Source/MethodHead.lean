import Mathlib.Data.List.Basic
import QueryScaffold.Proofs.Source.Lines

/-!
# The heads of methods among the lines of a file

A line that declares a method has a form of its own: eight spaces, `public`, a type, a name and an
empty pair of brackets. The constructor starts in the same way but has parameters, and every other
line differs in one of its first ten code points. So the methods of a file can be counted and named
by looking at its text.

* `Text.isMethodHead`, `Text.isMethodHead_iff`: the form;
* `QueryMethod.filter_lines`: a method has one such line;
* `SourceFile.filter_lines`: **the lines of this form are the heads of the methods, in their order**.
-/

namespace QueryScaffold

namespace Text

/-- What a line starts with that declares a method. -/
def methodHeadStart : Text := "        public "

/-- The line has the form of a method's head: a type and a name between the start and an empty pair
of brackets. -/
def isMethodHead (line : Text) : Bool :=
  match (line.dropPrefix? methodHeadStart).bind (·.dropSuffix? ("()" : Text)) with
  | some inner => inner.contains (CodePoint.ofChar ' ')
  | none => false

theorem isMethodHead_iff {line : Text} :
    line.isMethodHead = true ↔
      ∃ type name : Text,
        line = ("        public " : Text) ++ type ++ (" " : Text) ++ name ++ ("()" : Text) := by
  have hform : ∀ inner : Text,
      (line.dropPrefix? methodHeadStart).bind (·.dropSuffix? ("()" : Text)) = some inner ↔
        line = methodHeadStart ++ inner ++ ("()" : Text) := by
    intro inner
    simp only [Option.bind_eq_some_iff, List.dropPrefix?_eq_some_iff, List.dropSuffix?_eq_some_iff,
      beq_iff_eq]
    constructor
    · rintro ⟨rest, ⟨front, rfl, rfl⟩, back, rfl, rfl⟩
      exact (List.append_assoc ..).symm
    · intro h
      exact ⟨inner ++ ("()" : Text), ⟨_, by rw [h, List.append_assoc], rfl⟩, _, rfl, rfl⟩
  constructor
  · intro h
    rw [isMethodHead] at h
    cases hm : (line.dropPrefix? methodHeadStart).bind (·.dropSuffix? ("()" : Text)) with
    | none => simp [hm] at h
    | some inner =>
      rw [hm] at h
      obtain ⟨type, name, hinner⟩ := List.append_of_mem (List.contains_iff_mem.1 h)
      refine ⟨type, name, ?_⟩
      rw [(hform inner).1 hm, hinner]
      simp [methodHeadStart, ofString]
  · rintro ⟨type, name, h⟩
    have hm := (hform (type ++ (" " : Text) ++ name)).2 (by
      rw [h, methodHeadStart]
      simp only [List.append_assoc])
    rw [isMethodHead, hm]
    simp [ofString]

/-- A line that differs from the start somewhere is no method's head. -/
theorem isMethodHead_eq_false {t : Text} (i : Nat) (hi : i < 15)
    (h : t[i]? ≠ methodHeadStart[i]?) : t.isMethodHead = false := by
  by_contra hc
  obtain ⟨type, name, rfl⟩ := isMethodHead_iff.1 (Bool.of_not_eq_false hc)
  refine h ?_
  rw [List.append_assoc, List.append_assoc, List.append_assoc]
  exact List.getElem?_append_left hi

/-- A line that does not end in a pair of brackets is no method's head. -/
theorem isMethodHead_eq_false_of_getLast? {line : Text} {c : CodePoint}
    (hc : c ≠ CodePoint.ofChar '(') (h : (line.dropLast).getLast? = some c) :
    line.isMethodHead = false := by
  by_contra hm
  obtain ⟨type, name, rfl⟩ := isMethodHead_iff.1 (Bool.of_not_eq_false hm)
  have hend : ∀ t : Text, (t ++ ("()" : Text)).dropLast.getLast? = some (CodePoint.ofChar '(') := by
    intro t
    have hpair : t ++ ("()" : Text) =
        (t ++ [CodePoint.ofChar '(']) ++ [CodePoint.ofChar ')'] := by simp [ofString]
    rw [hpair, List.dropLast_concat, List.getLast?_concat]
  rw [hend] at h
  exact hc (Option.some.inj h).symm

end Text

/-! ## Methods -/

namespace QueryMethod

theorem isMethodHead_headLine (m : QueryMethod) : m.headLine.isMethodHead = true :=
  Text.isMethodHead_iff.2 ⟨m.returnType, m.name, rfl⟩

theorem isMethodHead_annotationLine (name : Text) : (annotationLine name).isMethodHead = false :=
  Text.isMethodHead_eq_false 8 (by omega) (show some _ ≠ some _ by decide)

/-- **A method has one line that declares it.** -/
theorem filter_lines (m : QueryMethod) : m.lines.filter Text.isMethodHead = [m.headLine] := by
  have hsummary : (("        /// " : Text) ++ m.summary).isMethodHead = false :=
    Text.isMethodHead_eq_false 8 (by omega) (show some _ ≠ some _ by decide)
  have hcontext : m.contextLine.isMethodHead = false :=
    Text.isMethodHead_eq_false 8 (by omega) (show some _ ≠ some _ by decide)
  have hreturn : m.returnLine.isMethodHead = false :=
    Text.isMethodHead_eq_false 8 (by omega) (show some _ ≠ some _ by decide)
  have hannotations : (m.annotations.map annotationLine).filter Text.isMethodHead = [] := by
    rw [List.filter_eq_nil_iff]
    intro line hl
    obtain ⟨name, -, rfl⟩ := List.mem_map.1 hl
    simp [isMethodHead_annotationLine]
  have hfront : [([] : Text), "        /// <summary>", ("        /// " : Text) ++ m.summary,
      "        /// </summary>"].filter Text.isMethodHead = [] := by
    rw [List.filter_eq_nil_iff]
    simp only [List.forall_mem_cons, hsummary]
    exact ⟨by decide, by decide, by decide, by decide, by simp⟩
  have hback : [m.headLine, "        \x7b", m.contextLine, m.returnLine,
      "        \x7d"].filter Text.isMethodHead = [m.headLine] := by
    have hopen : ("        \x7b" : Text).isMethodHead = false := by decide
    have hclose : ("        \x7d" : Text).isMethodHead = false := by decide
    simp [isMethodHead_headLine, hcontext, hreturn, hopen, hclose]
  rw [lines, List.filter_append, List.filter_append, hannotations, hfront, hback]
  rfl

end QueryMethod

/-! ## Files -/

/-- Joined parts that are not empty end like one of them. -/
theorem Text.exists_getLast?_joined (separator : Text) {parts : List Text} (hne : parts ≠ [])
    (h : ∀ part ∈ parts, part ≠ []) :
    ∃ part ∈ parts, (joined separator parts).getLast? = part.getLast? := by
  induction parts with
  | nil => exact absurd rfl hne
  | cons part rest ih =>
    cases rest with
    | nil => exact ⟨part, by simp, rfl⟩
    | cons next rest =>
      obtain ⟨p, hp, hlast⟩ := ih (by simp) fun p hp => h p (List.mem_cons_of_mem _ hp)
      refine ⟨p, List.mem_cons_of_mem _ hp, ?_⟩
      have hsome : p.getLast? = some (p.getLast (h p (List.mem_cons_of_mem _ hp))) :=
        List.getLast?_eq_some_getLast _
      rw [joined_cons_cons, List.getLast?_append, hlast, hsome]
      rfl

/-- A declaration ends with a word character. -/
theorem Variable.exists_getLast?_declaration {v : Variable}
    (h : v.identifier.isIdentifier = true) :
    ∃ c, v.declaration.getLast? = some c ∧ c.isWord = true := by
  have hne := Text.ne_nil_of_isIdentifier h
  refine ⟨v.identifier.getLast hne, ?_, ?_⟩
  · rw [declaration, List.getLast?_append, List.getLast?_eq_some_getLast hne]
    rfl
  · exact Text.isWord_of_mem (Text.isWord_of_isIdentifier h) (List.getLast_mem hne)

namespace SourceFile

variable {file : SourceFile}

/-- The constructor has parameters, so its line does not end in an empty pair of brackets. -/
theorem isMethodHead_constructorLine (h : file.WellFormed) :
    file.queryClass.constructorLine.isMethodHead = false := by
  have hne : ∀ part ∈ file.queryClass.parameters.map Variable.declaration, part ≠ [] := by
    intro part hm
    obtain ⟨p, -, rfl⟩ := List.mem_map.1 hm
    simp [Variable.declaration, Text.ofString]
  obtain ⟨part, hp, hlast⟩ := Text.exists_getLast?_joined (", " : Text)
    (by simpa using h.parameters_ne_nil) hne
  obtain ⟨p, hm, rfl⟩ := List.mem_map.1 hp
  obtain ⟨c, hc, hw⟩ := Variable.exists_getLast?_declaration (h.parameters p hm).2
  refine Text.isMethodHead_eq_false_of_getLast? (c := c) ?_ ?_
  · rintro rfl
    exact absurd hw (by decide)
  · have hbracket : (")" : Text) = [CodePoint.ofChar ')'] := rfl
    rw [QueryClass.constructorLine, hbracket, List.dropLast_concat, List.getLast?_append, hlast, hc]
    rfl

theorem isMethodHead_openingLines (h : file.WellFormed) :
    ∀ line ∈ file.queryClass.openingLines, line.isMethodHead = false := by
  simp only [QueryClass.openingLines, List.forall_mem_cons]
  refine ⟨?_, ?_, ?_, by decide, isMethodHead_constructorLine h, ?_, ?_, ?_, ?_, by simp⟩
  · exact Text.isMethodHead_eq_false 4 (by omega) (show some _ ≠ some _ by decide)
  · decide
  · exact Text.isMethodHead_eq_false 9 (by omega) (show some _ ≠ some _ by decide)
  · exact Text.isMethodHead_eq_false 8 (by omega) (show some _ ≠ some _ by decide)
  · decide
  · exact Text.isMethodHead_eq_false 8 (by omega) (show some _ ≠ some _ by decide)
  · decide

theorem isMethodHead_headerLines (h : file.WellFormed) :
    ∀ line ∈ file.headerLines, line.isMethodHead = false := by
  simp only [headerLines, List.forall_mem_append, List.forall_mem_cons, List.forall_mem_map]
  refine ⟨⟨⟨⟨?_, by simp⟩, fun name _ => ?_⟩, by decide, ?_, by decide, by simp⟩,
    isMethodHead_openingLines h⟩
  · exact Text.isMethodHead_eq_false 0 (by omega) (show some _ ≠ some _ by decide)
  · exact Text.isMethodHead_eq_false 0 (by omega) (show some _ ≠ some _ by decide)
  · exact Text.isMethodHead_eq_false 0 (by omega) (show some _ ≠ some _ by decide)

theorem isMethodHead_footerLines : ∀ line ∈ footerLines, line.isMethodHead = false := by
  decide

/-- **The lines with the form of a method's head are the heads of the methods**, in their order. -/
theorem filter_lines (h : file.WellFormed) :
    file.lines.filter Text.isMethodHead = file.queryClass.methods.map QueryMethod.headLine := by
  have hheader : file.headerLines.filter Text.isMethodHead = [] :=
    List.filter_eq_nil_iff.2 fun line hl => by simp [isMethodHead_headerLines h line hl]
  have hfooter : footerLines.filter Text.isMethodHead = [] := by decide
  have hmethods : ∀ methods : List QueryMethod,
      (methods.flatMap QueryMethod.lines).filter Text.isMethodHead =
        methods.map QueryMethod.headLine := by
    intro methods
    induction methods with
    | nil => rfl
    | cons m rest ih =>
      rw [List.flatMap_cons, List.filter_append, QueryMethod.filter_lines, ih]
      rfl
  rw [lines, List.filter_append, List.filter_append, hheader, hfooter, hmethods, List.append_nil]
  rfl

end SourceFile

end QueryScaffold
