import QueryScaffold.Proofs.Source.Lines
import QueryScaffold.Proofs.Text.Nesting

/-!
# The brackets of a rendered file

Identifiers hold no brackets and type names nest theirs, so every line of a well-formed file is
nested by itself, except those that hold one brace. The braces stand in lines of their own around
nested lines. Of the comments in a file nothing is known but that they are one line each: their
brackets have to be nested already.

* `Text.Nested.of_typeName`: **the angle brackets of a type name are nested**;
* `bracedLines`: lines between two that hold a brace each, and `nested_bracedLines`;
* `QueryMethod.lines_eq_braced`, `SourceFile.lines_eq_braced`: the lines of methods and files as
  blocks between braces;
* `SourceFile.nested_text`: **the brackets of all four kinds are nested in the whole text** of a
  well-formed file with nested comments.
-/

namespace QueryScaffold

namespace Text

/-! ## Names -/

theorem isBracket_of_isWord {c : CodePoint} (h : c.isWord = true) : c.isBracket = false := by
  have hopening : ∀ kind : BracketKind, kind.opening.isWord = false := by
    intro kind
    cases kind <;> decide
  have hclosing : ∀ kind : BracketKind, kind.closing.isWord = false := by
    intro kind
    cases kind <;> decide
  rw [CodePoint.isBracket, Bool.or_eq_false_iff, Option.isSome_eq_false_iff,
    Option.isSome_eq_false_iff, Option.isNone_iff_eq_none, Option.isNone_iff_eq_none]
  constructor
  · refine Option.eq_none_iff_forall_ne_some.2 fun kind ho => ?_
    rw [BracketKind.eq_opening_of_opened? ho, hopening] at h
    exact absurd h (by decide)
  · refine Option.eq_none_iff_forall_ne_some.2 fun kind hc => ?_
    rw [BracketKind.eq_closing_of_closed? hc, hclosing] at h
    exact absurd h (by decide)

namespace Nested

theorem of_isWord {t : Text} (h : t.isWord = true) : Nested t :=
  of_noBracket fun _ hc => isBracket_of_isWord (isWord_of_mem h hc)

theorem of_isIdentifier {t : Text} (h : t.isIdentifier = true) : Nested t :=
  of_isWord (isWord_of_isIdentifier h)

theorem of_isQualifiedName {t : Text} (h : t.isQualifiedName = true) : Nested t := by
  refine of_noBracket fun c hc => ?_
  rcases eq_point_or_isWord_of_mem h hc with rfl | hw
  · decide
  · exact isBracket_of_isWord hw

theorem of_paddedArgument {a : PaddedArgument} (h : Nested a.argument) : Nested a.text := by
  have hspaces : ∀ n, Nested (List.replicate n (CodePoint.ofChar ' ')) := by
    intro n
    refine of_noBracket fun c hc => ?_
    rw [List.eq_of_mem_replicate hc]
    decide
  exact ((hspaces _).append h).append (hspaces _)

theorem of_paddedArguments {arguments : List PaddedArgument}
    (h : ∀ a ∈ arguments, Nested a.argument) :
    Nested (Text.joined ("," : Text) (arguments.map PaddedArgument.text)) := by
  refine .joined (by decide) fun part hp => ?_
  obtain ⟨a, ha, rfl⟩ := List.mem_map.1 hp
  exact of_paddedArgument (h a ha)

/-- **The angle brackets of a type name are nested.** -/
theorem of_typeName {t : Text} (h : TypeName t) : Nested t := by
  induction h with
  | predefined hp => exact of_isWord (isWord_of_mem_predefinedTypes _ hp)
  | qualified hq => exact of_isQualifiedName hq
  | generic hq _ _ ih =>
    have hbrackets := (of_isQualifiedName hq).append ((of_paddedArguments ih).enclosed .angle)
    rw [List.append_assoc, List.append_assoc]
    exact hbrackets

theorem of_isTypeList {t : Text} (h : t.IsTypeList) : Nested t := by
  obtain ⟨arguments, -, ha, rfl⟩ := h
  exact of_paddedArguments fun a hm => of_typeName (ha a hm)

/-- Brackets around a nested text, between two others. -/
theorem around {front t back : Text} (hf : Nested front) (kind : BracketKind) (ht : Nested t)
    (hb : Nested back) : Nested (front ++ [kind.opening] ++ t ++ ([kind.closing] ++ back)) := by
  have htext : front ++ [kind.opening] ++ t ++ ([kind.closing] ++ back) =
      front ++ (kind.opening :: t ++ [kind.closing]) ++ back := by
    simp only [List.append_assoc, List.cons_append, List.nil_append]
  rw [htext]
  exact (hf.append (ht.enclosed kind)).append hb

end Nested

end Text

/-! ## Lines -/

/-- Nested lines in a row. -/
theorem nested_textOfLines {lines : List Text} (h : ∀ line ∈ lines, line.Nested) :
    (textOfLines lines).Nested := by
  induction lines with
  | nil => exact .nil
  | cons line rest ih =>
    have hline : (line ++ ("\n" : Text)).Nested := (h line (by simp)).append (by decide)
    exact hline.append (ih fun l hl => h l (List.mem_cons_of_mem _ hl))

/-- Lines between two that hold a brace each. -/
def bracedLines (indent : Text) (lines : List Text) : List Text :=
  [indent ++ ("\x7b" : Text)] ++ lines ++ [indent ++ ("\x7d" : Text)]

theorem nested_bracedLines {indent : Text} (hi : indent.Nested) {lines : List Text}
    (h : (textOfLines lines).Nested) : (textOfLines (bracedLines indent lines)).Nested := by
  have hopen : textOfLines [indent ++ ("\x7b" : Text)] =
      indent ++ [BracketKind.brace.opening] ++ ("\n" : Text) := by
    simp [textOfLines, Text.ofString, BracketKind.opening]
  have hclose : textOfLines [indent ++ ("\x7d" : Text)] =
      indent ++ ([BracketKind.brace.closing] ++ ("\n" : Text)) := by
    simp [textOfLines, Text.ofString, BracketKind.closing]
  have hend : ("\n" : Text).Nested := by decide
  have hblock := hi.around .brace ((hend.append h).append hi) hend
  rw [bracedLines, textOfLines_append, textOfLines_append, hopen, hclose]
  simp only [List.append_assoc] at hblock ⊢
  exact hblock

/-! ## The lines of a method -/

namespace QueryMethod

theorem lines_eq_braced (m : QueryMethod) :
    m.lines = [[], "        /// <summary>", ("        /// " : Text) ++ m.summary,
      "        /// </summary>"] ++ m.annotations.map annotationLine ++ [m.headLine] ++
      bracedLines "        " [m.contextLine, m.returnLine] := by
  rw [lines, List.append_assoc _ [m.headLine]]
  rfl

theorem nested_annotationLine {name : Text} (h : name.Nested) : (annotationLine name).Nested := by
  have hopen : ("        [" : Text) = ("        " : Text) ++ [BracketKind.square.opening] := rfl
  rw [annotationLine, hopen]
  exact Text.Nested.around (by decide) .square h .nil

theorem nested_returnLine {m : QueryMethod} (h : m.WellFormed) : m.returnLine.Nested := by
  have hopen : ("(" : Text) = [BracketKind.round.opening] := rfl
  have hclose : (").AsNoTracking();" : Text) =
      [BracketKind.round.closing] ++ (".AsNoTracking();" : Text) := rfl
  have hfront : (("            return " : Text) ++ m.body.helperName).Nested :=
    .append (by decide) (.of_isIdentifier h.helperName)
  have hquery : (m.body.contextVariable ++ ("." : Text) ++ m.body.accessorName).Nested :=
    .append (.append (.of_isIdentifier h.contextVariable) (by decide))
      (.of_isIdentifier h.accessorName)
  have hline := hfront.around .round hquery (by decide : (".AsNoTracking();" : Text).Nested)
  rw [returnLine, hopen, hclose]
  simp only [List.append_assoc] at hline ⊢
  exact hline

/-- The text of a method whose summary is nested. -/
theorem nested_lines {m : QueryMethod} (h : m.WellFormed) (hs : m.summary.Nested) :
    (textOfLines m.lines).Nested := by
  rw [lines_eq_braced, textOfLines_append]
  refine .append (nested_textOfLines ?_) (nested_bracedLines (by decide) (nested_textOfLines ?_))
  · simp only [List.forall_mem_append, List.forall_mem_cons, List.forall_mem_map]
    refine ⟨⟨⟨.nil, by decide, .append (by decide) hs, by decide, by simp⟩, fun name hn => ?_⟩,
      ?_, by simp⟩
    · exact nested_annotationLine (.of_isQualifiedName (h.annotations name hn))
    · exact .append (.append (.append (.append (by decide) (.of_typeName h.returnType))
        (by decide)) (.of_isIdentifier h.name)) (by decide)
  · simp only [List.forall_mem_cons]
    refine ⟨?_, nested_returnLine h, by simp⟩
    exact .append (.append (.append (.append (by decide) (.of_isIdentifier h.contextVariable))
      (by decide)) (.of_isIdentifier h.factoryField)) (by decide)

end QueryMethod

/-! ## The lines of the class and of the file -/

namespace SourceFile

variable {file : SourceFile}

/-- The lines of what the class declares: its field, its constructor and its methods. -/
def memberLines (file : SourceFile) : List Text :=
  [file.queryClass.fieldLine, [], file.queryClass.constructorLine, file.queryClass.baseCallLine] ++
    bracedLines "        " [file.queryClass.assignmentLine] ++
    file.queryClass.methods.flatMap QueryMethod.lines

theorem lines_eq_braced (file : SourceFile) :
    file.lines = [("// " : Text) ++ file.provenance] ++ file.imports.map importLine ++
      [[], ("namespace " : Text) ++ file.codeNamespace] ++
      bracedLines [] ([file.queryClass.headLine] ++ bracedLines "    " file.memberLines) := by
  have hopening : file.queryClass.openingLines =
      [file.queryClass.headLine, "    \x7b", file.queryClass.fieldLine, [],
        file.queryClass.constructorLine, file.queryClass.baseCallLine] ++
        bracedLines "        " [file.queryClass.assignmentLine] := rfl
  have hfooter : footerLines = [("    " : Text) ++ ("\x7d" : Text)] ++
      [([] : Text) ++ ("\x7d" : Text)] := rfl
  rw [lines, headerLines, hopening, hfooter, memberLines]
  simp only [bracedLines, List.append_assoc, List.cons_append, List.nil_append]
  rfl

theorem nested_constructorLine (h : file.WellFormed) : file.queryClass.constructorLine.Nested := by
  have hopen : ("(" : Text) = [BracketKind.round.opening] := rfl
  have hparameters : (Text.joined (", " : Text)
      (file.queryClass.parameters.map Variable.declaration)).Nested := by
    refine .joined (by decide) fun part hp => ?_
    obtain ⟨p, hm, rfl⟩ := List.mem_map.1 hp
    exact .append (.append (.of_typeName (h.parameters p hm).1) (by decide))
      (.of_isIdentifier (h.parameters p hm).2)
  rw [QueryClass.constructorLine, hopen]
  exact Text.Nested.around (.append (by decide) (.of_isIdentifier h.className)) .round hparameters
    .nil

theorem nested_baseCallLine (h : file.WellFormed) : file.queryClass.baseCallLine.Nested := by
  have hopen : ("            : base(" : Text) =
      ("            : base" : Text) ++ [BracketKind.round.opening] := rfl
  have hforwarded : (Text.joined (", " : Text)
      (file.queryClass.forwarded.map Variable.identifier)).Nested := by
    refine .joined (by decide) fun part hp => ?_
    obtain ⟨p, hm, rfl⟩ := List.mem_map.1 hp
    exact .of_isIdentifier (h.parameters p (List.mem_of_mem_tail hm)).2
  rw [QueryClass.baseCallLine, hopen]
  exact Text.Nested.around (by decide) .round hforwarded .nil

theorem nested_assignmentLine (h : file.WellFormed) : file.queryClass.assignmentLine.Nested := by
  have hparameter :
      ((file.queryClass.factoryParameter?.map Variable.identifier).getD []).Nested := by
    cases hp : file.queryClass.parameters with
    | nil => exact absurd hp h.parameters_ne_nil
    | cons p rest =>
      rw [QueryClass.factoryParameter?, hp]
      exact .of_isIdentifier (h.parameters p (by simp [hp])).2
  exact .append (.append (.append (.append (by decide) (.of_isIdentifier h.fieldName)) (by decide))
    hparameter) (by decide)

theorem nested_methodLines {methods : List QueryMethod} (h : ∀ m ∈ methods, m.WellFormed)
    (hs : ∀ m ∈ methods, m.summary.Nested) :
    (textOfLines (methods.flatMap QueryMethod.lines)).Nested := by
  induction methods with
  | nil => exact .nil
  | cons m rest ih =>
    rw [List.flatMap_cons, textOfLines_append]
    exact (QueryMethod.nested_lines (h m (by simp)) (hs m (by simp))).append
      (ih (fun x hx => h x (List.mem_cons_of_mem _ hx))
        fun x hx => hs x (List.mem_cons_of_mem _ hx))

/-- What stands between the braces of the class. -/
theorem nested_memberLines (h : file.WellFormed)
    (hs : ∀ m ∈ file.queryClass.methods, m.summary.Nested) :
    (textOfLines file.memberLines).Nested := by
  have hfield : file.queryClass.fieldLine.Nested :=
    .append (.append (by decide) (.append (.append (.of_typeName h.fieldType) (by decide))
      (.of_isIdentifier h.fieldName))) (by decide)
  rw [memberLines, textOfLines_append, textOfLines_append]
  refine .append (.append (nested_textOfLines ?_) (nested_bracedLines (by decide)
    (nested_textOfLines ?_))) (nested_methodLines h.methods hs)
  · simp only [List.forall_mem_cons]
    exact ⟨hfield, .nil, nested_constructorLine h, nested_baseCallLine h, by simp⟩
  · rw [List.forall_mem_singleton]
    exact nested_assignmentLine h

/-- **The brackets of a well-formed file are nested**, all four kinds together, if those of its
comments are. -/
theorem nested_text (h : file.WellFormed) (hp : file.provenance.Nested)
    (hs : ∀ m ∈ file.queryClass.methods, m.summary.Nested) : file.text.Nested := by
  have hclass : file.queryClass.headLine.Nested :=
    .append (.append (.append (by decide) (.of_isIdentifier h.className)) (by decide))
      (.of_typeName h.baseTypeName)
  rw [text, lines_eq_braced, textOfLines_append]
  refine .append (nested_textOfLines ?_) (nested_bracedLines .nil ?_)
  · simp only [List.forall_mem_append, List.forall_mem_cons, List.forall_mem_map]
    refine ⟨⟨⟨.append (by decide) hp, by simp⟩, fun name hn => ?_⟩, .nil, ?_, by simp⟩
    · exact .append (.append (by decide) (.of_isQualifiedName (h.imports name hn))) (by decide)
    · exact .append (by decide) (.of_isQualifiedName h.codeNamespace)
  · rw [textOfLines_append]
    exact .append (nested_textOfLines (List.forall_mem_singleton.2 hclass))
      (nested_bracedLines (by decide) (nested_memberLines h hs))

end SourceFile

end QueryScaffold
