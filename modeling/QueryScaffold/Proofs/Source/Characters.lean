import QueryScaffold.Proofs.Source.Validity

/-!
# The characters of a source file

Names, types and what is written between them are made of printable ASCII characters. A character of
any other kind comes from a comment, and comments are written as they are.

* `Text.PrintableAscii`: texts of the characters from U+0020 to U+007E;
* `SourceFile.printableAscii_lines`: the lines of a well-formed file with such comments;
* `SourceFile.withoutComments`, `SourceFile.count_lines`: **every comment is written once**, as it
  is;
* `SourceFile.count_lines_of_isPrintableAscii`: **other characters come from comments**.
-/

namespace QueryScaffold

/-! ## Printable ASCII characters -/

/-- A character from U+0020 to U+007E. -/
def CodePoint.isPrintableAscii (c : CodePoint) : Bool :=
  0x20 ≤ c.value && c.value ≤ 0x7E

/-- Every character is one from U+0020 to U+007E. -/
def Text.PrintableAscii (t : Text) : Prop :=
  ∀ c ∈ t, c.isPrintableAscii = true

instance (t : Text) : Decidable t.PrintableAscii :=
  inferInstanceAs (Decidable (∀ c ∈ t, c.isPrintableAscii = true))

theorem CodePoint.isPrintableAscii_iff {c : CodePoint} :
    c.isPrintableAscii = true ↔ 0x20 ≤ c.value ∧ c.value ≤ 0x7E := by
  simp [isPrintableAscii]

theorem CodePoint.isPrintableAscii_of_isWord {c : CodePoint} (h : c.isWord = true) :
    c.isPrintableAscii = true := by
  simp only [isWord, isWordStart, isPrintableAscii, Bool.or_eq_true, Bool.and_eq_true,
    decide_eq_true_eq] at h ⊢
  omega

namespace Text.PrintableAscii

theorem notMem {t : Text} (h : t.PrintableAscii) {c : CodePoint}
    (hc : c.isPrintableAscii = false) : c ∉ t := by
  intro hm
  rw [h c hm] at hc
  exact absurd hc (by decide)

theorem append {s t : Text} (hs : s.PrintableAscii) (ht : t.PrintableAscii) :
    (s ++ t).PrintableAscii := by
  intro c hc
  rcases List.mem_append.1 hc with hc | hc
  · exact hs c hc
  · exact ht c hc

theorem joined {separator : Text} (hs : separator.PrintableAscii) {parts : List Text}
    (h : ∀ part ∈ parts, part.PrintableAscii) : (Text.joined separator parts).PrintableAscii := by
  intro c hc
  rcases Text.mem_joined hc with hc | ⟨part, hp, hc⟩
  · exact hs c hc
  · exact h part hp c hc

theorem of_isIdentifier {t : Text} (h : t.isIdentifier = true) : t.PrintableAscii :=
  fun _ hc => CodePoint.isPrintableAscii_of_isWord (isWord_of_mem (isWord_of_isIdentifier h) hc)

theorem of_isQualifiedName {t : Text} (h : t.isQualifiedName = true) : t.PrintableAscii := by
  intro c hc
  rcases eq_point_or_isWord_of_mem h hc with rfl | hw
  · decide
  · exact CodePoint.isPrintableAscii_of_isWord hw

theorem of_typeName {t : Text} (h : TypeName t) : t.PrintableAscii := by
  have hpunctuation : typePunctuation.PrintableAscii := by decide
  intro c hc
  rcases isWord_or_mem_of_typeName h hc with hw | hp
  · exact CodePoint.isPrintableAscii_of_isWord hw
  · exact hpunctuation c hp

theorem of_isTypeList {t : Text} (h : t.IsTypeList) : t.PrintableAscii := by
  have hname : TypeName (("Of" : Text) ++ ("<" : Text) ++ t ++ (">" : Text)) :=
    typeName_of_isTypeList (by decide) h
  intro c hc
  exact of_typeName hname c (by simp [hc])

end Text.PrintableAscii

/-! ## Lines of printable characters -/

namespace QueryMethod

theorem printableAscii_lines {m : QueryMethod} (h : m.WellFormed)
    (hs : m.summary.PrintableAscii) : ∀ line ∈ m.lines, line.PrintableAscii := by
  simp only [lines, List.forall_mem_append, List.forall_mem_cons, List.forall_mem_map]
  refine ⟨⟨⟨by decide, by decide, .append (by decide) hs, by decide, by simp⟩, fun a ha => ?_⟩,
    ?_, by decide, ?_, ?_, by decide, by simp⟩
  · exact .append (.append (by decide) (.of_isQualifiedName (h.annotations a ha))) (by decide)
  · exact .append (.append (.append (.append (by decide) (.of_typeName h.returnType))
      (by decide)) (.of_isIdentifier h.name)) (by decide)
  · exact .append (.append (.append (.append (by decide) (.of_isIdentifier h.contextVariable))
      (by decide)) (.of_isIdentifier h.factoryField)) (by decide)
  · exact .append (.append (.append (.append (.append (.append (by decide)
      (.of_isIdentifier h.helperName)) (by decide)) (.of_isIdentifier h.contextVariable))
      (by decide)) (.of_isIdentifier h.accessorName)) (by decide)

end QueryMethod

namespace SourceFile

variable {file : SourceFile}

theorem printableAscii_openingLines (h : file.WellFormed) :
    ∀ line ∈ file.queryClass.openingLines, line.PrintableAscii := by
  have hname := Text.PrintableAscii.of_isIdentifier h.className
  have hfield := Text.PrintableAscii.of_isIdentifier h.fieldName
  have hdeclarations : (Text.joined (", " : Text)
      (file.queryClass.parameters.map Variable.declaration)).PrintableAscii := by
    refine .joined (by decide) fun part hp => ?_
    obtain ⟨p, hm, rfl⟩ := List.mem_map.1 hp
    exact .append (.append (.of_typeName (h.parameters p hm).1) (by decide))
      (.of_isIdentifier (h.parameters p hm).2)
  have hforwarded : (Text.joined (", " : Text)
      (file.queryClass.forwarded.map Variable.identifier)).PrintableAscii := by
    refine .joined (by decide) fun part hp => ?_
    obtain ⟨p, hm, rfl⟩ := List.mem_map.1 hp
    exact .of_isIdentifier (h.parameters p (List.mem_of_mem_tail hm)).2
  have hparameter :
      ((file.queryClass.factoryParameter?.map Variable.identifier).getD []).PrintableAscii := by
    cases hp : file.queryClass.parameters with
    | nil => exact absurd hp h.parameters_ne_nil
    | cons p rest =>
      rw [QueryClass.factoryParameter?, hp]
      exact .of_isIdentifier (h.parameters p (by simp [hp])).2
  simp only [QueryClass.openingLines, List.forall_mem_cons]
  refine ⟨?_, by decide, ?_, by decide, ?_, ?_, by decide, ?_, by decide, by simp⟩
  · exact .append (.append (.append (by decide) hname) (by decide)) (.of_typeName h.baseTypeName)
  · exact .append (.append (by decide) (.append (.append (.of_typeName h.fieldType) (by decide))
      hfield)) (by decide)
  · exact .append (.append (.append (.append (by decide) hname) (by decide)) hdeclarations)
      (by decide)
  · exact .append (.append (by decide) hforwarded) (by decide)
  · exact .append (.append (.append (.append (by decide) hfield) (by decide)) hparameter)
      (by decide)

theorem printableAscii_headerLines (h : file.WellFormed) (hp : file.provenance.PrintableAscii) :
    ∀ line ∈ file.headerLines, line.PrintableAscii := by
  simp only [headerLines, List.forall_mem_append, List.forall_mem_cons, List.forall_mem_map]
  refine ⟨⟨⟨⟨.append (by decide) hp, by simp⟩, fun name hn => ?_⟩, by decide, ?_, by decide,
    by simp⟩, printableAscii_openingLines h⟩
  · exact .append (.append (by decide) (.of_isQualifiedName (h.imports name hn))) (by decide)
  · exact .append (by decide) (.of_isQualifiedName h.codeNamespace)

/-- The lines of a well-formed file with printable comments. -/
theorem printableAscii_lines (h : file.WellFormed) (hp : file.provenance.PrintableAscii)
    (hs : ∀ m ∈ file.queryClass.methods, m.summary.PrintableAscii) :
    ∀ line ∈ file.lines, line.PrintableAscii := by
  rw [lines, List.forall_mem_append, List.forall_mem_append]
  refine ⟨⟨printableAscii_headerLines h hp, fun line hl => ?_⟩, by decide⟩
  obtain ⟨m, hm, hl⟩ := List.mem_flatMap.1 hl
  exact QueryMethod.printableAscii_lines (h.methods m hm) (hs m hm) line hl

end SourceFile

/-! ## Comments -/

/-- What one line is longer by is counted once more. -/
theorem count_flatten_append_cons (front : List Text) (line added : Text) (back : List Text)
    (c : CodePoint) :
    (front ++ (line ++ added) :: back).flatten.count c =
      (front ++ line :: back).flatten.count c + added.count c := by
  simp only [List.flatten_append, List.flatten_cons, List.count_append]
  omega

namespace QueryMethod

/-- The method with an empty summary. -/
def withoutSummary (m : QueryMethod) : QueryMethod :=
  { m with summary := [] }

/-- The summary of a method is written once. -/
theorem count_lines (m : QueryMethod) (c : CodePoint) :
    m.lines.flatten.count c = m.withoutSummary.lines.flatten.count c + m.summary.count c :=
  count_flatten_append_cons [[], "        /// <summary>"] "        /// " m.summary
    (("        /// </summary>" : Text) :: (m.annotations.map annotationLine ++
      [m.headLine, "        \x7b", m.contextLine, m.returnLine, "        \x7d"])) c

theorem count_flatMap_lines (methods : List QueryMethod) (c : CodePoint) :
    (methods.flatMap lines).flatten.count c =
      ((methods.map withoutSummary).flatMap lines).flatten.count c +
        (methods.map summary).flatten.count c := by
  induction methods with
  | nil => rfl
  | cons m rest ih =>
    simp only [List.map_cons, List.flatMap_cons, List.flatten_append, List.flatten_cons,
      List.count_append]
    rw [count_lines, ih]
    omega

end QueryMethod

namespace SourceFile

variable {file : SourceFile}

/-- The comments of a file. -/
def comments (file : SourceFile) : List Text :=
  file.provenance :: file.queryClass.methods.map QueryMethod.summary

/-- The file with empty comments. -/
def withoutComments (file : SourceFile) : SourceFile :=
  { file with
    provenance := []
    queryClass :=
      { file.queryClass with methods := file.queryClass.methods.map QueryMethod.withoutSummary } }

theorem wellFormed_withoutComments (h : file.WellFormed) : file.withoutComments.WellFormed :=
  { h with
    provenance := List.not_mem_nil
    methods := by
      refine List.forall_mem_map.2 fun m hm => ?_
      exact { h.methods m hm with summary := List.not_mem_nil }
    nodup_methods := by
      have hnames : (file.queryClass.methods.map QueryMethod.withoutSummary).map
          QueryMethod.name = file.queryClass.methods.map QueryMethod.name := by
        rw [List.map_map]
        rfl
      exact hnames ▸ h.nodup_methods }

/-- **Every comment is written once**, as it is. -/
theorem count_lines (file : SourceFile) (c : CodePoint) :
    file.lines.flatten.count c =
      file.withoutComments.lines.flatten.count c + file.comments.flatten.count c := by
  have hheader : file.headerLines.flatten.count c =
      file.withoutComments.headerLines.flatten.count c + file.provenance.count c :=
    count_flatten_append_cons [] "// " file.provenance (file.imports.map importLine ++
      [[], ("namespace " : Text) ++ file.codeNamespace, "\x7b"] ++
        file.queryClass.openingLines) c
  have hmethods : (file.queryClass.methods.flatMap QueryMethod.lines).flatten.count c =
      (file.withoutComments.queryClass.methods.flatMap QueryMethod.lines).flatten.count c +
        (file.queryClass.methods.map QueryMethod.summary).flatten.count c :=
    QueryMethod.count_flatMap_lines file.queryClass.methods c
  simp only [lines, comments, List.flatten_append, List.flatten_cons, List.count_append]
  omega

/-- **What is no printable ASCII character comes from comments.** -/
theorem count_lines_of_isPrintableAscii (h : file.WellFormed) {c : CodePoint}
    (hc : c.isPrintableAscii = false) :
    file.lines.flatten.count c = file.comments.flatten.count c := by
  have hempty : Text.PrintableAscii [] := by decide
  have hlines := printableAscii_lines (wellFormed_withoutComments h) hempty
    (List.forall_mem_map.2 fun _ _ => hempty)
  have hnone : c ∉ file.withoutComments.lines.flatten := by
    intro hm
    obtain ⟨line, hl, hm⟩ := List.mem_flatten.1 hm
    exact (hlines line hl).notMem hc hm
  rw [count_lines, List.count_eq_zero.2 hnone, Nat.zero_add]

end SourceFile

end QueryScaffold
