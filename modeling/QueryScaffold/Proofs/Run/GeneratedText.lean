import QueryScaffold.Proofs.Files.Output
import QueryScaffold.Proofs.Run.Acceptance
import QueryScaffold.Proofs.Source.Nesting
import QueryScaffold.Proofs.Source.Terminators

/-!
# The text that a run generates

Nothing in the text comes from outside as it is: what the comments take from the settings and the
schema are type names and identifiers again, which the rest of the file has to hold as well. So the
comments are as harmless as the code.

* `nested_provenanceComment`, `SourceFile.summary_ofMatches`: what stands in comments;
* `SourceFile.mem_text_ofMatches`, `SourceFile.nested_text_ofMatches`: the text of the file that is
  made for settings and matches;
* `generateSource_text`: **the text of a run is printable ASCII in lines, with nested brackets**, so
  that it can always be encoded.
-/

namespace QueryScaffold

/-! ## Comments -/

theorem nested_provenanceComment {settings : Settings}
    (h : settings.schemaIdentity.schemaName.IsTypeList) : (provenanceComment settings).Nested :=
  .append (.append (by decide) (.of_isTypeList h)) (by decide)

namespace SourceFile

variable {σ : Type} {settings : Settings} {pairs : List (Match σ)}

/-- The summary of a derived method has no more in it than the name of an accessor. -/
theorem summary_ofMatches (h : (ofMatches settings pairs).WellFormed) :
    ∀ m ∈ (ofMatches settings pairs).queryClass.methods,
      ∃ accessor : Text, accessor.isIdentifier = true ∧
        m.summary = ("Gets the " : Text) ++ accessor ++ ("." : Text) := by
  intro m hm
  obtain ⟨pair, -, hpair⟩ := List.mem_map.1 hm
  have haccessor := (h.methods m hm).accessorName
  subst hpair
  exact ⟨pair.accessor, haccessor, rfl⟩

theorem isTypeList_of_wellFormed (h : (ofMatches settings pairs).WellFormed) :
    settings.schemaIdentity.schemaName.IsTypeList :=
  typeName_factoryType_iff.1 h.fieldType

theorem nested_text_ofMatches (h : (ofMatches settings pairs).WellFormed) :
    (ofMatches settings pairs).text.Nested := by
  refine nested_text h (nested_provenanceComment (isTypeList_of_wellFormed h)) fun m hm => ?_
  obtain ⟨accessor, ha, hs⟩ := summary_ofMatches h m hm
  rw [hs]
  exact .append (.append (by decide) (.of_isIdentifier ha)) (by decide)

theorem mem_text_ofMatches (h : (ofMatches settings pairs).WellFormed) :
    ∀ c ∈ (ofMatches settings pairs).text,
      c = CodePoint.ofChar '\n' ∨ c.isPrintableAscii = true := by
  have hlines := printableAscii_lines h
    (printableAscii_provenanceComment (isTypeList_of_wellFormed h)) fun m hm => by
      obtain ⟨accessor, ha, hs⟩ := summary_ofMatches h m hm
      exact hs ▸ printableAscii_summary ha
  intro c hc
  rcases mem_textOfLines hc with hf | ⟨line, hl, hc⟩
  · exact .inl hf
  · exact .inr (hlines line hl c hc)

/-- The text of a file ends with a line feed. -/
theorem getLast?_text (file : SourceFile) :
    file.text.getLast? = some (CodePoint.ofChar '\n') := by
  have hfooter : (textOfLines footerLines).getLast? = some (CodePoint.ofChar '\n') := by decide
  rw [text, lines, textOfLines_append, List.getLast?_append, hfooter]
  rfl

/-- Printable characters and line feeds are one byte each. -/
theorem utf8?_text_ofMatches (h : (ofMatches settings pairs).WellFormed) :
    (ofMatches settings pairs).text.utf8? =
      some ((ofMatches settings pairs).text.map fun c => c.value.toUInt8) := by
  refine Text.utf8?_of_ascii fun c hc => ?_
  rcases mem_text_ofMatches h c hc with rfl | hp
  · decide
  · simp only [CodePoint.isPrintableAscii, Bool.and_eq_true, decide_eq_true_eq] at hp
    omega

end SourceFile

/-! ## Runs -/

/-- **The text of a run is printable ASCII in lines, with nested brackets.** It ends with a line
feed, and it is never the text's fault that it cannot be written: where writing it fails, everything
that was there is left as it was. -/
theorem generateSource_text {σ : Type} [DecidableEq σ] {settings : Settings}
    {snapshot : Snapshot σ} {world after : World} {g : Generation σ}
    (h : (generateSource settings snapshot).run.run world = (.ok g, after)) :
    (∀ c ∈ g.text, c = CodePoint.ofChar '\n' ∨ c.isPrintableAscii = true) ∧
    g.text.utf8? = some (g.text.map fun c => c.value.toUInt8) ∧
    (∀ (before after : Tree) (directory : Path) (fileName : Text) (fault : OutputFault),
      before.writeOutput g.text directory fileName = (after, .error fault) →
        ∀ location entry, before.entry? location = some entry →
          after.entry? location = some entry) ∧
    g.text.getLast? = some (CodePoint.ofChar '\n') ∧
    g.text.count (CodePoint.ofChar '\n') = 15 + g.file.imports.length +
      (g.file.queryClass.methods.map fun m => 9 + m.annotations.length).sum ∧
    g.text.Nested := by
  obtain ⟨hfile, rfl⟩ := Generation.ofSnapshot_eq_ok_iff.1 (ofSnapshot_eq_ok_of_run h)
  have hbytes := SourceFile.utf8?_text_ofMatches hfile
  refine ⟨SourceFile.mem_text_ofMatches hfile, hbytes,
    fun before after directory fileName fault hwrite => ?_, SourceFile.getLast?_text _,
    SourceFile.count_lineFeed_text hfile, SourceFile.nested_text_ofMatches hfile⟩
  rcases Tree.writeOutput_cases hbytes before directory fileName with
    ⟨_, _, hok, -⟩ | ⟨_, _, herror, hextends⟩
  · rw [hok] at hwrite
    cases hwrite
  · rw [herror] at hwrite
    obtain ⟨rfl, -⟩ := Prod.mk.inj hwrite
    exact hextends.kept

theorem generateSource_text_sharedShapes :
    ∃ g after,
      (generateSource Sample.acceptedSettings Sample.sharedShapes).run.run Sample.emptyWorld =
        (.ok g, after) ∧
      (∀ c ∈ g.text, c = CodePoint.ofChar '\n' ∨ c.isPrintableAscii = true) ∧
      g.text.getLast? = some (CodePoint.ofChar '\n') ∧
      g.text.count (CodePoint.ofChar '\n') = 47 ∧ g.text.Nested := by
  obtain ⟨g, after, h⟩ := run_generateSource_eq_ok_iff.2 wellFormed_sharedShapes
  obtain ⟨hcharacters, -, -, hlast, hcount, hnested⟩ := generateSource_text h
  obtain ⟨-, rfl⟩ := Generation.ofSnapshot_eq_ok_iff.1 (ofSnapshot_eq_ok_of_run h)
  have hlines : 15 + (SourceFile.ofMatches Sample.acceptedSettings
      Sample.sharedShapes.matching.pairs).imports.length +
      ((SourceFile.ofMatches Sample.acceptedSettings
        Sample.sharedShapes.matching.pairs).queryClass.methods.map fun m =>
          9 + m.annotations.length).sum = 47 := by decide
  exact ⟨_, after, h, hcharacters, hlast, hcount.trans hlines, hnested⟩

end QueryScaffold
