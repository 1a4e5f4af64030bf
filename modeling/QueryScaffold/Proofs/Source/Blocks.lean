import Mathlib.Data.List.Perm.Basic
import QueryScaffold.Proofs.Source.Lines
import QueryScaffold.Source.Assembly

/-!
# The blocks of a rendered file

The text of a file that is made for settings and matches is put together from pieces: one before all
methods, one for each match, and one behind them. No piece looks at another one. Only the check of a
file looks at several matches at once, and only for methods of one name.

* `SourceFile.headerText`, `queryBlock`, `SourceFile.footerText`: the pieces;
* `SourceFile.text_ofMatches`: **the text is made of these pieces, in the order of the matches**;
* `SourceFile.wellFormed_ofMatches_of_perm`: a well-formed file stays one in any order of its
  matches;
* `SourceFile.fault?_ofMatches_append`: **a fault stays the first one** when matches are appended.
-/

namespace QueryScaffold

/-- The text of the method for an entity and its accessor. -/
def queryBlock (settings : Settings) (entity accessor : Text) : Text :=
  textOfLines (QueryMethod.ofNames settings entity accessor).lines

/-- The texts of the methods for matches, one behind the other. -/
def queryBlocks {σ : Type} (settings : Settings) (pairs : List (Match σ)) : Text :=
  pairs.flatMap fun pair => queryBlock settings pair.entity.name pair.accessor

theorem queryBlocks_append {σ : Type} (settings : Settings) (pairs more : List (Match σ)) :
    queryBlocks settings (pairs ++ more) =
      queryBlocks settings pairs ++ queryBlocks settings more :=
  List.flatMap_append

namespace SourceFile

/-- The text before the methods. -/
def headerText (settings : Settings) : Text :=
  textOfLines (ofMethods settings []).headerLines

/-- The text behind the methods. -/
def footerText : Text :=
  textOfLines footerLines

variable {σ : Type} {settings : Settings} {pairs other : List (Match σ)}

/-! ## The text -/

/-- **The text is made of the pieces**, in the order of the matches. -/
theorem text_ofMatches (settings : Settings) (pairs : List (Match σ)) :
    (ofMatches settings pairs).text =
      headerText settings ++ queryBlocks settings pairs ++ footerText := by
  have hheader : (ofMatches settings pairs).headerLines = (ofMethods settings []).headerLines := rfl
  have hblocks : textOfLines ((ofMatches settings pairs).queryClass.methods.flatMap
      QueryMethod.lines) = queryBlocks settings pairs := by
    show textOfLines ((pairs.map (QueryMethod.ofMatch settings)).flatMap QueryMethod.lines) = _
    rw [List.flatMap_map, textOfLines, List.flatMap_assoc]
    rfl
  rw [text, lines, textOfLines_append, textOfLines_append, hheader, hblocks]
  rfl

/-! ## The check -/

/-- What is asked for in a file is asked for in any order of its matches. -/
theorem wellFormed_ofMatches_of_perm (h : other.Perm pairs)
    (hfile : (ofMatches settings pairs).WellFormed) : (ofMatches settings other).WellFormed := by
  have hmethods : ((ofMatches settings other).queryClass.methods).Perm
      (ofMatches settings pairs).queryClass.methods := h.map _
  exact
    { provenance := hfile.provenance
      codeNamespace := hfile.codeNamespace
      imports := hfile.imports
      className := hfile.className
      baseTypeName := hfile.baseTypeName
      fieldType := hfile.fieldType
      fieldName := hfile.fieldName
      parameters_ne_nil := hfile.parameters_ne_nil
      parameters := hfile.parameters
      methods := fun m hm => hfile.methods m (hmethods.subset hm)
      nodup_methods := (hmethods.map QueryMethod.name).nodup_iff.2 hfile.nodup_methods }

end SourceFile

/-- Methods are checked one after the other, each against the names before it. -/
theorem QueryMethod.listRequirements_append (earlier : List Text) (methods more : List QueryMethod) :
    listRequirements earlier (methods ++ more) =
      listRequirements earlier methods ++
        listRequirements (earlier ++ methods.map QueryMethod.name) more := by
  induction methods generalizing earlier with
  | nil => simp [listRequirements]
  | cons m rest ih =>
    rw [List.cons_append, listRequirements, listRequirements, ih, List.append_assoc,
      List.map_cons, List.append_assoc]
    rfl

/-- The requirements of a file with more methods start with those of the file. -/
theorem SourceFile.requirements_ofMethods_append (settings : Settings)
    (methods more : List QueryMethod) :
    (ofMethods settings (methods ++ more)).requirements =
      (ofMethods settings methods).requirements ++
        QueryMethod.listRequirements (methods.map QueryMethod.name) more := by
  simp only [requirements, QueryClass.requirements, ofMethods,
    QueryMethod.listRequirements_append, List.nil_append, List.append_assoc]

/-- **A fault stays the first one** when matches are appended. -/
theorem SourceFile.fault?_ofMatches_append {σ : Type} {settings : Settings}
    {pairs : List (Match σ)} {fault : SynthesisFault}
    (h : (ofMatches settings pairs).fault? = some fault) (more : List (Match σ)) :
    (ofMatches settings (pairs ++ more)).fault? = some fault := by
  rw [ofMatches, fault?] at h ⊢
  rw [List.map_append, requirements_ofMethods_append, List.findSome?_append, h]
  rfl

end QueryScaffold
