import Mathlib.Data.List.Nodup
import QueryScaffold.Container.Sample
import QueryScaffold.Proofs.Run.GeneratedMethods
import QueryScaffold.Proofs.Settings.Validation
import QueryScaffold.Proofs.Source.Imports

/-!
# Which settings and schemas are accepted

A run checks every name in the file that it is about to write, and most of those names it has put
together itself. What the check comes down to is said here of the settings and the matched entities
alone: the names that the generator derives fit their places whenever what they are derived from
fits its own.

* `Acceptable`: the condition, in terms of the settings and the matches;
* `QueryMethod.wellFormed_ofNames_iff`, `SourceFile.wellFormed_ofMatches_iff`: the check of a derived
  method and of the whole file;
* `generateSource_succeeds_iff`: **a run succeeds exactly under this condition**, and else fails with
  a fault of synthesis.
-/

namespace QueryScaffold

/-- What settings have to satisfy together with the matches of a schema. -/
structure Acceptable {σ : Type} (settings : Settings) (pairs : List (Match σ)) : Prop where
  codeNamespace : settings.codeNamespace.IsQualifiedName
  usings : ∀ name ∈ settings.usings, name.IsQualifiedName
  entityNamespace : settings.entityNamespace.IsQualifiedName
  className : settings.className.isIdentifier = true
  baseTypeName : TypeName settings.baseTypeName
  /-- One or more type names with commas between them. -/
  schemaName : settings.schemaIdentity.schemaName.IsTypeList
  accessors : ∀ pair ∈ pairs, pair.accessor.isIdentifier = true
  entities : ∀ pair ∈ pairs, TypeName pair.entity.name
  nodup_accessors : (pairs.map Match.accessor).Nodup
  /-- The stem may be a reserved word. -/
  contextVariablePrefix : pairs ≠ [] → settings.contextVariablePrefix.isWord = true
  queryHelperName : pairs ≠ [] → settings.queryHelperName.isIdentifier = true

/-! ## Derived names -/

theorem isQualifiedName_of_mem_annotationsOf (capabilities : List Capability) :
    ∀ a ∈ annotationsOf capabilities, a.isQualifiedName = true := by
  intro a ha
  rw [annotationsOf_eq] at ha
  obtain ⟨c, -, rfl⟩ := List.mem_map.1 ha
  cases c <;> decide

theorem isIdentifier_factoryParameterName : factoryParameterName.isIdentifier = true := by
  decide

theorem isIdentifier_factoryFieldName : factoryFieldName.isIdentifier = true := by
  decide

theorem methodName_injective : Function.Injective methodName := by
  intro s t h
  exact List.append_cancel_left h

/-- The factory of contexts has a type exactly if the schema is named by type names. -/
theorem typeName_factoryType_iff {settings : Settings} :
    TypeName (factoryType settings) ↔ settings.schemaIdentity.schemaName.IsTypeList := by
  have hfactory : ("IDbContextFactory<" : Text) = ("IDbContextFactory" : Text) ++ ("<" : Text) :=
    rfl
  rw [factoryType, hfactory]
  exact Text.typeName_generic_iff (by decide)

/-- What the comment takes from the settings is a list of type names. -/
theorem printableAscii_provenanceComment {settings : Settings}
    (h : settings.schemaIdentity.schemaName.IsTypeList) :
    (provenanceComment settings).PrintableAscii :=
  .append (.append (by decide) (.of_isTypeList h)) (by decide)

/-- The summary of a derived method. -/
theorem printableAscii_summary {accessor : Text} (h : accessor.isIdentifier = true) :
    (("Gets the " : Text) ++ accessor ++ ("." : Text)).PrintableAscii :=
  .append (.append (by decide) (.of_isIdentifier h)) (by decide)

theorem wellFormed_serviceParameters :
    ∀ p ∈ serviceParameters, TypeName p.type ∧ p.identifier.isIdentifier = true := by
  simp only [serviceParameters, List.forall_mem_cons]
  refine ⟨⟨.qualified ?_, ?_⟩, ⟨.qualified ?_, ?_⟩, ⟨.qualified ?_, ?_⟩, by simp⟩
  all_goals decide

/-- The constructor takes the factory of contexts and services of fixed types. -/
theorem wellFormed_parameters_iff {settings : Settings} :
    (∀ p ∈ (⟨factoryType settings, factoryParameterName⟩ : Variable) :: serviceParameters,
        TypeName p.type ∧ p.identifier.isIdentifier = true) ↔
      settings.schemaIdentity.schemaName.IsTypeList := by
  rw [List.forall_mem_cons, typeName_factoryType_iff]
  exact ⟨fun h => h.1.1, fun h => ⟨⟨h, isIdentifier_factoryParameterName⟩, wellFormed_serviceParameters⟩⟩

/-- A type name may stand between the brackets of a query. -/
theorem typeName_queryable {entity : Text} (h : TypeName entity) :
    TypeName (("IQueryable<" : Text) ++ entity ++ (">" : Text)) := by
  have hqueryable : ("IQueryable<" : Text) = ("IQueryable" : Text) ++ ("<" : Text) := rfl
  rw [hqueryable]
  exact Text.typeName_of_isTypeList (by decide) (Text.isTypeList_of_typeName h)

/-- **What the check of a derived method comes down to.** Its name, its return type, its attributes
and its summary are never at fault on their own, and the context variable is only if its stem is. -/
theorem QueryMethod.wellFormed_ofNames_iff {settings : Settings} {entity accessor : Text}
    (hstem : settings.contextVariablePrefix ≠ []) :
    (ofNames settings entity accessor).WellFormed ↔
      accessor.isIdentifier = true ∧ TypeName entity ∧
        settings.contextVariablePrefix.isWord = true ∧
        settings.queryHelperName.isIdentifier = true := by
  constructor
  · intro h
    have haccessor : accessor.isIdentifier = true := h.accessorName
    have hcontext : (contextVariableName settings.contextVariablePrefix accessor).isIdentifier :=
      h.contextVariable
    rw [Text.isIdentifier_contextVariableName_iff hstem (Text.isWord_of_isIdentifier haccessor)]
      at hcontext
    exact ⟨haccessor, h.entityName, hcontext, h.helperName⟩
  · rintro ⟨haccessor, hentity, hcontext, hhelper⟩
    have hword := Text.isWord_of_isIdentifier haccessor
    exact
      { name := Text.isIdentifier_methodName hword
        returnType := typeName_queryable hentity
        accessorName := haccessor
        entityName := hentity
        contextVariable := (Text.isIdentifier_contextVariableName_iff hstem hword).2 hcontext
        factoryField := isIdentifier_factoryFieldName
        helperName := hhelper
        annotations := isQualifiedName_of_mem_annotationsOf _
        summary := (printableAscii_summary haccessor).notMem (by decide) }

/-! ## The whole file -/

namespace SourceFile

variable {σ : Type} {settings : Settings} {pairs : List (Match σ)}

theorem wellFormed_imports_iff :
    (∀ name ∈ settings.imports, name.isQualifiedName = true) ↔
      settings.entityNamespace.IsQualifiedName ∧ ∀ name ∈ settings.usings, name.IsQualifiedName := by
  simp only [Settings.mem_imports, Text.isQualifiedName_iff]
  constructor
  · intro h
    exact ⟨h _ (.inr (.inl rfl)), fun name hn => h name (.inr (.inr hn))⟩
  · rintro ⟨hentity, husings⟩ name (rfl | rfl | hn)
    · exact Text.isQualifiedName_iff.1 (by decide)
    · exact hentity
    · exact husings name hn

/-- The stem and the helper stand in methods only, so they count only if there is a match. -/
theorem wellFormed_methods_iff (hstem : settings.contextVariablePrefix ≠ []) :
    (∀ m ∈ pairs.map (QueryMethod.ofMatch settings), m.WellFormed) ↔
      (∀ pair ∈ pairs, pair.accessor.isIdentifier = true) ∧
        (∀ pair ∈ pairs, TypeName pair.entity.name) ∧
        (pairs ≠ [] → settings.contextVariablePrefix.isWord = true ∧
          settings.queryHelperName.isIdentifier = true) := by
  simp only [List.forall_mem_map, QueryMethod.ofMatch, QueryMethod.wellFormed_ofNames_iff hstem]
  constructor
  · intro h
    refine ⟨fun pair hp => (h pair hp).1, fun pair hp => (h pair hp).2.1, fun hne => ?_⟩
    obtain ⟨pair, hp⟩ := List.exists_mem_of_ne_nil pairs hne
    exact (h pair hp).2.2
  · rintro ⟨haccessors, hentities, hnames⟩ pair hp
    exact ⟨haccessors pair hp, hentities pair hp, hnames (List.ne_nil_of_mem hp)⟩

/-- Methods have different names exactly if their accessors have. -/
theorem nodup_methods_iff :
    ((pairs.map (QueryMethod.ofMatch settings)).map QueryMethod.name).Nodup ↔
      (pairs.map Match.accessor).Nodup := by
  have hnames : (pairs.map (QueryMethod.ofMatch settings)).map QueryMethod.name =
      (pairs.map Match.accessor).map methodName := by
    rw [List.map_map, List.map_map]
    rfl
  rw [hnames, List.nodup_map_iff methodName_injective]

/-- **The file for settings and matches is well-formed exactly if they are acceptable.** -/
theorem wellFormed_ofMatches_iff (hstem : settings.contextVariablePrefix ≠ []) :
    (ofMatches settings pairs).WellFormed ↔ Acceptable settings pairs := by
  constructor
  · intro h
    obtain ⟨hentity, husings⟩ := wellFormed_imports_iff.1 h.imports
    obtain ⟨haccessors, hentities, hnames⟩ := (wellFormed_methods_iff hstem).1 h.methods
    exact
      { codeNamespace := Text.isQualifiedName_iff.1 h.codeNamespace
        usings := husings
        entityNamespace := hentity
        className := h.className
        baseTypeName := h.baseTypeName
        schemaName := typeName_factoryType_iff.1 h.fieldType
        accessors := haccessors
        entities := hentities
        nodup_accessors := nodup_methods_iff.1 h.nodup_methods
        contextVariablePrefix := fun hne => (hnames hne).1
        queryHelperName := fun hne => (hnames hne).2 }
  · intro h
    exact
      { provenance := (printableAscii_provenanceComment h.schemaName).notMem (by decide)
        codeNamespace := Text.isQualifiedName_iff.2 h.codeNamespace
        imports := wellFormed_imports_iff.2 ⟨h.entityNamespace, h.usings⟩
        className := h.className
        baseTypeName := h.baseTypeName
        fieldType := typeName_factoryType_iff.2 h.schemaName
        fieldName := isIdentifier_factoryFieldName
        parameters_ne_nil := List.cons_ne_nil _ _
        parameters := wellFormed_parameters_iff.2 h.schemaName
        methods := (wellFormed_methods_iff hstem).2 ⟨h.accessors, h.entities,
          fun hne => ⟨h.contextVariablePrefix hne, h.queryHelperName hne⟩⟩
        nodup_methods := nodup_methods_iff.2 h.nodup_accessors }

end SourceFile

/-! ## Runs -/

/-- **A run with accepted settings succeeds exactly if these and the matches of the schema are
acceptable**, and else it fails with a fault of synthesis. When it succeeds, the names that the
generator derives fit their places like those that it is given. -/
theorem generateSource_succeeds_iff {σ : Type} [DecidableEq σ] {data : Json} {settings : Settings}
    (h : Settings.ofJson data = .accepted settings) (snapshot : Snapshot σ) (world : World) :
    ((∃ g after, (generateSource settings snapshot).run.run world = (.ok g, after)) ↔
      Acceptable settings snapshot.matching.pairs) ∧
    (¬Acceptable settings snapshot.matching.pairs →
      ∃ fault after,
        (generateSource settings snapshot).run.run world = (.error (.synthesis fault), after)) ∧
    (Acceptable settings snapshot.matching.pairs →
      (SourceFile.ofMatches settings snapshot.matching.pairs).WellFormed) := by
  have hfile : (SourceFile.ofMatches settings snapshot.matching.pairs).WellFormed ↔
      Acceptable settings snapshot.matching.pairs :=
    SourceFile.wellFormed_ofMatches_iff (Settings.contextVariablePrefix_ne_nil h)
  refine ⟨?_, fun hbad => ?_, hfile.2⟩
  · rw [run_generateSource_eq_ok_iff, hfile]
  · rw [run_generateSource]
    cases hg : Generation.ofSnapshot settings snapshot with
    | ok g => exact absurd (hfile.1 (Generation.ofSnapshot_eq_ok_iff.1 hg).1) hbad
    | error fault => exact ⟨fault, _, rfl⟩

theorem ofJson_sample_settings :
    Settings.ofJson Sample.settings = .accepted Sample.acceptedSettings := rfl

theorem generateSource_succeeds_sharedShapes :
    Settings.ofJson Sample.settings = .accepted Sample.acceptedSettings ∧
      Acceptable Sample.acceptedSettings Sample.sharedShapes.matching.pairs ∧
      ∃ g after,
        (generateSource Sample.acceptedSettings Sample.sharedShapes).run.run Sample.emptyWorld =
          (.ok g, after) := by
  have hpairs : Acceptable Sample.acceptedSettings Sample.sharedShapes.matching.pairs :=
    (SourceFile.wellFormed_ofMatches_iff (by decide)).1 wellFormed_sharedShapes
  exact ⟨ofJson_sample_settings, hpairs,
    (generateSource_succeeds_iff ofJson_sample_settings Sample.sharedShapes
      Sample.emptyWorld).1.2 hpairs⟩

end QueryScaffold
