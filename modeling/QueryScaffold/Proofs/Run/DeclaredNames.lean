import QueryScaffold.Proofs.Run.Acceptance

/-!
# The names that the generated class declares

The settings name the class, accessors give their names to methods and context variables, and the
field and the parameters of the constructor have the same names in every file. The check of a file
compares methods with each other only. What keeps the other names apart is how they are made, and
nothing keeps the class apart from its members.

* `QueryClass.memberNames`, `QueryClass.declaredNames`: the names of the members of a class, and
  with its own;
* `methodName_ne_factoryFieldName`, `contextVariableName_ne_factoryFieldName`: names that differ by
  the way they are made;
* `generateSource_declaredNames`: **the names in a generated class are different, except that the
  class may have the name of a member**.
-/

namespace QueryScaffold

/-! ## Derived names -/

theorem factoryFieldName_eq : factoryFieldName = "_dbContextFactory" := by
  decide

theorem methodName_ne_factoryFieldName (accessor : Text) :
    methodName accessor ≠ factoryFieldName := by
  intro h
  have hhead : some (CodePoint.ofChar 'G') = some (CodePoint.ofChar '_') := by
    rw [factoryFieldName_eq] at h
    exact congrArg List.head? h
  exact absurd hhead (by decide)

/-- The underscore of a context variable stands behind its stem, that of the field in front. -/
theorem contextVariableName_ne_factoryFieldName {stem : Text} (h : stem ≠ []) (accessor : Text) :
    contextVariableName stem accessor ≠ factoryFieldName := by
  obtain ⟨first, rest, rfl⟩ := List.exists_cons_of_ne_nil h
  intro heq
  have htail : rest ++ ("_" : Text) ++ accessor = "dbContextFactory" := by
    rw [factoryFieldName_eq] at heq
    exact congrArg List.tail heq
  have hunderscore : CodePoint.ofChar '_' ∈ rest ++ ("_" : Text) ++ accessor := by
    simp [Text.ofString]
  rw [htail] at hunderscore
  exact absurd hunderscore (by decide)

/-! ## The names of a class -/

namespace QueryClass

/-- The names of the members of a class: of its field and of its methods. -/
def memberNames (c : QueryClass) : List Text :=
  c.factoryField.identifier :: c.methods.map QueryMethod.name

/-- The names that the class declares, its own first. -/
def declaredNames (c : QueryClass) : List Text :=
  c.typeName :: c.memberNames

end QueryClass

section Names

variable {σ : Type} [DecidableEq σ] {settings : Settings} {snapshot : Snapshot σ}

theorem memberNames_ofMatches (settings : Settings) (snapshot : Snapshot σ) :
    (SourceFile.ofMatches settings snapshot.matching.pairs).queryClass.memberNames =
      factoryFieldName :: snapshot.exposedNames.map fun names => methodName names.2 := by
  rw [QueryClass.memberNames, methods_ofMatches, List.map_map]
  rfl

theorem nodup_memberNames
    (h : (SourceFile.ofMatches settings snapshot.matching.pairs).WellFormed) :
    (SourceFile.ofMatches settings snapshot.matching.pairs).queryClass.memberNames.Nodup := by
  have hfield : factoryFieldName ∉
      snapshot.exposedNames.map fun names => methodName names.2 := by
    intro hm
    obtain ⟨names, -, hname⟩ := List.mem_map.1 hm
    exact methodName_ne_factoryFieldName _ hname
  have hmethods := h.nodup_methods
  rw [methods_ofMatches, List.map_map] at hmethods
  rw [memberNames_ofMatches]
  exact List.nodup_cons.2 ⟨hfield, hmethods⟩

/-- The class differs from its members exactly if the settings give it neither the name of the field
nor that of a method. -/
theorem className_notMem_memberNames_iff :
    settings.className ∉
        (SourceFile.ofMatches settings snapshot.matching.pairs).queryClass.memberNames ↔
      settings.className ≠ factoryFieldName ∧
        ∀ names ∈ snapshot.exposedNames, settings.className ≠ methodName names.2 := by
  rw [memberNames_ofMatches, List.mem_cons, not_or]
  refine and_congr_right fun _ => ?_
  simp only [List.mem_map, not_exists, not_and, ne_eq, eq_comm]

end Names

/-! ## Runs -/

/-- **The names in a generated class are different, except that the class may have the name of a
member.** The members have different names, and so have the parameters of the constructor, none of
which is the field. No context variable is the field that its context comes from. That the class
differs from its members is left to the settings: it is not checked. -/
theorem generateSource_declaredNames {σ : Type} [DecidableEq σ] {data : Json} {settings : Settings}
    {snapshot : Snapshot σ} {world after : World} {g : Generation σ}
    (haccepted : Settings.ofJson data = .accepted settings)
    (h : (generateSource settings snapshot).run.run world = (.ok g, after)) :
    g.file.queryClass.memberNames.Nodup ∧
    (g.file.queryClass.declaredNames.Nodup ↔
      settings.className ≠ factoryFieldName ∧
        ∀ names ∈ snapshot.exposedNames, settings.className ≠ methodName names.2) ∧
    (g.file.queryClass.parameters.map Variable.identifier).Nodup ∧
    g.file.queryClass.factoryField.identifier ∉
      g.file.queryClass.parameters.map Variable.identifier ∧
    ∀ m ∈ g.file.queryClass.methods,
      m.body.factoryField = g.file.queryClass.factoryField.identifier ∧
        m.body.contextVariable ≠ m.body.factoryField := by
  obtain ⟨hfile, rfl⟩ := Generation.ofSnapshot_eq_ok_iff.1 (ofSnapshot_eq_ok_of_run h)
  have hmembers := nodup_memberNames hfile
  have hstem := Settings.contextVariablePrefix_ne_nil haccepted
  refine ⟨hmembers, ?_, ?_, ?_, fun m hm => ?_⟩
  · rw [QueryClass.declaredNames, List.nodup_cons, ← className_notMem_memberNames_iff]
    exact and_iff_left hmembers
  · show (factoryParameterName :: serviceParameters.map Variable.identifier).Nodup
    decide
  · show factoryFieldName ∉ factoryParameterName :: serviceParameters.map Variable.identifier
    rw [factoryFieldName_eq]
    decide
  · obtain ⟨pair, -, rfl⟩ := List.mem_map.1 hm
    exact ⟨rfl, contextVariableName_ne_factoryFieldName hstem pair.accessor⟩

theorem generateSource_declaredNames_sharedShapes :
    Settings.ofJson Sample.settings = .accepted Sample.acceptedSettings ∧
      ∃ g after,
        (generateSource Sample.acceptedSettings Sample.sharedShapes).run.run Sample.emptyWorld =
          (.ok g, after) ∧
        g.file.queryClass.declaredNames.Nodup ∧
        ∀ m ∈ g.file.queryClass.methods, m.body.contextVariable ≠ m.body.factoryField := by
  obtain ⟨g, after, h⟩ := run_generateSource_eq_ok_iff.2 wellFormed_sharedShapes
  obtain ⟨-, hdeclared, -, -, hvariables⟩ := generateSource_declaredNames ofJson_sample_settings h
  refine ⟨ofJson_sample_settings, g, after, h, hdeclared.2 ?_, fun m hm => (hvariables m hm).2⟩
  rw [factoryFieldName_eq, exposedNames_sharedShapes]
  decide

namespace Sample

/-- Settings that name the class like a method that is made for the schema below. -/
def clashingData : Json :=
  .object
    [("ClassName", .string "GetOrders"),
      ("Schema", .object
        [("SchemaName", .string "ShopContext"), ("ConnectionString", .string "shop.db"),
          ("ModuleLocation", .string "shop.py"), ("ContainerNamespace", .string "Shop.Models")])]

/-- What these settings hold. -/
def clashingSettings : Settings :=
  { codeNamespace := "GraphQL"
    className := "GetOrders"
    baseTypeName := "QueryBase"
    schemaIdentity :=
      { schemaName := "ShopContext"
        connectionString := "shop.db"
        moduleLocation := "shop.py"
        containerNamespace := "Shop.Models" }
    usings := []
    modelNamespace := none
    queryCapabilities := Capability.all
    contextVariablePrefix := "dbContext"
    queryHelperName := "ApplyQueryBehaviors"
    directoryName := "generated"
    fileName := "Query.cs" }

/-- A schema with one entity, whose accessor is `Orders`. -/
def orders : Snapshot Nat :=
  { entities := [⟨"Order", 1⟩], accessors := [⟨"Orders", 1⟩] }

end Sample

/-- **The class may have the name of one of its methods.** The settings are accepted and the run
succeeds. -/
theorem className_clashes_orders :
    Settings.ofJson Sample.clashingData = .accepted Sample.clashingSettings ∧
      ∃ g after,
        (generateSource Sample.clashingSettings Sample.orders).run.run Sample.emptyWorld =
          (.ok g, after) ∧
        g.file.queryClass.typeName ∈ g.file.queryClass.methods.map QueryMethod.name ∧
        ¬g.file.queryClass.declaredNames.Nodup := by
  have hfile : (SourceFile.ofMatches Sample.clashingSettings
      Sample.orders.matching.pairs).WellFormed :=
    SourceFile.fault?_eq_none_iff.1 (by decide +kernel)
  obtain ⟨g, after, h⟩ := run_generateSource_eq_ok_iff.2 hfile
  obtain ⟨-, rfl⟩ := Generation.ofSnapshot_eq_ok_iff.1 (ofSnapshot_eq_ok_of_run h)
  have hclash : Sample.clashingSettings.className ∈
      (SourceFile.ofMatches Sample.clashingSettings
        Sample.orders.matching.pairs).queryClass.methods.map QueryMethod.name := by decide
  refine ⟨rfl, _, after, h, hclash, fun hnodup => ?_⟩
  exact (List.nodup_cons.1 hnodup).1 (List.mem_cons_of_mem _ hclash)

end QueryScaffold
