import QueryScaffold.Proofs.Schema.Matching
import QueryScaffold.Proofs.Source.MethodHead
import QueryScaffold.Run.Generation

/-!
# From the schema to the text

What a run writes for a schema, said of the text alone: which lines declare methods, and what stands
around each of them. The statement goes through every stage in between: the matching of entities
with accessors, the methods made from the matches, the check of the file and its rendering.

* `run_generateSource`: a run gives what settings and schema give, and adds to the log only;
* `Snapshot.exposedNames`: the entities that some accessor exposes, each with the first one;
* `queryLines`: the lines that stand for such an entity, written out in full;
* `generateSource_lines`: **the text has these lines for these entities, in their order**, and no
  other line declares a method.
-/

namespace QueryScaffold

/-! ## A run without its log -/

section Run

variable {σ : Type} [DecidableEq σ]

/-- A run gives what settings and schema give; of the state it changes the log only. -/
theorem run_generateSource (settings : Settings) (snapshot : Snapshot σ) (world : World) :
    (generateSource settings snapshot).run.run world =
      ((Generation.ofSnapshot settings snapshot).mapError .synthesis,
        { world with
          log := world.log ++
            snapshot.warnings.map (Record.mk (some settings.schemaIdentity.schemaName)) }) := by
  unfold generateSource
  cases Generation.ofSnapshot settings snapshot <;> rfl

/-- A generation is the rendered file of the matches. -/
theorem Generation.ofSnapshot_eq_ok_iff {settings : Settings} {snapshot : Snapshot σ}
    {g : Generation σ} :
    ofSnapshot settings snapshot = .ok g ↔
      (SourceFile.ofMatches settings snapshot.matching.pairs).WellFormed ∧
        g = { text := (SourceFile.ofMatches settings snapshot.matching.pairs).text
              file := SourceFile.ofMatches settings snapshot.matching.pairs
              matching := snapshot.matching
              outputPath := none
              outputFault := none } := by
  rw [← SourceFile.fault?_eq_none_iff, ofSnapshot, SourceFile.render]
  cases (SourceFile.ofMatches settings snapshot.matching.pairs).fault? with
  | none => simp [eq_comm]
  | some fault => simp

/-- A run succeeds exactly with the generation that settings and schema give. -/
theorem ofSnapshot_eq_ok_of_run {settings : Settings} {snapshot : Snapshot σ} {world after : World}
    {g : Generation σ}
    (h : (generateSource settings snapshot).run.run world = (.ok g, after)) :
    Generation.ofSnapshot settings snapshot = .ok g := by
  rw [run_generateSource] at h
  have hresult := congrArg Prod.fst h
  cases hg : Generation.ofSnapshot settings snapshot with
  | ok value =>
    rw [hg] at hresult
    exact congrArg Except.ok (Except.ok.inj hresult)
  | error fault =>
    rw [hg] at hresult
    cases hresult

/-- A run succeeds exactly if its file is well-formed. -/
theorem run_generateSource_eq_ok_iff {settings : Settings} {snapshot : Snapshot σ} {world : World} :
    (∃ g after, (generateSource settings snapshot).run.run world = (.ok g, after)) ↔
      (SourceFile.ofMatches settings snapshot.matching.pairs).WellFormed := by
  constructor
  · rintro ⟨g, after, h⟩
    exact (Generation.ofSnapshot_eq_ok_iff.1 (ofSnapshot_eq_ok_of_run h)).1
  · intro h
    rw [run_generateSource, Generation.ofSnapshot_eq_ok_iff.2 ⟨h, rfl⟩]
    exact ⟨_, _, rfl⟩

end Run

/-! ## Capabilities and their attributes -/

theorem Capability.attributeName_injective : ∀ c d : Capability,
    c.attributeName = d.attributeName → c = d := by
  intro c d
  cases c <;> cases d <;> decide

theorem withoutRepetition_filter (names : List Text) (p : Text → Bool) :
    withoutRepetition (names.filter p) = (withoutRepetition names).filter p := by
  induction names with
  | nil => rfl
  | cons name rest ih =>
    by_cases hp : p name
    · rw [List.filter_cons_of_pos hp, withoutRepetition, withoutRepetition, ih,
        List.filter_cons_of_pos hp, List.filter_filter, List.filter_filter]
      congr 2
      funext other
      exact Bool.and_comm ..
    · rw [List.filter_cons_of_neg hp, withoutRepetition, ih, List.filter_cons_of_neg hp,
        List.filter_filter]
      refine List.filter_congr fun other _ => ?_
      by_cases ho : other = name
      · simp [ho, hp]
      · simp [ho]

/-- **The attributes are those of the capabilities without repetition**, each where it is seen
first. -/
theorem annotationsOf_eq (capabilities : List Capability) :
    annotationsOf capabilities = capabilities.eraseDups.map Capability.attributeName := by
  rw [annotationsOf]
  induction hn : capabilities.length using Nat.strongRecOn generalizing capabilities with
  | ind n ih =>
    cases capabilities with
    | nil => rfl
    | cons c rest =>
      have hfilter : (rest.map Capability.attributeName).filter (· ≠ c.attributeName) =
          (rest.filter fun d => !d == c).map Capability.attributeName := by
        rw [List.filter_map]
        congr 1
        refine List.filter_congr fun d _ => ?_
        by_cases hd : d = c
        · simp [hd]
        · have hne : d.attributeName ≠ c.attributeName :=
            fun h => hd (Capability.attributeName_injective d c h)
          simp [hd, hne]
      have hlength : (rest.filter fun d => !d == c).length < n := by
        have := List.length_filter_le (fun d => !d == c) rest
        rw [List.length_cons] at hn
        omega
      rw [List.map_cons, withoutRepetition, List.eraseDups_cons, List.map_cons,
        ← withoutRepetition_filter, hfilter, ih _ hlength _ rfl]

/-! ## The lines of a method -/

/-- The names of the entities that an accessor exposes, in the order of the entities, each with the
name of the first accessor of its shape. -/
def Snapshot.exposedNames {σ : Type} [DecidableEq σ] (snapshot : Snapshot σ) :
    List (Text × Text) :=
  snapshot.entities.filterMap fun entity =>
    (snapshot.accessors.find? (·.elementShape = entity.shape)).map fun accessor =>
      (entity.name, accessor.name)

/-- The line that declares the method for an entity and its accessor. -/
def queryHeadLine (entity accessor : Text) : Text :=
  ("        public IQueryable<" : Text) ++ entity ++ ("> Get" : Text) ++ accessor ++ ("()" : Text)

/-- The lines for an entity and its accessor: an empty one, the summary, an attribute for each
capability, the head, and the body of two lines. -/
def queryLines (settings : Settings) (entity accessor : Text) : List Text :=
  let context := settings.contextVariablePrefix ++ ("_" : Text) ++ accessor
  [[], "        /// <summary>", ("        /// Gets the " : Text) ++ accessor ++ ("." : Text),
    "        /// </summary>"] ++
    settings.queryCapabilities.eraseDups.map (fun c =>
      ("        [" : Text) ++ c.attributeName ++ ("]" : Text)) ++
    [queryHeadLine entity accessor, "        \x7b",
      ("            var " : Text) ++ context ++
        (" = _dbContextFactory.CreateDbContext();" : Text),
      ("            return " : Text) ++ settings.queryHelperName ++ ("(" : Text) ++ context ++
        ("." : Text) ++ accessor ++ (").AsNoTracking();" : Text),
      "        \x7d"]

theorem headLine_ofNames (settings : Settings) (entity accessor : Text) :
    (QueryMethod.ofNames settings entity accessor).headLine = queryHeadLine entity accessor := by
  have hstart : ("        public IQueryable<" : Text) =
      ("        public " : Text) ++ ("IQueryable<" : Text) := rfl
  have hmiddle : ("> Get" : Text) = (">" : Text) ++ (" " : Text) ++ ("Get" : Text) := rfl
  rw [queryHeadLine, hstart, hmiddle]
  simp only [QueryMethod.headLine, QueryMethod.ofNames, methodName, List.append_assoc]

theorem lines_ofNames (settings : Settings) (entity accessor : Text) :
    (QueryMethod.ofNames settings entity accessor).lines = queryLines settings entity accessor := by
  have hfield : (" = _dbContextFactory.CreateDbContext();" : Text) =
      (" = " : Text) ++ factoryFieldName ++ (".CreateDbContext();" : Text) := by decide
  have hsummary : ("        /// Gets the " : Text) =
      ("        /// " : Text) ++ ("Gets the " : Text) := rfl
  rw [QueryMethod.lines, headLine_ofNames, queryLines, hfield, hsummary]
  simp only [QueryMethod.ofNames, QueryMethod.contextLine, QueryMethod.returnLine,
    contextVariableName, annotationsOf_eq, List.map_map, List.append_assoc, Function.comp_def,
    QueryMethod.annotationLine]

/-- The methods of a run are those of the exposed entities. -/
theorem methods_ofMatches {σ : Type} [DecidableEq σ] (settings : Settings)
    (snapshot : Snapshot σ) :
    (SourceFile.ofMatches settings snapshot.matching.pairs).queryClass.methods =
      snapshot.exposedNames.map fun names => QueryMethod.ofNames settings names.1 names.2 := by
  show snapshot.matching.pairs.map (QueryMethod.ofMatch settings) = _
  rw [Snapshot.pairs_matching, Snapshot.exposedNames, List.map_filterMap, List.map_filterMap]
  refine List.filterMap_congr fun entity _ => ?_
  rw [Option.map_map, Option.map_map]
  rfl

/-! ## The text -/

/-- **The text has the lines of a query method for every exposed entity, in the order of the
entities, and no other line declares a method.** No exposed entity is lost, none is written twice,
and nothing is written for an entity that no accessor exposes. -/
theorem generateSource_lines {σ : Type} [DecidableEq σ] {settings : Settings}
    {snapshot : Snapshot σ} {world after : World} {g : Generation σ}
    (h : (generateSource settings snapshot).run.run world = (.ok g, after)) :
    (∃ header footer : List Text,
      g.text.split (CodePoint.ofChar '\n') =
        header ++ snapshot.exposedNames.flatMap (fun names =>
          queryLines settings names.1 names.2) ++ footer ∧
      ∀ line ∈ header ++ footer, line.isMethodHead = false) ∧
    (g.text.split (CodePoint.ofChar '\n')).filter Text.isMethodHead =
      snapshot.exposedNames.map fun names => queryHeadLine names.1 names.2 := by
  obtain ⟨hfile, rfl⟩ := Generation.ofSnapshot_eq_ok_iff.1 (ofSnapshot_eq_ok_of_run h)
  have hlines := SourceFile.split_text hfile
  have hmethods := methods_ofMatches settings snapshot
  constructor
  · refine ⟨(SourceFile.ofMatches settings snapshot.matching.pairs).headerLines,
      SourceFile.footerLines ++ [[]], ?_, ?_⟩
    · rw [hlines, SourceFile.lines, hmethods, List.flatMap_map, List.append_assoc,
        List.append_assoc, List.append_assoc]
      simp only [lines_ofNames]
    · rw [List.forall_mem_append, List.forall_mem_append]
      exact ⟨SourceFile.isMethodHead_headerLines hfile, SourceFile.isMethodHead_footerLines,
        by decide⟩
  · rw [hlines, List.filter_append, SourceFile.filter_lines hfile, hmethods, List.map_map]
    simp only [Function.comp_def, headLine_ofNames]
    exact List.append_nil _

/-! ## A run for the sample settings -/

namespace Sample

/-- What the settings of the sample hold. -/
def acceptedSettings : Settings :=
  { codeNamespace := "AdventureWorksGraphQLDemo.GraphQL"
    className := "Query"
    baseTypeName := "QueryBase"
    schemaIdentity :=
      { schemaName := "AdventureWorksContext"
        connectionString := "Server=localhost;Database=AdventureWorks;Trusted_Connection=True;"
        moduleLocation := "schema/adventure_works.py"
        containerNamespace := "AdventureWorksGraphQLDemo.Models" }
    usings := ["HotChocolate", "HotChocolate.Data", "Microsoft.AspNetCore.Http",
      "Microsoft.Extensions.Configuration"]
    modelNamespace := none
    queryCapabilities := Capability.all
    contextVariablePrefix := "dbContext"
    queryHelperName := "ApplyQueryBehaviors"
    directoryName := "generated"
    fileName := "Query.cs" }

/-- A schema where two accessors have one shape, and no accessor has that of the last entity. -/
def sharedShapes : Snapshot Nat :=
  { entities := [⟨"Employee", 1⟩, ⟨"Department", 2⟩, ⟨"Shift", 3⟩]
    accessors := [⟨"Departments", 2⟩, ⟨"Employees", 1⟩, ⟨"Staff", 1⟩] }

/-- Nothing was loaded or written yet. -/
def emptyWorld : World :=
  { tree := ⟨[], []⟩, workspace := { modules := [], memory := {} }, events := [], log := [] }

end Sample

theorem exposedNames_sharedShapes : Sample.sharedShapes.exposedNames =
    [(("Employee" : Text), ("Employees" : Text)), ("Department", "Departments")] := rfl

theorem wellFormed_sharedShapes :
    (SourceFile.ofMatches Sample.acceptedSettings
      Sample.sharedShapes.matching.pairs).WellFormed :=
  SourceFile.fault?_eq_none_iff.1 (by decide +kernel)

theorem generateSource_lines_sharedShapes :
    ∃ g after header footer,
      (generateSource Sample.acceptedSettings Sample.sharedShapes).run.run Sample.emptyWorld =
        (.ok g, after) ∧
      g.text.split (CodePoint.ofChar '\n') =
        header ++ (queryLines Sample.acceptedSettings "Employee" "Employees" ++
          queryLines Sample.acceptedSettings "Department" "Departments") ++ footer ∧
      (g.text.split (CodePoint.ofChar '\n')).filter Text.isMethodHead =
        ["        public IQueryable<Employee> GetEmployees()",
          "        public IQueryable<Department> GetDepartments()"] := by
  obtain ⟨g, after, h⟩ := run_generateSource_eq_ok_iff.2 wellFormed_sharedShapes
  obtain ⟨⟨header, footer, hlines, -⟩, hheads⟩ := generateSource_lines h
  rw [exposedNames_sharedShapes, List.flatMap_cons, List.flatMap_cons, List.flatMap_nil,
    List.append_nil] at hlines
  rw [exposedNames_sharedShapes] at hheads
  exact ⟨g, after, header, footer, h, hlines, hheads⟩

end QueryScaffold
