import QueryScaffold.CommandLine.Program
import QueryScaffold.Json.Writer
import QueryScaffold.Proofs.Files.Path
import QueryScaffold.Proofs.Run.Generation
import QueryScaffold.Proofs.Run.Output

/-!
# The program from the command line

Without a confirmation the program does nothing. With one it does everything that can fail before it
writes, so that it ends in success with the text in its file, or in failure with all files as they
were.

* `Program.prepare`: what the program does before it writes, and `Program.keepsTree_prepare`: it
  changes no file;
* `Program.confirmed_of_refused`, `confirmed_of_written`, `confirmed_of_notWritten`: how the program
  ends, by what comes of that and of writing;
* `Program.Accounts`: what a confirmed run owes by how it ends;
* `Program.main_accounts`: **how the program ends, what it prints and what it leaves behind**.
-/

namespace QueryScaffold

open Run (KeepsTree)

/-! ## Inputs -/

/-- Settings are read without a file being changed. -/
theorem keepsTree_loadSettings (path : Option Path) (overrides : Entries) :
    KeepsTree (loadSettings path overrides) := by
  unfold loadSettings
  by_cases hpath : (Entries.get? pathKey overrides).isSome
  · simp only [hpath, if_true]
    exact fun _ => rfl
  · simp only [hpath]
    refine .bind .get fun world => .bind (.check _) fun found => ?_
    cases found with
    | none => exact .bind (.report _ _) fun _ => .check _
    | some entries => exact .check _

theorem keepsTree_loadDescription (path : Path) : KeepsTree (loadDescription path) :=
  .bind .get fun _ => .bind (.check _) fun _ => .pure _

namespace Program

theorem keepsTree_inputs (arguments : Arguments) : KeepsTree (inputs arguments) := by
  unfold inputs
  refine .bind (keepsTree_loadSettings _ _) fun settings => ?_
  rcases arguments.schemaFile with _ | ⟨path⟩ | _
  · exact .pure _
  · exact .bind (keepsTree_loadDescription _) fun _ => .pure _
  · exact fun _ => rfl

/-! ## Before the text is written -/

/-- What the program does before it writes: it reads its inputs and the schema, and generates the
text. -/
def prepare (arguments : Arguments) : Run (Settings × Snapshot Shape × Generation Shape) := do
  let (settings, description) ← inputs arguments
  let snapshot ← readSource settings description
  let generation ← generateSource settings snapshot
  Run.report (some settings.schemaIdentity.schemaName)
    (.rendered generation.file.queryClass.methods.length generation.matching.unmatched.length)
  return (settings, snapshot, generation)

section Runs

variable {arguments : Arguments} {world made after : World} {settings : Settings}
  {snapshot : Snapshot Shape} {g : Generation Shape} {failure : Failure}

theorem run_generate_of_inputs {description : Option Description} {loaded : World}
    (h : (inputs arguments).run.run world = (.ok (settings, description), loaded)) :
    (generate arguments).run.run world = (run settings description).run.run loaded := by
  rw [generate, Run.run_bind_of_ok h]

/-- A failure before the text is written is one of the program. -/
theorem run_generate_of_refused (h : (prepare arguments).run.run world = (.error failure, after)) :
    (generate arguments).run.run world = (.error failure, after) := by
  rcases Run.run_bind_error_cases h with hinputs | ⟨⟨settings, description⟩, loaded, hinputs, h⟩
  · exact Run.run_bind_of_error hinputs
  rw [run_generate_of_inputs hinputs]
  refine run_run_of_refused ?_
  rw [QueryScaffold.generate]
  rcases Run.run_bind_error_cases h with hread | ⟨snapshot, read, hread, h⟩
  · exact Run.run_bind_of_error hread
  rw [Run.run_bind_of_ok hread]
  rcases Run.run_bind_error_cases h with hmade | ⟨g, made, hmade, h⟩
  · exact Run.run_bind_of_error hmade
  -- What is left is a notice, which cannot fail.
  · cases h

/-- A text that is ready to be written is generated from the inputs, for the schema that was read.
-/
theorem exists_inputs_of_prepared
    (h : (prepare arguments).run.run world = (.ok (settings, snapshot, g), made)) :
    ∃ description loaded,
      (inputs arguments).run.run world = (.ok (settings, description), loaded) ∧
      (QueryScaffold.generate settings description).run.run loaded = (.ok g, made) ∧
      Generation.ofSnapshot settings snapshot = .ok g := by
  obtain ⟨⟨settings', description⟩, loaded, hinputs, h⟩ := Run.exists_of_run_bind_ok h
  obtain ⟨snapshot', read, hread, h⟩ := Run.exists_of_run_bind_ok h
  obtain ⟨g', generated, hmade, h⟩ := Run.exists_of_run_bind_ok h
  cases h
  refine ⟨description, loaded, hinputs, ?_, ofSnapshot_eq_ok_of_run hmade⟩
  rw [QueryScaffold.generate, Run.run_bind_of_ok hread, Run.run_bind_of_ok hmade]
  rfl

/-- What the program does before it writes changes no file. -/
theorem keepsTree_prepare (arguments : Arguments) : KeepsTree (prepare arguments) :=
  .bind (keepsTree_inputs arguments) fun _ => .bind (keepsTree_readSource _ _) fun _ =>
    .bind (.bind (.reportAll _ _) fun _ => .check _) fun _ => .bind (.report _ _) fun _ => .pure _

/-- What is generated for a schema has its text and its matching, and nothing on an output file. -/
theorem eq_of_prepared
    (h : (prepare arguments).run.run world = (.ok (settings, snapshot, g), made)) :
    (SourceFile.ofMatches settings snapshot.matching.pairs).WellFormed ∧
      g = { text := (SourceFile.ofMatches settings snapshot.matching.pairs).text
            file := SourceFile.ofMatches settings snapshot.matching.pairs
            matching := snapshot.matching
            outputPath := none
            outputFault := none } := by
  obtain ⟨-, -, -, -, hsnapshot⟩ := exists_inputs_of_prepared h
  exact Generation.ofSnapshot_eq_ok_iff.1 hsnapshot

/-! ## How the program ends -/

/-- The outcome of writing what was generated. -/
def writing (settings : Settings) (g : Generation Shape) (made : World) :
    Tree × Except OutputFault Path :=
  made.tree.writeOutput g.text (Path.ofText settings.directoryName) settings.fileName

theorem closing_of_none (h : g.outputFault = none) :
    closing g = (g.matching.unmatched.map skippedLine ++
      [writtenLine g.outputPath g.file.queryClass.methods.length], 0) := by
  rw [closing, h]
  rfl

/-- The words of a fault are never empty, so a fault is never taken for none. -/
theorem closing_of_some {fault : OutputFault} (h : g.outputFault = some fault) :
    closing g = (g.matching.unmatched.map skippedLine, 1) := by
  rw [closing, h]
  exact if_neg fault.message_ne_nil

variable (name time : Text)

theorem confirmed_of_ok (h : (generate arguments).run.run world = (.ok g, after)) :
    confirmed name time arguments world =
      ({ output := textOfLines (title :: banner ++ logLines arguments time after.log ++
          (closing g).1)
         errors := []
         ending := .exit (closing g).2 }, after) := by
  rw [confirmed, h]

/-- A failure before the text is written decides how the program ends, and no file has changed. -/
theorem confirmed_of_refused (h : (prepare arguments).run.run world = (.error failure, after)) :
    (confirmed name time arguments world).1.ending =
        (if failure.isHandled then .exit 1 else .failed failure) ∧
      (confirmed name time arguments world).2.tree = world.tree := by
  have htree : after.tree = world.tree := by
    rw [← keepsTree_prepare arguments world, h]
  by_cases hhandled : failure.isHandled = true
  · simp only [confirmed, run_generate_of_refused h, hhandled, if_true]
    exact ⟨trivial, htree⟩
  · simp only [confirmed, run_generate_of_refused h, hhandled]
    exact ⟨rfl, htree⟩

/-- A text that is written ends the program in success. -/
theorem confirmed_of_written {tree : Tree} {path : Path}
    (h : (prepare arguments).run.run world = (.ok (settings, snapshot, g), made))
    (hwrite : writing settings g made = (tree, .ok path)) :
    (confirmed name time arguments world).1.ending = .exit 0 ∧
      (confirmed name time arguments world).1.output =
        textOfLines (title :: banner ++
          logLines arguments time (confirmed name time arguments world).2.log ++
          (snapshot.matching.unmatched.map skippedLine ++
            [writtenLine (some path) snapshot.matching.pairs.length])) ∧
      (confirmed name time arguments world).2.tree = tree := by
  obtain ⟨description, loaded, hinputs, hmade, -⟩ := exists_inputs_of_prepared h
  have hrun := (run_generate_of_inputs hinputs).trans (run_run_of_written hmade hwrite)
  obtain ⟨-, rfl⟩ := eq_of_prepared h
  rw [confirmed_of_ok name time hrun, closing_of_none rfl]
  refine ⟨rfl, ?_, rfl⟩
  simp only [SourceFile.ofMatches, SourceFile.ofMethods, List.length_map]

/-- A text that cannot be written ends the program in failure. -/
theorem confirmed_of_notWritten {tree : Tree} {fault : OutputFault}
    (h : (prepare arguments).run.run world = (.ok (settings, snapshot, g), made))
    (hwrite : writing settings g made = (tree, .error fault)) :
    (confirmed name time arguments world).1.ending = .exit 1 ∧
      (confirmed name time arguments world).2.tree = tree := by
  obtain ⟨description, loaded, hinputs, hmade, -⟩ := exists_inputs_of_prepared h
  have hrun := (run_generate_of_inputs hinputs).trans (run_run_of_notWritten hmade hwrite)
  rw [confirmed_of_ok name time hrun, closing_of_some rfl]
  exact ⟨rfl, rfl⟩

end Runs

/-! ## What the program promises -/

/-- What a confirmed run does by how it ends. -/
structure Accounts (arguments : Arguments) (time : Text) (world : World) (result : ProgramResult)
    (after : World) : Prop where
  /-- In success, the file at the printed path holds the text for the schema that was read, and
  every entity of the schema has a method or is reported as skipped. -/
  success : result.ending = .exit 0 →
    ∃ settings snapshot g made path bytes,
      (prepare arguments).run.run world = (.ok (settings, snapshot, g), made) ∧
      g.text = (SourceFile.ofMatches settings snapshot.matching.pairs).text ∧
      g.text.utf8? = some bytes ∧
      after.tree.entryAt (Path.ofText path.text) = .ok (.file bytes) ∧
      result.output =
        textOfLines (title :: banner ++ logLines arguments time after.log ++
          (snapshot.matching.unmatched.map skippedLine ++
            [writtenLine (some path) snapshot.matching.pairs.length])) ∧
      snapshot.matching.unmatched.length + snapshot.matching.pairs.length =
        snapshot.entities.length
  /-- It ends in failure exactly if what comes before writing fails, and the generator answers for
  the failure, or if the text cannot be written. -/
  failure : result.ending = .exit 1 ↔
    (∃ failure, ((prepare arguments).run.run world).1 = .error failure ∧
      failure.isHandled = true) ∨
    ∃ settings snapshot g made fault,
      (prepare arguments).run.run world = (.ok (settings, snapshot, g), made) ∧
      (writing settings g made).2 = .error fault
  /-- In failure, no file was created or changed. -/
  files : result.ending = .exit 1 → Tree.SameFiles world.tree after.tree

section Accounts

variable {arguments : Arguments} {world made after : World} {settings : Settings}
  {snapshot : Snapshot Shape} {g : Generation Shape} (name time : Text)

theorem accounts_of_refused {failure : Failure}
    (h : (prepare arguments).run.run world = (.error failure, after)) :
    Accounts arguments time world (confirmed name time arguments world).1
      (confirmed name time arguments world).2 := by
  obtain ⟨hending, htree⟩ := confirmed_of_refused name time h
  refine ⟨fun hsuccess => ?_, ⟨fun hfailure => ?_, ?_⟩, fun _ => ?_⟩
  · rw [hending] at hsuccess
    split at hsuccess <;> cases hsuccess
  · rw [hending] at hfailure
    split at hfailure
    · next hhandled => exact .inl ⟨failure, by rw [h], hhandled⟩
    · cases hfailure
  · rw [hending, h]
    rintro (⟨found, hfound, hhandled⟩ | ⟨_, _, _, _, _, hprepared, -⟩)
    · rw [Except.error.inj hfound, if_pos hhandled]
    · cases hprepared
  · rw [htree]
    exact fun _ _ _ => Iff.rfl

theorem accounts_of_written {tree : Tree} {path directory : Path} {bytes : List UInt8}
    {location : Location}
    (h : (prepare arguments).run.run world = (.ok (settings, snapshot, g), made))
    (hwrite : writing settings g made = (tree, .ok path)) (hpath : path.IsNormal)
    (hbytes : g.text.utf8? = some bytes)
    (hwritten : Tree.WrittenAt path directory bytes made.tree tree location) :
    Accounts arguments time world (confirmed name time arguments world).1
      (confirmed name time arguments world).2 := by
  obtain ⟨hending, houtput, htree⟩ := confirmed_of_written name time h hwrite
  obtain ⟨-, hg⟩ := eq_of_prepared h
  refine ⟨fun _ => ⟨settings, snapshot, g, made, path, bytes, h, ?_, hbytes, ?_, houtput, ?_⟩,
    ⟨fun hfailure => ?_, ?_⟩, fun hfailure => ?_⟩
  · rw [hg]
  · rw [htree, Path.ofText_text hpath, hwritten.entryAt_eq]
  · exact Snapshot.length_unmatched_add_length_pairs snapshot
  · rw [hending] at hfailure
    cases hfailure
  · rw [h]
    rintro (⟨_, hrefused, -⟩ | ⟨_, _, _, _, fault, hprepared, hfault⟩)
    · cases hrefused
    · cases hprepared
      rw [hwrite] at hfault
      cases hfault
  · rw [hending] at hfailure
    cases hfailure

theorem accounts_of_notWritten {tree : Tree} {directory : Path} {fault : OutputFault}
    (h : (prepare arguments).run.run world = (.ok (settings, snapshot, g), made))
    (hwrite : writing settings g made = (tree, .error fault))
    (hextends : Tree.Extends directory made.tree tree) :
    Accounts arguments time world (confirmed name time arguments world).1
      (confirmed name time arguments world).2 := by
  obtain ⟨hending, htree⟩ := confirmed_of_notWritten name time h hwrite
  refine ⟨fun hsuccess => ?_,
    ⟨fun _ => .inr ⟨settings, snapshot, g, made, fault, h, ?_⟩, fun _ => ?_⟩, fun _ => ?_⟩
  · rw [hending] at hsuccess
    cases hsuccess
  · rw [hwrite]
  · exact hending
  · have hkept : made.tree = world.tree := by
      rw [← keepsTree_prepare arguments world, h]
    rw [htree, ← hkept]
    exact hextends.sameFiles

/-- **A confirmed run accounts for itself**, however it goes. -/
theorem accounts_confirmed (arguments : Arguments) (world : World) :
    Accounts arguments time world (confirmed name time arguments world).1
      (confirmed name time arguments world).2 := by
  rcases hprepare : (prepare arguments).run.run world with
    ⟨failure | ⟨settings, snapshot, g⟩, made⟩
  · exact accounts_of_refused name time hprepare
  obtain ⟨hfile, hg⟩ := eq_of_prepared hprepare
  have htext : g.text = (SourceFile.ofMatches settings snapshot.matching.pairs).text :=
    congrArg Generation.text hg
  have hbytes := SourceFile.utf8?_text_ofMatches hfile
  rw [← htext] at hbytes
  rcases Tree.writeOutput_cases hbytes made.tree (Path.ofText settings.directoryName)
      settings.fileName with ⟨tree, location, hwrite, hwritten⟩ | ⟨tree, fault, hwrite, hextends⟩
  · exact accounts_of_written name time hprepare hwrite
      (Path.isNormal_child (Path.isNormal_ofText _) _) hbytes hwritten
  · exact accounts_of_notWritten name time hprepare hwrite hextends

end Accounts

section Main

variable {texts : List Text} {arguments : Arguments}

theorem main_of_confirmed (h : Arguments.parse texts = .ok arguments) (name time : Text)
    {input : Text} (hconfirmed : arguments.yes = true ∨ firstLine input = ("Y" : Text))
    (world : World) :
    main name time texts input world = confirmed name time arguments world := by
  rw [main, h]
  exact if_pos (by simpa [isConfirmed] using hconfirmed)

/-- **How the program ends, what it prints and what it leaves behind.** Without a confirmation it
does nothing, whatever its inputs hold. With one it accounts for itself. -/
theorem main_accounts (h : Arguments.parse texts = .ok arguments) (name time input : Text)
    (world : World) :
    (arguments.yes = false → firstLine input ≠ ("Y" : Text) →
      main name time texts input world =
        ({ output := textOfLines [title, "Exiting Program..."], errors := [], ending := .exit 0 },
          world)) ∧
    (arguments.yes = true ∨ firstLine input = ("Y" : Text) →
      Accounts arguments time world (main name time texts input world).1
        (main name time texts input world).2) := by
  refine ⟨fun hyes hline => ?_, fun hconfirmed => ?_⟩
  · rw [main, h]
    exact if_neg (by simp [isConfirmed, hyes, hline])
  · rw [main_of_confirmed h name time hconfirmed]
    exact accounts_confirmed name time arguments world

end Main

end Program

namespace Sample

/-- A file with a JSON value. -/
def jsonFile (value : Json) : Entry :=
  .file (value.compact.utf8?.getD [])

/-- Settings with nothing but an identity. -/
def identitySettings : Json :=
  .object
    [("Schema", .object
      [("SchemaName", .string "Shop"), ("ConnectionString", .string "x"),
        ("ModuleLocation", .string "shop.py"), ("ContainerNamespace", .string "Shop.Models")])]

/-- A working directory with settings and a schema file in which one of two entities has an
accessor. -/
def inputsWorld : World :=
  { emptyWorld with
    tree :=
      { home := ["work"]
        entries :=
          [(["work"], .directory), (["work", "appsettings.json"], jsonFile identitySettings),
            (["work", "schema.json"],
              jsonFile (.object
                [("entities", .array
                  [.object [("name", .string "Order")], .object [("name", .string "Shift")]]),
                ("accessors", .array
                  [.object [("name", .string "Orders"), ("elementType", .string "Order")]])]))] } }

/-- The arguments that name the schema file. -/
def schemaFileArguments : Arguments :=
  { Arguments.empty with schemaFile := some (.named "schema.json") }

end Sample

/-- The program with a schema file, without its confirmation and with it. -/
theorem Program.main_accounts_schemaFile :
    Arguments.parse ["--schema-file", "schema.json"] = .ok Sample.schemaFileArguments ∧
    (main [] [] ["--schema-file", "schema.json"] "y\n" Sample.inputsWorld).2 = Sample.inputsWorld ∧
    ∃ result after,
      main [] [] ["--schema-file", "schema.json"] "Y\n" Sample.inputsWorld = (result, after) ∧
      result.ending = .exit 0 ∧
      Accounts Sample.schemaFileArguments [] Sample.inputsWorld result after := by
  have hparse : Arguments.parse ["--schema-file", "schema.json"] =
      .ok Sample.schemaFileArguments := by decide +kernel
  have haccounts := main_accounts hparse [] []
  have hwritten : ((generate Sample.schemaFileArguments).run.run Sample.inputsWorld).1.toOption.any
      (fun g => g.outputFault.isNone) = true := by decide +kernel
  obtain ⟨g, hg, hfault⟩ := (Option.any_eq_true _ _).1 hwritten
  rcases hrun : (generate Sample.schemaFileArguments).run.run Sample.inputsWorld with
    ⟨failure | generation, after⟩ <;> rw [hrun] at hg
  · cases hg
  obtain rfl : generation = g := Option.some.inj hg
  have hconfirmed : Sample.schemaFileArguments.yes = true ∨ firstLine "Y\n" = ("Y" : Text) :=
    .inr (by decide)
  refine ⟨hparse, ?_, _, _, (Prod.eta _).symm, ?_,
    (haccounts "Y\n" Sample.inputsWorld).2 hconfirmed⟩
  · rw [(haccounts "y\n" Sample.inputsWorld).1 rfl (by decide)]
  · rw [main_of_confirmed hparse [] [] hconfirmed, confirmed_of_ok [] [] hrun,
      closing_of_none (Option.isNone_iff_eq_none.1 hfault)]

end QueryScaffold
