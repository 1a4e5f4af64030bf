import QueryScaffold.Proofs.Files.Output
import QueryScaffold.Proofs.Run.GeneratedText
import QueryScaffold.Proofs.Run.Steps

/-!
# What a run does to files

Reading a schema and generating the text change no file, whatever becomes of them. Only the last
step of a run writes, and what it writes can always be encoded, so that a fault in writing is one of
the path and is met before any file is touched. Permissions, full disks and code of a container that
works on files itself are outside of this.

* `Run.KeepsTree`: computations that change no file, and `keepsTree_generate`;
* `run_writeFile`: the last step, and `run_run_of_written`, `run_run_of_notWritten`: a run by it;
* `FileEffect`: what a run may do to files, by its outcome;
* `run_fileEffect`: **every run does one of these**.
-/

namespace QueryScaffold

/-! ## Computations that change no file -/

namespace Run

/-- The computation changes no file, whether it fails or not. -/
def KeepsTree {α : Type} (computation : Run α) : Prop :=
  ∀ world, (computation.run.run world).2.tree = world.tree

namespace KeepsTree

variable {α β : Type}

theorem pure (value : α) : KeepsTree (Pure.pure value : Run α) :=
  fun _ => rfl

theorem get : KeepsTree (MonadState.get : Run World) :=
  fun _ => rfl

theorem bind {computation : Run α} {next : α → Run β} (h : KeepsTree computation)
    (hnext : ∀ value, KeepsTree (next value)) : KeepsTree (computation >>= next) := by
  intro world
  have hfirst := h world
  rw [run_bind]
  rcases hrun : computation.run.run world with ⟨failure | value, after⟩ <;> rw [hrun] at hfirst
  · exact hfirst
  · exact (hnext value after).trans hfirst

theorem check (outcome : Except Failure α) : KeepsTree (Run.check outcome) :=
  fun world => congrArg (·.2.tree) (run_check outcome world)

theorem report (schema : Option Text) (notice : Notice) : KeepsTree (Run.report schema notice) :=
  fun _ => rfl

theorem reportAll (schema : Option Text) (notices : List Notice) :
    KeepsTree (Run.reportAll schema notices) :=
  fun _ => rfl

theorem ofTransition (operation : Workspace → Transition α) :
    KeepsTree (Run.ofTransition operation) :=
  fun world => congrArg (·.2.tree) (run_ofTransition operation world)

theorem outcome {computation : Run α} (h : KeepsTree computation) :
    KeepsTree (Run.outcome computation) :=
  h

end KeepsTree

end Run

open Run (KeepsTree)

theorem keepsTree_readSchema {σ : Type} (schema : Option Text) {reading : Run (Snapshot σ)}
    (h : KeepsTree reading) : KeepsTree (readSchema schema reading) :=
  .bind h fun _ => .bind (.report _ _) fun _ => .pure _

/-- A container is entered, read and left without a file being touched. -/
theorem keepsTree_readContainer (identity : SchemaIdentity) :
    KeepsTree (readContainer identity) :=
  .bind .get fun _ => .bind (.ofTransition _) fun _ =>
    .bind (.outcome (keepsTree_readSchema _ (.ofTransition _))) fun _ =>
      .bind (.ofTransition _) fun _ => .check _

theorem keepsTree_readSource (settings : Settings) (description : Option Description) :
    KeepsTree (readSource settings description) := by
  cases description with
  | some description => exact .bind (keepsTree_readSchema _ (.check _)) fun _ => .pure _
  | none => exact .bind (keepsTree_readContainer _) fun _ => .pure _

/-- **Generating changes no file**, whatever the source and the outcome. -/
theorem keepsTree_generate (settings : Settings) (description : Option Description) :
    KeepsTree (generate settings description) :=
  .bind (keepsTree_readSource settings description) fun _ =>
    .bind (.bind (.reportAll _ _) fun _ => .check _) fun _ => .bind (.report _ _) fun _ => .pure _

/-! ## What is generated -/

/-- What is generated comes from some schema. -/
theorem exists_ofSnapshot_of_run_generate {settings : Settings} {description : Option Description}
    {world after : World} {g : Generation Shape}
    (h : (generate settings description).run.run world = (.ok g, after)) :
    ∃ snapshot : Snapshot Shape, Generation.ofSnapshot settings snapshot = .ok g := by
  rw [generate, Run.run_bind] at h
  split at h
  · next snapshot read hread =>
    rw [Run.run_bind] at h
    split at h
    · next generation made hmade =>
      obtain ⟨hg, -⟩ := Prod.mk.inj h
      exact ⟨snapshot, Except.ok.inj hg ▸ ofSnapshot_eq_ok_of_run hmade⟩
    · cases h
  · cases h

/-! ## Writing -/

/-- The last step of a run keeps everything but files and the log. -/
theorem run_writeFile (text : Text) (directory : Path) (fileName : Text) (world : World) :
    (writeFile text directory fileName).run.run world =
      match world.tree.writeOutput text directory fileName with
      | (tree, .ok path) =>
        (.ok path, { world with tree, log := world.log ++ [⟨none, .written path.text⟩] })
      | (tree, .error fault) => (.error (.output fault), { world with tree }) := by
  have hwrite : (writeFile text directory fileName).run.run world =
      (do
        let path ← Run.check
          ((world.tree.writeOutput text directory fileName).2.mapError .output)
        Run.report none (.written path.text)
        return path : Run Path).run.run
          { world with tree := (world.tree.writeOutput text directory fileName).1 } := rfl
  rw [hwrite]
  rcases world.tree.writeOutput text directory fileName with ⟨tree, fault | path⟩ <;> rfl

section Run

variable {settings : Settings} {description : Option Description} {world made : World}
  {g : Generation Shape} {tree : Tree}

/-- A run that has generated a text and written it gives the path. -/
theorem run_run_of_written {path : Path}
    (h : (generate settings description).run.run world = (.ok g, made))
    (hwrite : made.tree.writeOutput g.text (Path.ofText settings.directoryName) settings.fileName =
      (tree, .ok path)) :
    (run settings description).run.run world =
      (.ok { g with outputPath := some path },
        { made with tree, log := made.log ++ [⟨none, .written path.text⟩] }) := by
  rw [run, Run.run_bind, h]
  simp only
  rw [Run.run_outcome_bind, run_writeFile, hwrite]
  rfl

/-- A run that has generated a text and could not write it gives the reason, and reports it. -/
theorem run_run_of_notWritten {fault : OutputFault}
    (h : (generate settings description).run.run world = (.ok g, made))
    (hwrite : made.tree.writeOutput g.text (Path.ofText settings.directoryName) settings.fileName =
      (tree, .error fault)) :
    (run settings description).run.run world =
      (.ok { g with outputFault := some fault },
        { made with
          tree
          log := made.log ++
            [⟨some settings.schemaIdentity.schemaName, .notWritten fault.message⟩] }) := by
  rw [run, Run.run_bind, h]
  simp only
  rw [Run.run_outcome_bind, run_writeFile, hwrite]
  rfl

end Run

theorem OutputFault.message_ne_nil (fault : OutputFault) : fault.message ≠ [] := by
  have hstart : ("Cannot write " : Text) ≠ [] := by decide
  simp [message, hstart]

/-- What a run may do to files, by its outcome; `generated` is the outcome of generating from the
same source. -/
inductive FileEffect (settings : Settings) (generated : Except Failure (Generation Shape))
    (before : Tree) : Except Failure (Generation Shape) → Tree → Prop
  /-- Nothing is generated, and nothing is written. -/
  | refused {failure : Failure} : generated = .error failure →
      FileEffect settings generated before (.error failure) before
  /-- The output file holds the text. -/
  | written {g : Generation Shape} {directory path : Path} {bytes : List UInt8} {after : Tree}
      {location : Location} : generated = .ok g →
      directory = Path.ofText settings.directoryName → path = directory.child settings.fileName →
      g.text.utf8? = some bytes → Tree.WrittenAt path directory bytes before after location →
      FileEffect settings generated before
        (.ok { g with outputPath := some path, outputFault := none }) after
  /-- The output file cannot be written, and no file is changed. -/
  | notWritten {g : Generation Shape} {fault : OutputFault} {after : Tree} : generated = .ok g →
      fault.message ≠ [] → Tree.Extends (Path.ofText settings.directoryName) before after →
      FileEffect settings generated before
        (.ok { g with outputPath := none, outputFault := some fault }) after

/-- **Every run does one of these to files.** If it fails, it has failed to generate and the files
are as they were. Else it gives what is generated, and either the path of the output file or why
there is none. -/
theorem run_fileEffect (settings : Settings) (description : Option Description) (world : World) :
    FileEffect settings ((generate settings description).run.run world).1 world.tree
      ((run settings description).run.run world).1
      ((run settings description).run.run world).2.tree := by
  have htree := keepsTree_generate settings description world
  rw [run, Run.run_bind]
  rcases hgenerate : (generate settings description).run.run world with ⟨failure | g, after⟩ <;>
    rw [hgenerate] at htree
  · rw [← htree]
    exact .refused rfl
  · obtain ⟨snapshot, hsnapshot⟩ := exists_ofSnapshot_of_run_generate hgenerate
    obtain ⟨hfile, rfl⟩ := Generation.ofSnapshot_eq_ok_iff.1 hsnapshot
    have hbytes := SourceFile.utf8?_text_ofMatches hfile
    simp only
    rw [Run.run_outcome_bind, run_writeFile, ← htree]
    rcases Tree.writeOutput_cases hbytes after.tree (Path.ofText settings.directoryName)
        settings.fileName with ⟨tree, location, hok, hwritten⟩ | ⟨tree, fault, herror, hextends⟩
    · rw [hok]
      exact .written rfl rfl rfl hbytes hwritten
    · rw [herror]
      exact .notWritten rfl (OutputFault.message_ne_nil _) hextends

end QueryScaffold
