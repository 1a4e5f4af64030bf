import QueryScaffold.Container.Reading
import QueryScaffold.Report.Notice
import QueryScaffold.Run.World
import QueryScaffold.Schema.Description
import QueryScaffold.Source.Assembly
import QueryScaffold.Source.Rendering

/-!
# Generating the query class

* `Generation.ofSnapshot`: what a schema and settings give;
* `generateSource`: the same with its notices;
* `generate`: the same from a description or from the container of the settings;
* `run`: the same with the output file written.

A run whose file cannot be written still gives its text.
-/

namespace QueryScaffold

/-- The shape of an entity from any source: a type name, or a class. -/
inductive Shape
  | named (typeName : Text)
  | live (ref : ClassRef)
deriving DecidableEq

/-- What a run generates. -/
structure Generation (σ : Type) where
  text : Text
  file : SourceFile
  matching : Matching σ
  /-- The file that was written. -/
  outputPath : Option Path
  /-- Why no file was written. -/
  outputFault : Option OutputFault
deriving DecidableEq

namespace Generation

/-- What settings and a schema give; no file is written yet. -/
def ofSnapshot {σ : Type} [DecidableEq σ] (settings : Settings) (snapshot : Snapshot σ) :
    Except SynthesisFault (Generation σ) :=
  let matching := snapshot.matching
  let file := SourceFile.ofMatches settings matching.pairs
  match file.render with
  | .ok text => .ok { text, file, matching, outputPath := none, outputFault := none }
  | .error fault => .error fault

end Generation

/-- A schema that is read, with the notice on it. -/
def readSchema {σ : Type} (schema : Option Text) (reading : Run (Snapshot σ)) :
    Run (Snapshot σ) := do
  let snapshot ← reading
  Run.report schema (.schemaRead snapshot.entities.length snapshot.accessors.length)
  return snapshot

/-- The schema that a description describes. -/
def readDescription (schema : Option Text) (description : Description) : Run (Snapshot Text) :=
  readSchema schema (Run.check (description.snapshot.mapError .schema))

/-- The schema of the container of a scope. -/
def readScope (schema : Option Text) (scope : Scope) : Run (Snapshot ClassRef) :=
  readSchema schema (Run.ofTransition scope.snapshot)

/-- The schema of the container of an identity, which is in use only while it is read. -/
def readContainer (identity : SchemaIdentity) : Run (Snapshot ClassRef) := do
  let scope ← Run.ofTransition (Scope.enter (← get).tree 0 identity)
  let outcome ← Run.outcome (readScope (some identity.schemaName) scope)
  Run.ofTransition scope.leave
  Run.check outcome

/-- The entities of a schema with what becomes of them, with the notices on them. -/
def matchEntities {σ : Type} [DecidableEq σ] (schema : Option Text) (snapshot : Snapshot σ) :
    Run (Matching σ) := do
  Run.reportAll schema snapshot.warnings
  return snapshot.matching

/-- What settings and a schema give, with the notices on entities. -/
def generateSource {σ : Type} [DecidableEq σ] (settings : Settings) (snapshot : Snapshot σ) :
    Run (Generation σ) := do
  Run.reportAll (some settings.schemaIdentity.schemaName) snapshot.warnings
  Run.check ((Generation.ofSnapshot settings snapshot).mapError .synthesis)

/-- The schema of a description if one is given, and else of the container of the settings. -/
def readSource (settings : Settings) (description : Option Description) : Run (Snapshot Shape) := do
  match description with
  | some description =>
    let snapshot ← readDescription (some settings.schemaIdentity.schemaName) description
    return snapshot.map .named
  | none =>
    let snapshot ← readContainer settings.schemaIdentity
    return snapshot.map .live

/-- Reads the schema and generates the text. -/
def generate (settings : Settings) (description : Option Description) :
    Run (Generation Shape) := do
  let snapshot ← readSource settings description
  let generation ← generateSource settings snapshot
  Run.report (some settings.schemaIdentity.schemaName)
    (.rendered generation.file.queryClass.methods.length generation.matching.unmatched.length)
  return generation

/-- Writes a text to a file of a directory. -/
def writeFile (text : Text) (directory : Path) (fileName : Text) : Run Path := do
  let world ← get
  let (tree, result) := world.tree.writeOutput text directory fileName
  set { world with tree }
  let path ← Run.check (result.mapError .output)
  Run.report none (.written path.text)
  return path

/-- Reads the schema, generates the text and writes it to the output file. -/
def run (settings : Settings) (description : Option Description) : Run (Generation Shape) := do
  let generation ← generate settings description
  let directory := Path.ofText settings.directoryName
  match ← Run.outcome (writeFile generation.text directory settings.fileName) with
  | .ok path => return { generation with outputPath := some path }
  | .error (.output fault) =>
    Run.report (some settings.schemaIdentity.schemaName) (.notWritten fault.message)
    return { generation with outputFault := some fault }
  | .error failure => throw failure

end QueryScaffold
