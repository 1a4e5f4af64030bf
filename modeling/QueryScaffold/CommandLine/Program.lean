import QueryScaffold.CommandLine.Arguments
import QueryScaffold.Run.Generation
import QueryScaffold.Run.Inputs

/-!
# The program

* `Program.main`: a run from the command line, with what it prints and how it ends;
* `Program.inputs`, `Program.generate`: the run after it was confirmed.

Without the option to skip it the program asks for a confirmation, and does nothing unless the first
line of its input is `Y`.
-/

namespace QueryScaffold

/-- How the program ends. -/
inductive Ending
  | exit (status : Nat)
  /-- A failure that the program does not answer for. -/
  | failed (failure : Failure)

/-- What the program printed, and how it ended. -/
structure ProgramResult where
  output : Text
  errors : Text
  ending : Ending

namespace Program

/-- How to call the program. -/
def usage : Text :=
  "usage: querygen [-h] [--config CONFIG] [--schema-file SCHEMA_FILE] [-y] [-v]\n"

/-- The lines of the help after the usage. -/
def helpLines : List Text :=
  ["",
    "Generate a GraphQL query class from a schema.",
    "",
    "options:",
    "  -h, --help            show this help message and exit",
    "  --config CONFIG       settings file (default: ./appsettings.json)",
    "  --schema-file SCHEMA_FILE",
    "                        static JSON schema description",
    "  -y, --yes             skip the confirmation prompt",
    "  -v, --verbose         debug logging"]

/-- The help. -/
def help : Text :=
  usage ++ textOfLines helpLines

/-- The result of arguments that stop the program. -/
def stopped : ArgumentStop → ProgramResult
  | .help => { output := help, errors := [], ending := .exit 0 }
  | stop =>
    { output := []
      errors := usage ++ ("querygen: error: " : Text) ++ stop.message ++ ("\n" : Text)
      ending := .exit 2 }

/-- The first line of the input, without its end. -/
def firstLine (input : Text) : Text :=
  input.takeWhile (· ≠ CodePoint.ofChar '\n')

/-- The run may go on. -/
def isConfirmed (arguments : Arguments) (input : Text) : Bool :=
  arguments.yes || firstLine input = ("Y" : Text)

/-- The least level that the log shows. -/
def leastLevel (arguments : Arguments) : Level :=
  if arguments.verbose then .debug else .info

/-- The lines that the log shows, each after a time. -/
def logLines (arguments : Arguments) (time : Text) (log : List Record) : List Text :=
  (log.filter fun record => (leastLevel arguments).rank ≤ record.notice.level.rank).map
    fun record => time ++ (" " : Text) ++ record.line

/-- Reads the settings and the schema file that the arguments name. -/
def inputs (arguments : Arguments) : Run (Settings × Option Description) := do
  let settings ← loadSettings (arguments.config.map Path.ofText) []
  match arguments.schemaFile with
  | none => return (settings, none)
  | some (.named path) => return (settings, some (← loadDescription (Path.ofText path)))
  | some .unnamed => throw .unnamedSchemaFile

/-- Reads the inputs that the arguments name, generates the query class and writes it. -/
def generate (arguments : Arguments) : Run (Generation Shape) := do
  let (settings, description) ← inputs arguments
  run settings description

/-- The line on an entity that is left out. -/
def skippedLine {σ : Type} (entity : Entity σ) : Text :=
  ("Skipped " : Text) ++ entity.name ++ (": no accessor exposes it" : Text)

/-- The line on the file that was written. -/
def writtenLine (path : Option Path) (methods : Nat) : Text :=
  ("Generated " : Text) ++ path.elim ("None" : Text) Path.text ++ (" (" : Text) ++
    Text.ofNat methods ++ (" queries)" : Text)

/-- What is printed at the end of a run that gave a result, and its status. An error without words
would count as none. -/
def closing (generation : Generation Shape) : List Text × Nat :=
  let skipped := generation.matching.unmatched.map skippedLine
  if generation.outputFault.elim [] OutputFault.message = [] then
    (skipped ++
      [writtenLine generation.outputPath generation.file.queryClass.methods.length], 0)
  else (skipped, 1)

/-- The line before the prompt. -/
def title : Text := "Generate GraphQL Queries"

/-- The lines after the prompt was confirmed. -/
def banner : List Text :=
  ["----------------------------------------------", "Generating GraphQL Class(es)..."]

/-- A run that was confirmed. -/
def confirmed (name time : Text) (arguments : Arguments) (world : World) :
    ProgramResult × World :=
  let finish (world : World) (more : List Text) (ending : Ending) : ProgramResult × World :=
    let lines := title :: banner ++ logLines arguments time world.log ++ more
    ({ output := textOfLines lines, errors := [], ending }, world)
  match (generate arguments).run.run world with
  | (.ok generation, world) =>
    let (lines, status) := closing generation
    finish world lines (.exit status)
  | (.error failure, world) =>
    if failure.isHandled then
      let record : Record := ⟨none, .failed name failure.message⟩
      finish { world with log := world.log ++ [record] } [] (.exit 1)
    else finish world [] (.failed failure)

/-- A run from the command line. The program goes by a name in its log, where each line starts with
a time. -/
def main (name time : Text) (arguments : List Text) (input : Text) (world : World) :
    ProgramResult × World :=
  match Arguments.parse arguments with
  | .error stop => (stopped stop, world)
  | .ok arguments =>
    if isConfirmed arguments input then confirmed name time arguments world
    else
      ({ output := textOfLines [title, "Exiting Program..."], errors := [], ending := .exit 0 },
        world)

end Program

end QueryScaffold
