import QueryScaffold.CommandLine.Program
import QueryScaffold.Container.Notation

/-!
# The executable

Reads the files that a run needs, runs the program on them, and then writes and prints what the
program asks for. Everything else is decided by `Program.main`.
-/

namespace QueryScaffold

namespace Executable

/-- The entry of a file: a container module if it is written as one. -/
def entryOf (content : List UInt8) : Entry :=
  match Json.ofBytes content with
  | .ok value =>
    match Statement.moduleOfJson? value with
    | some statements => .module content statements
    | none => .file content
  | .error _ => .file content

/-- The tree with a file and the directories that it is in. -/
def place (tree : Tree) (path : Path) (content : List UInt8) : Tree :=
  match tree.makeDirectories path.parent with
  | (tree, .ok ()) =>
    match tree.locate path with
    | .ok location => tree.put location (entryOf content)
    | .error _ => tree
  | (tree, .error _) => tree

/-- The tree with the file at a path, if it can be read. -/
def read (tree : Tree) (path : Path) : IO Tree := do
  try
    let bytes ← IO.FS.readBinFile path.text.toStringLossy
    return place tree path bytes.toList
  catch _ => return tree

/-- The path of the module that settings name. -/
def moduleOf? (tree : Tree) (settings : Path) : Option Path :=
  match Settings.entriesAt? tree settings with
  | .ok (some entries) =>
    match Settings.ofEntries entries with
    | .accepted settings => some (Path.ofText settings.schemaIdentity.moduleLocation)
    | .rejected _ => none
  | _ => none

/-- The files that arguments and settings name. -/
def readInputs (tree : Tree) (arguments : Arguments) : IO Tree := do
  let settings := (arguments.config.map Path.ofText).getD tree.defaultSettingsPath
  let mut tree ← read tree settings
  if let some (.named path) := arguments.schemaFile then
    tree ← read tree (Path.ofText path)
  if let some path := moduleOf? tree settings then
    tree ← read tree path
  return tree

/-- Puts an entry of the tree into the file system. -/
def store (location : Location) (entry : Entry) : IO Unit := do
  let path := (Path.mk .root location).text.toStringLossy
  match entry with
  | .directory => IO.FS.createDirAll path
  | entry => IO.FS.writeBinFile path ⟨entry.content.toArray⟩

/-- The working directory with nothing in it. -/
def emptyTree (directory : String) : Tree :=
  let home := (Path.ofText (Text.ofString directory)).names
  ((Tree.mk home []).makeDirectories ⟨.root, home⟩).1

/-- The status of an ending, after a failure has been shown. -/
def status : Ending → IO UInt32
  | .exit status => return UInt32.ofNat status
  | .failed failure => do
    IO.eprintln failure.message.toStringLossy
    return 1

/-- Runs the program with arguments. -/
def run (arguments : List String) : IO UInt32 := do
  let texts := arguments.map Text.ofString
  let home := emptyTree ((← IO.getEnv "PWD").getD "/")
  let (tree, input) ← match Arguments.parse texts with
    | .error _ => pure (home, "")
    | .ok parsed => do
      let input ← if parsed.yes then pure "" else (← IO.getStdin).getLine
      pure (← readInputs home parsed, input)
  let world : World := { tree, workspace := .initial, events := [], log := [] }
  let time := Text.ofNat (← IO.monoMsNow)
  let (result, after) := Program.main "querygen.__main__" time texts (Text.ofString input) world
  for (location, entry) in world.tree.changes after.tree do
    store location entry
  IO.print result.output.toStringLossy
  IO.eprint result.errors.toStringLossy
  status result.ending

end Executable

end QueryScaffold

/-- Runs the program. -/
def main (arguments : List String) : IO UInt32 :=
  QueryScaffold.Executable.run arguments
