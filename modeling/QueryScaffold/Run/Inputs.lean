import QueryScaffold.Run.World
import QueryScaffold.Schema.Description

/-!
# The inputs of a run

* `loadSettings`: the settings in a file, with some of them overridden;
* `loadDescription`: the description of a schema in a file.

Settings need no file: without one they are the overrides alone.
-/

namespace QueryScaffold

/-- The name of the settings file that is read if no other is named. -/
def settingsFileName : Text := "appsettings.json"

namespace Tree

/-- The settings file of the working directory, by its absolute path. -/
def defaultSettingsPath (tree : Tree) : Path :=
  ⟨.root, tree.home ++ [settingsFileName]⟩

/-- The value in the JSON file at a path. -/
def readJson (tree : Tree) (path : Path) : Except Failure Json :=
  (Json.ofBytes (tree.content path)).mapError (Failure.ofJsonFault path.text)

end Tree

namespace Settings

/-- The settings in a JSON value, or all places at fault. -/
def validate (value : Json) : Except Failure Settings :=
  match ofJson value with
  | .accepted settings => .ok settings
  | .rejected offenders => .error (.configuration (.invalid offenders))

/-- The entries of the settings file at a path, if there is one. -/
def entriesAt? (tree : Tree) (path : Path) : Except Failure (Option Entries) :=
  match tree.isFile path with
  | .error fault => .error (.path fault)
  | .ok false => .ok none
  | .ok true =>
    match tree.readJson path with
    | .error failure => .error failure
    | .ok (.object entries) => .ok (some entries)
    | .ok _ => .error (.configuration (.notObject path.text))

end Settings

/-- The name under which a settings file can be asked for, which no setting can take. -/
def pathKey : Text := "path"

/-- The settings in a file, or in that of the working directory, with some of them overridden. -/
def loadSettings (path : Option Path) (overrides : Entries) : Run Settings := do
  if (Entries.get? pathKey overrides).isSome then throw .pathOverridden
  let tree := (← get).tree
  let path := path.getD tree.defaultSettingsPath
  match ← Run.check (Settings.entriesAt? tree path) with
  | some entries => Run.check (Settings.validate (.object (Entries.update entries overrides)))
  | none =>
    Run.report none (.noSettingsFile path.text)
    Run.check (Settings.validate (.object overrides))

namespace Tree

/-- The object in the JSON file at a path. -/
def readObject (tree : Tree) (path : Path) : Except Failure Entries :=
  match tree.isFile path with
  | .error fault => .error (.path fault)
  | .ok false => .error (.resolution (.schemaFileMissing path.text))
  | .ok true =>
    match tree.readJson path with
    | .error failure => .error failure
    | .ok (.object entries) => .ok entries
    | .ok _ => .error (.resolution (.schemaFileNotObject path.text))

end Tree

/-- The description of a schema in a file. -/
def loadDescription (path : Path) : Run Description := do
  let entries ← Run.check ((← get).tree.readObject path)
  return ⟨entries⟩

end QueryScaffold
