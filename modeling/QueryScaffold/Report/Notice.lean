import QueryScaffold.Schema.Matching

/-!
# Notices

A run reports what it does. A record is a notice with the name of the schema that it is about.

* `Notice`: what is reported, with its level, the part that reports it and its wording;
* `Record`: a notice in the log, `Record.line` for its line without the time;
* `Snapshot.warnings`: the notices on entities that no accessor or several accessors expose.
-/

namespace QueryScaffold

/-- How serious a notice is. -/
inductive Level
  | debug
  | info
  | warning
  | error
deriving DecidableEq, Repr

namespace Level

/-- The name of the level in a log. -/
def name : Level → Text
  | .debug => "DEBUG"
  | .info => "INFO"
  | .warning => "WARNING"
  | .error => "ERROR"

/-- The level in the order of seriousness. -/
def rank : Level → Nat
  | .debug => 0
  | .info => 1
  | .warning => 2
  | .error => 3

end Level

/-- What a run reports. -/
inductive Notice
  /-- There is no settings file at a path. -/
  | noSettingsFile (path : Text)
  | opened (container : Text)
  | closed (container : Text)
  /-- A schema was read. -/
  | schemaRead (entities accessors : Nat)
  /-- No accessor exposes an entity. -/
  | unexposed (entity : Text)
  /-- Several accessors expose an entity. -/
  | ambiguous (entity : Text) (candidates : List Text)
  | rendered (methods unmatched : Nat)
  /-- The output file was written. -/
  | written (path : Text)
  /-- The output file was not written. -/
  | notWritten (reason : Text)
  /-- A run that was started under a name failed. -/
  | failed (program reason : Text)
deriving DecidableEq

namespace Notice

/-- The level of a notice. -/
def level : Notice → Level
  | .noSettingsFile _ | .schemaRead _ _ | .rendered _ _ | .written _ => .info
  | .opened _ | .closed _ => .debug
  | .unexposed _ | .ambiguous _ _ => .warning
  | .notWritten _ | .failed _ _ => .error

/-- The part of the generator that gives a notice. -/
def logger : Notice → Text
  | .noSettingsFile _ | .opened _ | .closed _ => "querygen.loader"
  | .schemaRead _ _ => "querygen.schema_parser"
  | .unexposed _ | .ambiguous _ _ => "querygen.resolver"
  | .rendered _ _ | .notWritten _ => "querygen.pipeline"
  | .written _ => "querygen.codegen"
  | .failed program _ => program

/-- The wording of a notice. -/
def message : Notice → Text
  | .noSettingsFile path =>
    ("No settings file at " : Text) ++ path ++ (", using defaults" : Text)
  | .opened container => ("Opened schema container " : Text) ++ container
  | .closed container => ("Closed schema container " : Text) ++ container
  | .schemaRead entities accessors =>
    ("Read schema: " : Text) ++ Text.ofNat entities ++ (" entities, " : Text) ++
      Text.ofNat accessors ++ (" accessors" : Text)
  | .unexposed entity =>
    ("No accessor exposes entity " : Text) ++ entity ++ (", skipping" : Text)
  | .ambiguous entity candidates =>
    ("Entity " : Text) ++ entity ++ (" is exposed by " : Text) ++
      Text.joined (", " : Text) candidates ++ (", using " : Text) ++ candidates.headD []
  | .rendered methods unmatched =>
    ("Rendered " : Text) ++ Text.ofNat methods ++ (" query methods (" : Text) ++
      Text.ofNat unmatched ++ (" unmatched entities)" : Text)
  | .written path => ("Generated " : Text) ++ path
  | .notWritten reason => reason
  | .failed _ reason => ("Generation failed: " : Text) ++ reason

end Notice

/-- A notice in the log. -/
structure Record where
  /-- The schema that the notice is about. -/
  schema : Option Text
  notice : Notice
deriving DecidableEq

namespace Record

/-- The name of the schema in a log; a hyphen if there is none. -/
def schemaText (record : Record) : Text :=
  record.schema.getD "-"

/-- The line of the record in a log, after the time. -/
def line (record : Record) : Text :=
  record.notice.level.name ++ (" " : Text) ++ record.notice.logger ++ (" [schema=" : Text) ++
    record.schemaText ++ ("] - " : Text) ++ record.notice.message

end Record

namespace Exposure

/-- The notice on an entity, unless exactly one accessor exposes it. -/
def warning? {σ : Type} (exposure : Exposure σ) : Option Notice :=
  if exposure.isUnmatched then some (.unexposed exposure.entity.name)
  else if exposure.isAmbiguous then
    some (.ambiguous exposure.entity.name exposure.candidates)
  else none

end Exposure

namespace Snapshot

/-- The notices on entities that no accessor or several accessors expose, in order. -/
def warnings {σ : Type} [DecidableEq σ] (snapshot : Snapshot σ) : List Notice :=
  snapshot.exposures.filterMap Exposure.warning?

end Snapshot

end QueryScaffold
