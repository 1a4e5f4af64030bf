import QueryScaffold.Evaluation.Fault
import QueryScaffold.Files.Output
import QueryScaffold.Json.Reader
import QueryScaffold.Schema.Fault
import QueryScaffold.Settings.Validation
import QueryScaffold.Source.Validity

/-!
# Failures

A run either gives a result or fails. The failures that the generator answers for come in families;
the others are let through as they are.

* `ConfigurationFault`, `ResolutionFault`: settings that cannot be used, and containers that cannot
  be found or opened;
* `Failure`: why a run fails, `Failure.message` in words;
* `Failure.isHandled`: the failures that the generator answers for;
* `Failure.fields`: the settings that a failure is about.
-/

namespace QueryScaffold

/-- Why settings cannot be used. -/
inductive ConfigurationFault
  /-- These places do not hold what they should. -/
  | invalid (offenders : List FieldPath)
  /-- A file is not JSON. -/
  | notJson (path : Text) (reason : JsonReason) (place : Position)
  /-- A file holds something that is no object. -/
  | notObject (path : Text)
deriving DecidableEq

namespace ConfigurationFault

/-- The settings at fault. -/
def fields : ConfigurationFault → List Text
  | .invalid offenders => offenders.map FieldPath.text
  | _ => []

/-- The fault in words. -/
def message : ConfigurationFault → Text
  | .invalid offenders =>
    ("Invalid configuration: " : Text) ++
      Text.joined (", " : Text) (offenders.map FieldPath.text)
  | .notJson path reason place =>
    path ++ (" is not valid JSON: " : Text) ++ reason.message ++ (": " : Text) ++ place.message
  | .notObject path => path ++ (" must contain a JSON object" : Text)

end ConfigurationFault

/-- Why a schema or its container cannot be found or opened. -/
inductive ResolutionFault
  | schemaFileMissing (path : Text)
  | schemaFileNotObject (path : Text)
  | moduleMissing (path : Text)
  /-- The file is not one that can be loaded as a module. -/
  | notModule (path : Text)
  /-- A module of this name is there already. -/
  | nameTaken (name : Text)
  | importFailed (path : Text) (fault : CodeFault)
  /-- The file should hold compiled code and starts with something else. -/
  | notCompiled (path codeNamespace : Text) (start : List UInt8)
  /-- The module has no class of this name. -/
  | noContainer (codeNamespace name : Text)
  /-- The class makes no container from the connection string. -/
  | rejected (name : Text) (fault : CodeFault)
deriving DecidableEq

namespace ResolutionFault

/-- The settings at fault. -/
def fields : ResolutionFault → List Text
  | .schemaFileMissing _ | .schemaFileNotObject _ => []
  | .moduleMissing _ | .notModule _ | .importFailed _ _ | .notCompiled _ _ _ =>
    ["Schema.ModuleLocation"]
  | .nameTaken _ => ["Schema.ContainerNamespace"]
  | .noContainer _ _ => ["Schema.SchemaName"]
  | .rejected _ _ => ["Schema.ConnectionString"]

/-- The fault in words. -/
def message : ResolutionFault → Text
  | .schemaFileMissing path => ("Schema file not found: " : Text) ++ path
  | .schemaFileNotObject path => path ++ (" must contain a JSON object" : Text)
  | .moduleMissing path => ("Schema module not found: " : Text) ++ path
  | .notModule path => ("Cannot load schema module from " : Text) ++ path
  | .nameTaken name => ("Module name " : Text) ++ name.quote ++ (" is already loaded" : Text)
  | .importFailed path fault =>
    ("Failed to import schema module " : Text) ++ path ++ (": " : Text) ++ fault.toRaised.text
  | .notCompiled path codeNamespace start =>
    ("Failed to import schema module " : Text) ++ path ++ (": bad magic number in " : Text) ++
      codeNamespace.quote ++ (": b" : Text) ++ Text.quoteBytes start
  | .noContainer codeNamespace name =>
    codeNamespace ++ (" has no container class " : Text) ++ name.quote
  | .rejected name fault =>
    name ++ (" rejected the connection string: " : Text) ++ fault.toRaised.text

end ResolutionFault

/-- Why a run fails. -/
inductive Failure
  | configuration (fault : ConfigurationFault)
  | resolution (fault : ResolutionFault)
  | schema (fault : SchemaFault)
  | synthesis (fault : SynthesisFault)
  | output (fault : OutputFault)
  /-- A file is not UTF-8. -/
  | undecodable (fault : Utf8Fault)
  /-- A file has an integer with too many digits. -/
  | numberTooLong (digits : Nat)
  /-- A path cannot even be asked about. -/
  | path (fault : PathFault)
  /-- An annotation of a container has no value. -/
  | annotationFault (fault : CodeFault)
  /-- One cannot go through the registry of a container item by item. -/
  | registryFault (fault : CodeFault)
  /-- The settings file is named twice: as such, and among the settings that override it. -/
  | pathOverridden
  /-- The option for the schema file is there, and no file is named. -/
  | unnamedSchemaFile
  /-- Something failed inside a container or its module. -/
  | raised (failure : Raised)

namespace Failure

/-- The generator answers for the failure. -/
def isHandled : Failure → Bool
  | .configuration _ | .resolution _ | .schema _ | .synthesis _ | .output _ => true
  | _ => false

/-- The settings that a failure is about; only failures of the configuration have them. -/
def fields? : Failure → Option (List Text)
  | .configuration fault => some fault.fields
  | .resolution fault => some fault.fields
  | .schema _ => some []
  | _ => none

/-- The failure in words. -/
def message : Failure → Text
  | .configuration fault => fault.message
  | .resolution fault => fault.message
  | .schema fault => fault.message
  | .synthesis fault => fault.message
  | .output fault => fault.message
  | .undecodable fault => fault.message
  | .numberTooLong digits =>
    ("Exceeds the limit (4300 digits) for integer string conversion: value has " : Text) ++
      Text.ofNat digits ++
      (" digits; use sys.set_int_max_str_digits() to increase the limit" : Text)
  | .path fault => fault.message
  | .annotationFault fault | .registryFault fault => fault.toRaised.text
  | .pathOverridden => "load_config() got multiple values for argument 'path'"
  | .unnamedSchemaFile => "'list' object has no attribute 'is_file'"
  | .raised failure => failure.text

/-- The failure to read a JSON file at a path. -/
def ofJsonFault (path : Text) : Json.Fault → Failure
  | .encoding fault => .undecodable fault
  | .malformed reason place => .configuration (.notJson path reason place)
  | .numberTooLong digits => .numberTooLong digits

end Failure

end QueryScaffold
