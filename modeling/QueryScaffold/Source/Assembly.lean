import QueryScaffold.Name.Convention
import QueryScaffold.Schema.Matching
import QueryScaffold.Source.Basic
import QueryScaffold.Source.Imports

/-!
# Assembling the source file

* `annotationsOf`: the attributes of a list of capabilities, once each, and `capabilitiesOfNames`;
* `QueryMethod.ofMatch`: the method for an entity and its accessor;
* `SourceFile.ofMethods`, `SourceFile.ofMatches`: the whole file.
-/

namespace QueryScaffold

/-- The names without repetition, each where it stands first. -/
def withoutRepetition : List Text → List Text
  | [] => []
  | name :: rest => name :: (withoutRepetition rest).filter (· ≠ name)

/-- The attributes of a list of capabilities. -/
def annotationsOf (capabilities : List Capability) : List Text :=
  withoutRepetition (capabilities.map Capability.attributeName)

/-- A name that is no capability. -/
structure UnknownCapability where
  name : Text
deriving DecidableEq

/-- The fault in words. -/
def UnknownCapability.message (fault : UnknownCapability) : Text :=
  fault.name.quote ++ (" is not a valid Capability" : Text)

/-- The capabilities of a list of names, or the first name that is none. -/
def capabilitiesOfNames : List Text → Except UnknownCapability (List Capability)
  | [] => .ok []
  | name :: rest =>
    match Capability.ofName? name with
    | none => .error ⟨name⟩
    | some capability => (capabilitiesOfNames rest).map (capability :: ·)

/-- The name of the constructor parameter that takes the factory of contexts. -/
def factoryParameterName : Text := "dbContextFactory"

/-- The name of the field that keeps the factory of contexts. -/
def factoryFieldName : Text := fieldName factoryParameterName

/-- The services that the constructor passes on to the base class. -/
def serviceParameters : List Variable :=
  [⟨"ICacheService", "cacheService"⟩, ⟨"IHttpContextAccessor", "httpContextAccessor"⟩,
    ⟨"IConfiguration", "configuration"⟩]

/-- The type of a factory of contexts. -/
def factoryType (settings : Settings) : Text :=
  ("IDbContextFactory<" : Text) ++ settings.schemaIdentity.schemaName ++ (">" : Text)

/-- The comment that says where the file comes from. -/
def provenanceComment (settings : Settings) : Text :=
  ("<auto-generated> Generated by querygen from " : Text) ++ settings.schemaIdentity.schemaName ++
    (". Do not edit by hand. </auto-generated>" : Text)

namespace QueryMethod

/-- The method that queries an accessor for the entities of a name. -/
def ofNames (settings : Settings) (entity accessor : Text) : QueryMethod :=
  { name := methodName accessor
    returnType := ("IQueryable<" : Text) ++ entity ++ (">" : Text)
    annotations := annotationsOf settings.queryCapabilities
    body :=
      { accessorName := accessor
        entityName := entity
        factoryField := factoryFieldName
        contextVariable := contextVariableName settings.contextVariablePrefix accessor
        helperName := settings.queryHelperName }
    summary := ("Gets the " : Text) ++ accessor ++ ("." : Text) }

/-- The method for an entity and the accessor that is taken for it. -/
def ofMatch {σ : Type} (settings : Settings) (pair : Match σ) : QueryMethod :=
  ofNames settings pair.entity.name pair.accessor

end QueryMethod

namespace SourceFile

/-- The file with these methods. -/
def ofMethods (settings : Settings) (methods : List QueryMethod) : SourceFile :=
  { codeNamespace := settings.codeNamespace
    imports := settings.imports
    provenance := provenanceComment settings
    queryClass :=
      { typeName := settings.className
        baseTypeName := settings.baseTypeName
        parameters := ⟨factoryType settings, factoryParameterName⟩ :: serviceParameters
        factoryField := ⟨factoryType settings, factoryFieldName⟩
        methods } }

/-- The file with a method for each match. -/
def ofMatches {σ : Type} (settings : Settings) (pairs : List (Match σ)) : SourceFile :=
  ofMethods settings (pairs.map (QueryMethod.ofMatch settings))

end SourceFile

end QueryScaffold
