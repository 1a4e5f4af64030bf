import QueryScaffold.Name.TypeName
import QueryScaffold.Source.Basic
import QueryScaffold.Text.Quoted

/-!
# Valid source files

A file is rendered only if every name in it fits its place.

* `Role`: a place for a text in the file, `Role.admits` for the texts that fit it;
* `Requirement`: one thing that a file has to satisfy, `SourceFile.requirements` for all in order;
* `SynthesisFault`: a requirement that is not met;
* `SourceFile.fault?`: the first one.
-/

namespace QueryScaffold

/-- A place for a text in a source file. -/
inductive Role
  | provenanceComment
  | codeNamespace
  | usingDirective
  | className
  | baseType
  | fieldType
  | fieldName
  | parameterType
  | parameterName
  | methodName
  | returnType
  | accessorName
  | entityName
  | variableName
  | helperName
  | attributeName
  | summary
deriving DecidableEq, Repr

namespace Role

/-- The place in words. -/
def text : Role → Text
  | .provenanceComment => "provenance comment"
  | .codeNamespace => "namespace"
  | .usingDirective => "using directive"
  | .className => "class name"
  | .baseType => "base type"
  | .fieldType => "field type"
  | .fieldName => "field name"
  | .parameterType => "parameter type"
  | .parameterName => "parameter name"
  | .methodName => "method name"
  | .returnType => "return type"
  | .accessorName => "accessor name"
  | .entityName => "entity name"
  | .variableName => "variable name"
  | .helperName => "helper name"
  | .attributeName => "attribute"
  | .summary => "doc summary"

/-- The text has no line feed. -/
def isOneLine (t : Text) : Bool :=
  !t.contains (CodePoint.ofChar '\n')

/-- The text fits the place. -/
def admits : Role → Text → Bool
  | .provenanceComment | .summary => isOneLine
  | .codeNamespace | .usingDirective | .attributeName => Text.isQualifiedName
  | .baseType | .fieldType | .parameterType | .returnType | .entityName => Text.isTypeName
  | .className | .fieldName | .parameterName | .methodName | .accessorName | .variableName
  | .helperName => Text.isIdentifier

end Role

/-- Why a source file is not rendered. -/
inductive SynthesisFault
  /-- A text does not fit its place. -/
  | invalid (role : Role) (value : Text)
  | repeatedMethod (name : Text)
  /-- The constructor has no parameter for the factory of contexts. -/
  | noFactoryParameter
deriving DecidableEq

namespace SynthesisFault

/-- The fault in words. -/
def message : SynthesisFault → Text
  | .invalid role value => ("Invalid " : Text) ++ role.text ++ (": " : Text) ++ value.quote
  | .repeatedMethod name => ("Duplicate method name: " : Text) ++ name.quote
  | .noFactoryParameter => "Constructor must take the context factory parameter"

end SynthesisFault

/-- One thing that a file has to satisfy. -/
inductive Requirement
  /-- A text fits its place. -/
  | fits (role : Role) (value : Text)
  /-- A name is none of those before it. -/
  | isNew (name : Text) (earlier : List Text)
  /-- There is a parameter. -/
  | hasParameter (parameters : List Variable)

namespace Requirement

/-- The fault if the requirement is not met. -/
def fault? : Requirement → Option SynthesisFault
  | .fits role value => if role.admits value then none else some (.invalid role value)
  | .isNew name earlier => if name ∈ earlier then some (.repeatedMethod name) else none
  | .hasParameter parameters => if parameters.isEmpty then some .noFactoryParameter else none

end Requirement

namespace Variable

/-- What a parameter has to satisfy. -/
def parameterRequirements (v : Variable) : List Requirement :=
  [.fits .parameterType v.type, .fits .parameterName v.identifier]

end Variable

namespace QueryMethod

/-- What a method has to satisfy after methods of other names. -/
def requirements (earlier : List Text) (m : QueryMethod) : List Requirement :=
  [.fits .methodName m.name, .isNew m.name earlier, .fits .returnType m.returnType,
    .fits .accessorName m.body.accessorName, .fits .entityName m.body.entityName,
    .fits .variableName m.body.contextVariable, .fits .fieldName m.body.factoryField,
    .fits .helperName m.body.helperName] ++
    m.annotations.map (Requirement.fits .attributeName) ++ [.fits .summary m.summary]

/-- What methods have to satisfy after methods of other names. -/
def listRequirements (earlier : List Text) : List QueryMethod → List Requirement
  | [] => []
  | m :: rest => m.requirements earlier ++ listRequirements (earlier ++ [m.name]) rest

end QueryMethod

namespace QueryClass

/-- What a class has to satisfy. -/
def requirements (c : QueryClass) : List Requirement :=
  [.fits .className c.typeName, .fits .baseType c.baseTypeName,
    .fits .fieldType c.factoryField.type, .fits .fieldName c.factoryField.identifier,
    .hasParameter c.parameters] ++
    c.parameters.flatMap Variable.parameterRequirements ++
    QueryMethod.listRequirements [] c.methods

end QueryClass

namespace SourceFile

/-- What a file has to satisfy, in the order in which it is checked. -/
def requirements (file : SourceFile) : List Requirement :=
  [.fits .provenanceComment file.provenance, .fits .codeNamespace file.codeNamespace] ++
    file.imports.map (Requirement.fits .usingDirective) ++ file.queryClass.requirements

/-- The first fault of a file. -/
def fault? (file : SourceFile) : Option SynthesisFault :=
  file.requirements.findSome? Requirement.fault?

end SourceFile

end QueryScaffold
