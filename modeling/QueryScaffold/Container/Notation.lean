import QueryScaffold.Class.Standard
import QueryScaffold.Container.Statement
import QueryScaffold.Expression.Writing
import QueryScaffold.Text.Blank

/-!
# Container modules in JSON

A container module is written as a JSON array with an object for each statement.

* `WrittenType.textOfJson?`: the text of the annotation that a value writes;
* `Statement.ofJson?`: the statement that a value writes;
* `Statement.moduleOfJson?`: the statements of the module that a value writes.

A statement is known by one of the keys `class`, `alias`, `value`, `function` and `raise`. Names are
composed. Within a class a name that starts with two underscores is the class's own. A module has
the names of types at hand.
-/

namespace QueryScaffold

namespace Entries

/-- The text under a key. -/
def text? (key : Text) (entries : Entries) : Option Text :=
  (entries.get? key).bind Json.string?

/-- The texts of the array under a key. -/
def texts (key : Text) (entries : Entries) : List Text :=
  match entries.get? key with
  | some value => value.items.filterMap Json.string?
  | none => []

end Entries

/-- The parts that the object of an annotation may have. -/
structure AnnotationParts where
  head : Option Text
  arguments : Option (List Text)
  alternatives : Option (List Text)
  quoted : Option Text
  literal : Option Text

namespace AnnotationParts

/-- No part at all. -/
def empty : AnnotationParts := ⟨none, none, none, none, none⟩

/-- The text of the annotation that the parts make. -/
def text? (parts : AnnotationParts) : Option Text :=
  match parts with
  | ⟨some head, some arguments, _, _, _⟩ =>
    some (head ++ ("[" : Text) ++ Text.joined ", " arguments ++ ("]" : Text))
  | ⟨none, _, some alternatives, _, _⟩ => some (Text.joined " | " alternatives)
  | ⟨none, _, none, some inner, _⟩ => some inner.quote
  | ⟨none, _, none, none, some s⟩ => some s.quote
  | _ => none

end AnnotationParts

namespace WrittenType

mutual

/-- The text of the annotation that a value writes. -/
def textOfJson? : Json → Option Text
  | .string n => some n
  | .object entries => (partsOf entries).text?
  | _ => none

/-- The texts of the annotations that the items of an array write. -/
def textsOfJson? : Json → Option (List Text)
  | .array items => textsOfItems? items
  | _ => none

/-- The texts of the annotations that values write. -/
def textsOfItems? : List Json → Option (List Text)
  | [] => some []
  | item :: rest =>
    match textOfJson? item, textsOfItems? rest with
    | some written, some annotations => some (written :: annotations)
    | _, _ => none

/-- The parts that the entries of an object write. -/
def partsOf : List (Text × Json) → AnnotationParts
  | [] => .empty
  | (key, value) :: rest =>
    let parts := partsOf rest
    if key = ("of" : Text) then { parts with head := value.string? }
    else if key = ("args" : Text) then { parts with arguments := textsOfJson? value }
    else if key = ("or" : Text) then { parts with alternatives := textsOfJson? value }
    else if key = ("quoted" : Text) then { parts with quoted := textOfJson? value }
    else if key = ("text" : Text) then { parts with literal := value.string? }
    else parts

end

end WrittenType

/-- Reads names and references as they stand within a class. -/
structure ClassReader where
  className : Text

namespace ClassReader

/-- The name that a text is. -/
def name (reader : ClassReader) (t : Text) : Text :=
  privateName reader.className (Text.composed t)

/-- The reference that a text is. -/
def reference (reader : ClassReader) (t : Text) : Expression :=
  if reader.className = [] then .readName t else .readNameIn reader.className t

/-- The annotated attribute that an array of a name and an annotation writes. The annotation is kept
as it would be written again. -/
def annotation? (reader : ClassReader) : Json → Option (Text × Text)
  | .array [.string n, value] =>
    (WrittenType.textOfJson? value).map fun t => (reader.name n, (Expression.readName t).text)
  | _ => none

/-- The exception that the entries of an object raise. -/
def raising? (reader : ClassReader) (entries : Entries) : Option Raising :=
  (entries.text? "raise").map fun kind =>
    ⟨reader.reference kind, (entries.text? "message").getD []⟩

/-- The text without blanks around it. -/
def withoutBlanks (t : Text) : Text :=
  t.trim (· = CodePoint.ofChar ' ')

/-- The parameter that a text writes which is taken in a way. A default stands behind an equals sign
and a type behind a colon. -/
def parameter (reader : ClassReader) (way : ParameterWay) (t : Text) : Parameter :=
  let (declared, default) := match t.cut? (CodePoint.ofChar '=') with
    | some (before, after) => (before, some after)
    | none => (t, none)
  let name := match declared.cut? (CodePoint.ofChar ':') with
    | some (before, _) => before
    | none => declared
  { way
    name := reader.name (withoutBlanks name)
    default := default.map fun source => reader.reference (withoutBlanks source) }

/-- The parameters that texts write, the first of which are taken in a way. Behind a star they are
taken by their names. -/
def parametersFrom (reader : ClassReader) (way : ParameterWay) : List Text → List Parameter
  | [] => []
  | t :: rest =>
    let star : Text := "*"
    let stars : Text := "**"
    let written := withoutBlanks t
    if written = star then parametersFrom reader .byName rest
    else if stars.isPrefixOf written then
      reader.parameter .restByName (written.drop stars.length) :: parametersFrom reader way rest
    else if star.isPrefixOf written then
      reader.parameter .rest (written.drop star.length) :: parametersFrom reader .byName rest
    else reader.parameter way written :: parametersFrom reader way rest

/-- The parameters that texts write. Before a slash they are taken by their places alone. -/
def parameters (reader : ClassReader) (written : List Text) : List Parameter :=
  let placed := written.takeWhile fun t => withoutBlanks t ≠ ("/" : Text)
  if placed.length < written.length then
    reader.parametersFrom .byPlace placed ++
      reader.parametersFrom .plain (written.drop (placed.length + 1))
  else reader.parametersFrom .plain written

/-- The parameters that every constructor has in front of all others. -/
def firstParameters : List Text := ["self", "connection_string"]

/-- The constructor in the entries of an object. -/
def constructor (reader : ClassReader) (entries : Entries) : Constructor :=
  { parameters := reader.parameters (firstParameters ++ entries.texts "extra")
    expectedStart := entries.text? "prefix"
    failure := reader.raising? entries
    reported := true }

/-- The attribute `close` that a value writes: a method if it is an object. -/
def closer (reader : ClassReader) : Json → Closer
  | .object entries => .method (reader.raising? entries) true
  | value => .attribute value

/-- The item of a registry that a value writes. -/
def registryMember (reader : ClassReader) (value : Json) : RegistryMember :=
  match value.entries.text? "ref" with
  | some name => .reference (reader.reference name)
  | none => .literal value

/-- The registry that a value writes. -/
def registry (reader : ClassReader) : Json → RegistryForm
  | .array items => .members (items.map reader.registryMember)
  | value => .literal value

end ClassReader

namespace ClassDeclaration

/-- The base that makes a class generic over so many type variables. -/
def genericBase? : Int → Option Expression
  | 1 => some (.subscript (.name "Generic") (.name "T"))
  | 2 => some (.subscript (.name "Generic") (.tuple [.name "T", .name "U"]))
  | _ => none

/-- The class statement in the entries of an object. -/
def ofEntries (name : Text) (entries : Entries) : ClassDeclaration :=
  let name := Text.composed name
  let reader : ClassReader := ⟨name⟩
  let generic := match entries.get? "generic" with
    | some (.int n) => genericBase? n
    | _ => none
  { name
    bases := (entries.texts "bases").map Expression.readName ++ generic.toList
    registry := (entries.get? "entity_types").map reader.registry
    annotations := match entries.get? "annotations" with
      | some value => value.items.filterMap reader.annotation?
      | none => []
    construction := match entries.get? "init" with
      | some (.object parts) => some (reader.constructor parts)
      | _ => none
    closer := (entries.get? "close").map reader.closer }

end ClassDeclaration

namespace Statement

/-- The word with which the text of a module starts. -/
def moduleStart : Text := "from"

/-- The statement in the entries of an object. -/
def ofEntries? (entries : Entries) : Option Statement :=
  match entries.text? "class", entries.text? "alias", entries.text? "value",
    entries.text? "function" with
  | some name, _, _, _ => some (.declare (.ofEntries name entries))
  | none, some name, _, _ =>
    (entries.text? "to").map fun target => .assign (Text.composed name) (.readName target)
  | none, none, some name, _ =>
    some (.value (Text.composed name) ((entries.get? "to").getD .null))
  | none, none, none, some name => some (.function (Text.composed name))
  | none, none, none, none => ((ClassReader.mk []).raising? entries).map Statement.fail

/-- The statement that a value writes. -/
def ofJson? : Json → Option Statement
  | .object entries => ofEntries? entries
  | _ => none

/-- The statements of the module that an array writes. -/
def moduleOfJson? : Json → Option (List Statement)
  | .array items => (items.mapM ofJson?).map (Statement.provide typingNames :: ·)
  | _ => none

end Statement

end QueryScaffold
