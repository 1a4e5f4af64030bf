import QueryScaffold.Expression.Basic
import QueryScaffold.Expression.Quotation

/-!
# Templates

A template is a string in which braces enclose fields. A field holds an expression, and behind it
perhaps an equals sign, which shows the expression itself, a conversion behind an exclamation mark,
and a form behind a colon. A brace for itself is written twice. A form can hold fields again, but
theirs cannot.

* `TemplatePart`: a text or a field as it is written;
* `Template.parts?`: the parts of the content of a template.
-/

namespace QueryScaffold

/-- A part of a template as it is written. -/
inductive TemplatePart
  | text (t : Text)
  /-- The source of an expression, how its value is shown, and the form for it. -/
  | field (source : Text) (conversion : Option Conversion) (form : Option (List TemplatePart))

namespace Template

/-- The brace that starts a field. -/
def opening : CodePoint := CodePoint.ofChar '\x7b'

/-- The brace that ends a field. -/
def closing : CodePoint := CodePoint.ofChar '\x7d'

/-- The code point is one of the two braces. -/
def isBrace (c : CodePoint) : Bool := c = opening || c = closing

/-- Braces have no meaning up to the end of a character's name. -/
def nameLength (t : Text) : Nat :=
  match t with
  | c :: next :: rest =>
    if c = CodePoint.ofChar 'N' && next = opening then
      2 + (rest.takeWhile (· ≠ closing)).length + 1
    else 1
  | _ => 1

/-- The literal that a text starts with up to a brace, and the text from there on. In the outermost
text a brace that is written twice belongs to the literal and ends it. Some code points at the start
have been read already. -/
def literal? (isPlain outermost : Bool) (skip : Nat) : Text → Option (Text × Text)
  | [] => some ([], [])
  | c :: rest =>
    let more (skip : Nat) : Option (Text × Text) :=
      (literal? isPlain outermost skip rest).map fun (t, after) => (c :: t, after)
    if skip ≠ 0 then more (skip - 1)
    else if c = CodePoint.ofChar '\\' && !isPlain && !rest.head?.any isBrace then
      more (nameLength rest)
    else if isBrace c then
      if outermost && rest.head? = some c then some ([c], rest)
      else if outermost && c = closing then none
      else some ([], c :: rest)
    else more 0

/-- The literal has ended at a brace that is written twice. -/
def endsDoubled (literal rest : Text) : Bool :=
  match literal.getLast?, rest.head? with
  | some a, some b => a = b && isBrace a
  | _, _ => false

/-- Where the reading of a field's expression stands: within a string with so many quotes, or within
brackets. -/
structure FieldState where
  quote : Option (CodePoint × Bool)
  brackets : List CodePoint

/-- The bracket that a bracket closes. -/
def openedBy (c : CodePoint) : Option CodePoint :=
  if c = CodePoint.ofChar ')' then some (CodePoint.ofChar '(')
  else if c = CodePoint.ofChar ']' then some (CodePoint.ofChar '[')
  else if c = closing then some opening
  else none

/-- The code point opens a bracket. -/
def isOpeningBracket (c : CodePoint) : Bool :=
  c = CodePoint.ofChar '(' || c = CodePoint.ofChar '[' || c = opening

/-- One of the marks that end an expression, unless an equals sign makes another mark of it. -/
def isEndMark (c : CodePoint) : Bool :=
  List.contains (("!:=\x7d" : Text)) c

/-- The mark together with an equals sign compares two values. -/
def isComparing (c : CodePoint) : Bool :=
  List.contains (("!=<>" : Text)) c

/-- The expression that a field starts with, and the text from the mark on that ends it; some code
points at the start have been read already. -/
def source? (state : FieldState) (skip : Nat) : Text → Option (Text × Text)
  | [] => none
  | c :: rest =>
    let more (state : FieldState) (skip : Nat) : Option (Text × Text) :=
      (source? state skip rest).map fun (t, after) => (c :: t, after)
    if skip ≠ 0 then more state (skip - 1)
    else if c = CodePoint.ofChar '\\' then none
    else
      match state.quote with
      | some (mark, isLong) =>
        if c = mark && (!isLong || [c, c].isPrefixOf rest) then
          more { state with quote := none } (if isLong then 2 else 0)
        else more state 0
      | none =>
        if c = CodePoint.ofChar '\'' || c = CodePoint.ofChar '"' then
          let isLong := [c, c].isPrefixOf rest
          more { state with quote := some (c, isLong) } (if isLong then 2 else 0)
        else if isOpeningBracket c then more { state with brackets := c :: state.brackets } 0
        else if c = CodePoint.ofChar '#' then none
        else if state.brackets = [] && isComparing c && rest.head? = some (CodePoint.ofChar '=') then
          more state 1
        else if state.brackets = [] && isEndMark c then some ([], c :: rest)
        else
          match openedBy c, state.brackets with
          | none, _ => more state 0
          | some _, [] => none
          | some bracket, innermost :: outer =>
            if innermost = bracket then more { state with brackets := outer } 0 else none

/-- The conversion that stands behind an exclamation mark. -/
def conversion? (t : Text) : Option (Option Conversion × Text) :=
  match t with
  | mark :: c :: rest =>
    if mark ≠ CodePoint.ofChar '!' then some (none, t)
    else if c = CodePoint.ofChar 's' then some (some .plain, rest)
    else if c = CodePoint.ofChar 'r' then some (some .quoted, rest)
    else if c = CodePoint.ofChar 'a' then some (some .ascii, rest)
    else none
  | _ => some (none, t)

/-- The blanks that may stand behind an equals sign. -/
def isPadding (c : CodePoint) : Bool :=
  c = CodePoint.ofChar ' ' || (9 ≤ c.value && c.value ≤ 13)

/-- The blanks and the equals sign that a text starts with, which show an expression itself, and the
text behind them. -/
def shownMark (t : Text) : Text × Text :=
  if t.head? = some (CodePoint.ofChar '=') then
    let padding := t.tail.takeWhile isPadding
    (t.take (1 + padding.length), t.drop (1 + padding.length))
  else ([], t)

mutual

/-- The parts of a text up to its end, or within a form up to its closing brace, and the text from
there on. -/
def parts? (isPlain : Bool) : Nat → Nat → Text → Option (List TemplatePart × Text)
  | 0, _, _ => none
  | fuel + 1, level, t =>
    match literal? isPlain (level = 0) 0 t with
    | none => none
    | some (literal, rest) =>
      let before : List TemplatePart := if literal.isEmpty then [] else [.text literal]
      if level = 0 && endsDoubled literal rest then
        (parts? isPlain fuel level rest.tail).map fun (parts, rest) => (before ++ parts, rest)
      else if rest.head? ≠ some opening then some (before, rest)
      else
        match field? isPlain fuel level rest.tail with
        | none => none
        | some (field, rest) =>
          (parts? isPlain fuel level rest).map fun (parts, rest) => (before ++ field ++ parts, rest)

/-- The field from behind its opening brace on, and the text behind its closing one. -/
def field? (isPlain : Bool) : Nat → Nat → Text → Option (List TemplatePart × Text)
  | 0, _, _ => none
  | fuel + 1, level, t =>
    if 2 ≤ level then none
    else
      match source? ⟨none, []⟩ 0 t with
      | none => none
      | some (source, rest) =>
        let (mark, rest) := shownMark rest
        let before : List TemplatePart := if mark.isEmpty then [] else [.text (source ++ mark)]
        match conversion? rest with
        | none => none
        | some (conversion, rest) =>
          let formed := if rest.head? = some (CodePoint.ofChar ':') then
              (parts? isPlain fuel (level + 1) rest.tail).map fun (form, rest) => (some form, rest)
            else some (none, rest)
          match formed with
          | none => none
          | some (form, rest) =>
            let conversion :=
              if !mark.isEmpty && form.isNone && conversion.isNone then some .quoted else conversion
            if rest.head? = some closing then
              some (before ++ [.field source conversion form], rest.tail)
            else none

end

/-- The parts of the content of a template. -/
def allParts? (isPlain : Bool) (content : Text) : Option (List TemplatePart) :=
  match parts? isPlain (2 * content.length + 2) 0 content with
  | some (parts, []) => some parts
  | _ => none

end Template

end QueryScaffold
