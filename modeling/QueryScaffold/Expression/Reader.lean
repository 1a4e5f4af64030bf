import QueryScaffold.Expression.Rule
import QueryScaffold.Expression.Template
import QueryScaffold.Expression.Token
import QueryScaffold.Expression.Writing
import QueryScaffold.Text.Encoding

/-!
# Reading expressions

* `SourceFault`: why a text writes no expression;
* `Expression.read`: the expression that a text writes;
* `Expression.readName`: the expression that stands in a module in place of a name.

Operators of equal strength join from left to right, except that a power joins its exponent first
and that comparisons form a chain. Strings that follow one another are one string. A star before
everything else asks for the first item of what follows it. What is read also has to keep the rules
of `Expression.isLawful`.
-/

namespace QueryScaffold

/-- Why a text writes no expression. -/
inductive SourceFault
  /-- There is nothing to read. -/
  | empty
  /-- Half a surrogate pair stands in the text, which has no bytes. -/
  | unencodable (fault : EncodingFault)
  | malformed (source : Text)
deriving DecidableEq

namespace Token

/-- The token is this word. -/
def isWord (w : Text) : Token → Bool
  | .word v => v = w
  | _ => false

/-- The token is this mark. -/
def isMark (m : Text) : Token → Bool
  | .mark n => n = m
  | _ => false

/-- The tokens after a mark that they start with. -/
def after? (m : Text) : List Token → Option (List Token)
  | token :: rest => if token.isMark m then some rest else none
  | [] => none

/-- The tokens after a word that they start with. -/
def afterWord? (w : Text) : List Token → Option (List Token)
  | token :: rest => if token.isWord w then some rest else none
  | [] => none

/-- The tokens start with a mark. -/
def startsWith (m : Text) (tokens : List Token) : Bool :=
  (after? m tokens).isSome

/-- The tokens start with one of two words. -/
def startsWithWord (v w : Text) (tokens : List Token) : Bool :=
  (afterWord? v tokens).isSome || (afterWord? w tokens).isSome

/-- The tokens give a name to a value. -/
def startNaming : List Token → Bool
  | .name _ :: next :: _ => next.isMark ":="
  | _ => false

/-- The operator that tokens start with, and the tokens after it. -/
def operator? : List Token → Option (Operator × List Token)
  | .mark m :: rest => (Operator.ofText? m).map fun operator => (operator, rest)
  | .word w :: rest =>
    if w = ("not" : Text) then (afterWord? "in" rest).map fun rest => (.outside, rest)
    else
      match if w = ("is" : Text) then afterWord? "not" rest else none with
      | some rest => some (.distinct, rest)
      | none => (Operator.ofText? w).map fun operator => (operator, rest)
  | _ => none

/-- The sign that a token is before an operand. -/
def sign? : Token → Option Sign
  | .word w => if w = ("not" : Text) then some .not else none
  | .mark m =>
    if m = ("+" : Text) then some .plus
    else if m = ("-" : Text) then some .minus
    else if m = ("~" : Text) then some .tilde
    else none
  | _ => none

/-- The token is a string of any kind. -/
def isString : Token → Bool
  | .constant (.text _) | .constant (.bytes _) | .template _ _ => true
  | _ => false

end Token

namespace Expression

open Token (after? afterWord? startsWith startsWithWord startNaming)

/-- The expression of items between commas: one without a comma behind it is itself. -/
def ofItems (items : List Expression) (endsWithComma : Bool) : Expression :=
  match items, endsWithComma with
  | [e], false => e
  | items, _ => .tuple items

/-- The expression of items in brackets behind a value. A spread alone stands for several items. -/
def ofBrackets (items : List Expression) (endsWithComma : Bool) : Expression :=
  ofItems items (endsWithComma || items.any isSpread)

/-- The constant that a word is. -/
def ofWord? (w : Text) : Option Constant :=
  if w = ("None" : Text) then some .null
  else if w = ("True" : Text) then some (.truth true)
  else if w = ("False" : Text) then some (.truth false)
  else none

/-! ## Parameters -/

/-- The parameters of a function as far as they have been read. -/
structure ParameterReading where
  done : List (FunctionParameter × Option Expression) := []
  /-- A star has been read, so that the other parameters are given by name. -/
  byName : Bool := false
  /-- A star alone has been read, which a parameter has to follow. -/
  isOpen : Bool := false

namespace ParameterReading

/-- The parameters with one more. One that is given by place has a default if one before it has. -/
def add? (reading : ParameterReading) (name : Text) (default : Option Expression) :
    Option ParameterReading :=
  let way := if reading.byName then ParameterWay.byName else .plain
  if !reading.byName && default.isNone && reading.done.any fun p => p.2.isSome then none
  else some { reading with done := reading.done ++ [(⟨way, name⟩, default)], isOpen := false }

/-- All parameters so far are given by place alone. -/
def close? (reading : ParameterReading) : Option ParameterReading :=
  if reading.done.isEmpty || reading.byName || reading.done.any fun p => p.1.way ≠ .plain then none
  else
    some { reading with done := reading.done.map fun p => (⟨.byPlace, p.1.name⟩, p.2) }

/-- The parameters with one for the rest of the arguments without names. -/
def addRest? (reading : ParameterReading) (name : Text) : Option ParameterReading :=
  if reading.byName then none
  else some { reading with done := reading.done ++ [(⟨.rest, name⟩, none)], byName := true }

/-- The parameters with a star alone behind them. -/
def star? (reading : ParameterReading) : Option ParameterReading :=
  if reading.byName then none else some { reading with byName := true, isOpen := true }

/-- The parameters with one for the rest of the arguments with names. -/
def addEntries? (reading : ParameterReading) (name : Text) :
    Option (List (FunctionParameter × Option Expression)) :=
  if reading.isOpen then none else some (reading.done ++ [(⟨.restByName, name⟩, none)])

end ParameterReading

/-! ## Arguments -/

/-- The sort of the last argument of a call so far. -/
inductive ArgumentStage
  | none
  | byPlace
  | byName
  | entries
deriving DecidableEq

/-- The stage after an argument that may follow at a stage. -/
def ArgumentStage.after? (stage : ArgumentStage) (way : ArgumentWay) (isSpread : Bool) :
    Option ArgumentStage :=
  match way, stage with
  | .byPlace, .none | .byPlace, .byPlace => some .byPlace
  | .byPlace, .byName => if isSpread then some .byName else Option.none
  | .byPlace, .entries => Option.none
  | .byName _, .entries => some .entries
  | .byName _, _ => some .byName
  | .entries, _ => some .entries

/-- A text has nothing but blanks. -/
def isBlankSource (source : Text) : Bool :=
  source.all Template.isPadding

mutual

/-- Reads an expression. -/
def readWhole (fuel : Nat) (tokens : List Token) : Option (Expression × List Token) :=
  match fuel with
  | 0 => none
  | fuel + 1 =>
    match afterWord? "lambda" tokens with
    | some rest => do
      let (parameters, rest) ← readParameters fuel {} rest
      let (body, rest) ← readWhole fuel rest
      return (.function parameters body, rest)
    | none => do
      let (yes, rest) ← readOperation fuel choiceStrength tokens
      match afterWord? "if" rest with
      | none => return (yes, rest)
      | some rest =>
        let (condition, rest) ← readOperation fuel choiceStrength rest
        let rest ← afterWord? "else" rest
        let (no, rest) ← readWhole fuel rest
        return (.choice condition yes no, rest)

/-- Reads the parameters of a function up to the colon behind them. -/
def readParameters (fuel : Nat) (reading : ParameterReading) (tokens : List Token) :
    Option (List (FunctionParameter × Option Expression) × List Token) :=
  match fuel, tokens with
  | fuel + 1, .name n :: rest => do
    match after? "=" rest with
    | some rest =>
      let (default, rest) ← readWhole fuel rest
      readParametersAfter fuel (← reading.add? n (some default)) rest
    | none => readParametersAfter fuel (← reading.add? n none) rest
  | fuel + 1, .mark m :: rest =>
    if m = (":" : Text) then if reading.isOpen then none else some (reading.done, rest)
    else if m = ("/" : Text) then do readParametersAfter fuel (← reading.close?) rest
    else if m = ("*" : Text) then
      match rest with
      | .name n :: rest => do readParametersAfter fuel (← reading.addRest? n) rest
      | rest => do readParameters fuel (← reading.star?) (← after? "," rest)
    else if m = ("**" : Text) then
      match rest with
      | .name n :: rest => do
        let parameters ← reading.addEntries? n
        let rest ← after? ":" ((after? "," rest).getD rest)
        return (parameters, rest)
      | _ => none
    else none
  | _, _ => none

/-- Goes on behind a parameter: with a comma and more of them, or with the colon. -/
def readParametersAfter (fuel : Nat) (reading : ParameterReading) (tokens : List Token) :
    Option (List (FunctionParameter × Option Expression) × List Token) :=
  match fuel with
  | 0 => none
  | fuel + 1 =>
    match after? "," tokens with
    | some rest => readParameters fuel reading rest
    | none => if startsWith ":" tokens then readParameters fuel reading tokens else none

/-- Reads an expression whose operators have at least a strength. -/
def readOperation (fuel strength : Nat) (tokens : List Token) :
    Option (Expression × List Token) :=
  match fuel with
  | 0 => none
  | fuel + 1 => do
    let (left, rest) ← readOperand fuel strength tokens
    continueOperation fuel strength left rest

/-- Goes on with operators of at least a strength after what has been read. -/
def continueOperation (fuel strength : Nat) (left : Expression) (tokens : List Token) :
    Option (Expression × List Token) :=
  match fuel with
  | 0 => none
  | fuel + 1 =>
    match Token.operator? tokens with
    | none => some (left, tokens)
    | some (operator, rest) =>
      if operator.strength < strength then some (left, tokens)
      else if operator.isComparison then do
        let (links, rest) ← readLinks fuel tokens
        continueOperation fuel strength (.comparison left links) rest
      else do
        let needed := if operator = .power then Sign.minus.strength else operator.strength + 1
        let (right, rest) ← readOperation fuel needed rest
        continueOperation fuel strength (.operation operator left right) rest

/-- Reads the links of a comparison. -/
def readLinks (fuel : Nat) (tokens : List Token) :
    Option (List (Operator × Expression) × List Token) :=
  match fuel with
  | 0 => none
  | fuel + 1 =>
    match Token.operator? tokens with
    | none => some ([], tokens)
    | some (operator, rest) =>
      if operator.isComparison then do
        let (e, rest) ← readOperation fuel operandStrength rest
        let (links, rest) ← readLinks fuel rest
        return ((operator, e) :: links, rest)
      else some ([], tokens)

/-- Reads an operand for operators of at least a strength: signs, then an atom, then parts, brackets
and calls. A negation is no operand of a stronger operator. -/
def readOperand (fuel strength : Nat) (tokens : List Token) : Option (Expression × List Token) :=
  match fuel, tokens with
  | 0, _ => none
  | _ + 1, [] => none
  | fuel + 1, token :: rest =>
    match token.sign? with
    | some sign =>
      if sign = .not && sign.strength < strength then none
      else do
        let (e, rest) ← readOperation fuel sign.strength rest
        return (.signed sign e, rest)
    | none => do
      let (e, rest) ← readAtom fuel (token :: rest)
      continueOperand fuel e rest

/-- Reads a name, a constant, a template, or what stands between brackets. -/
def readAtom (fuel : Nat) (tokens : List Token) : Option (Expression × List Token) :=
  match fuel, tokens with
  | 0, _ => none
  | _ + 1, [] => none
  | fuel + 1, token :: rest =>
    match token with
    | .name n => some (.name n, rest)
    | .word w => (ofWord? w).map fun c => (.constant c, rest)
    | .constant (.text _) | .constant (.bytes _) | .template _ _ => do
      let strings := (token :: rest).takeWhile Token.isString
      let e ← readStrings fuel strings
      return (e, (token :: rest).drop strings.length)
    | .constant c => some (.constant c, rest)
    | .mark m =>
      if m = ("..." : Text) then some (.constant .ellipsis, rest)
      else if m = ("(" : Text) then readGroup fuel rest
      else if m = ("[" : Text) then readListing fuel rest
      else if m = ("\x7b" : Text) then readBraces fuel rest
      else none

/-- Reads strings that follow one another as one. -/
def readStrings (fuel : Nat) (strings : List Token) : Option Expression :=
  match fuel, strings with
  | 0, _ => none
  | _ + 1, [] => none
  | _ + 1, [.constant c] => some (.constant c)
  | fuel + 1, .constant (.bytes content) :: rest => do
    match ← readStrings fuel rest with
    | .constant (.bytes more) => some (.constant (.bytes (content ++ more)))
    | _ => none
  | fuel + 1, .constant (.text t) :: rest => do
    match ← readStrings fuel rest with
    | .constant (.text more) => some (.constant (.text (t ++ more)))
    | .template (.constant (.text more) :: parts) =>
      some (.template (.constant (.text (t ++ more)) :: parts))
    | .template parts => some (.template (.constant (.text t) :: parts))
    | _ => none
  | fuel + 1, .template q body :: rest => do
    let parts ← readParts fuel q (← Template.allParts? q.isPlain body)
    if rest.isEmpty then some (.template parts)
    else
      match ← readStrings fuel rest with
      | .constant (.text more) => some (.template (parts ++ [.constant (.text more)]))
      | .template more => some (.template (parts ++ more))
      | _ => none
  | _ + 1, _ => none

/-- Reads the parts of a template. -/
def readParts (fuel : Nat) (q : Quotation) (parts : List TemplatePart) :
    Option (List Expression) :=
  match fuel, parts with
  | 0, _ => none
  | _ + 1, [] => some []
  | fuel + 1, .text t :: rest => do
    let meant ← q.meaning? t
    return .constant (.text meant) :: (← readParts fuel q rest)
  | fuel + 1, .field source conversion form :: rest => do
    if isBlankSource source then none
    else
      let tokens ← Token.listOfText? (("(" : Text) ++ source ++ (")" : Text))
      let (value, left) ← readAtom fuel tokens
      let written ← match form with
        | none => some none
        | some parts => (readParts fuel q parts).map fun e => some (.template e)
      if left.isEmpty then return .field value conversion written :: (← readParts fuel q rest)
      else none

/-- Goes on with parts, brackets and calls after what has been read. -/
def continueOperand (fuel : Nat) (head : Expression) (tokens : List Token) :
    Option (Expression × List Token) :=
  match fuel, tokens with
  | 0, _ => none
  | fuel + 1, .mark m :: rest =>
    if m = ("." : Text) then
      match rest with
      | .name n :: rest => continueOperand fuel (.part head n) rest
      | _ => none
    else if m = ("[" : Text) then do
      match ← readRanges fuel rest with
      | (first :: items, comma, rest) =>
        continueOperand fuel (.subscript head (ofBrackets (first :: items) comma)) rest
      | _ => none
    else if m = ("(" : Text) then do
      let (arguments, rest) ← readArguments fuel .none rest
      continueOperand fuel (.call head arguments) rest
    else some (head, .mark m :: rest)
  | _ + 1, rest => some (head, rest)

/-- Reads an expression that may be given a name on the way. -/
def readNamed (fuel : Nat) (tokens : List Token) : Option (Expression × List Token) :=
  match fuel, tokens with
  | 0, _ => none
  | fuel + 1, .name n :: next :: rest =>
    if next.isMark ":=" then do
      let (value, rest) ← readWhole fuel rest
      return (.naming n value, rest)
    else readWhole fuel (.name n :: next :: rest)
  | fuel + 1, tokens => readWhole fuel tokens

/-- Reads an item: an expression, which may be given a name, or a spread. -/
def readItem (fuel : Nat) (tokens : List Token) : Option (Expression × List Token) :=
  match fuel with
  | 0 => none
  | fuel + 1 =>
    match after? "*" tokens with
    | some rest => do
      let (e, rest) ← readOperation fuel operandStrength rest
      return (.spread e, rest)
    | none => readNamed fuel tokens

/-- Reads items behind a comma up to a closing mark, and the tokens after the mark. -/
def readItems (fuel : Nat) (closing : Text) (tokens : List Token) :
    Option (List Expression × List Token) :=
  match fuel with
  | 0 => none
  | fuel + 1 =>
    match after? closing tokens with
    | some rest => some ([], rest)
    | none => do
      let (e, rest) ← readItem fuel tokens
      match after? closing rest with
      | some rest => some ([e], rest)
      | none =>
        let (items, rest) ← readItems fuel closing (← after? "," rest)
        return (e :: items, rest)

/-- Reads what stands in parentheses: a tuple, a stream, or one expression. A spread alone is no
expression. -/
def readGroup (fuel : Nat) (tokens : List Token) : Option (Expression × List Token) :=
  match fuel with
  | 0 => none
  | fuel + 1 =>
    match after? ")" tokens, afterWord? "yield" tokens with
    | some rest, _ => some (.tuple [], rest)
    | none, some rest => do
      let (e, rest) ← readHanding fuel rest
      return (e, ← after? ")" rest)
    | none, none => do
      let (first, rest) ← readItem fuel tokens
      match after? ")" rest, after? "," rest with
      | some rest, _ => if first.isSpread then none else some (first, rest)
      | none, some rest =>
        let (items, rest) ← readItems fuel ")" rest
        return (.tuple (first :: items), rest)
      | none, none =>
        let (clauses, rest) ← readClauses fuel rest
        if first.isSpread then none
        else return (.comprehension .stream first none clauses, ← after? ")" rest)

/-- Reads what a function hands out. -/
def readHanding (fuel : Nat) (tokens : List Token) : Option (Expression × List Token) :=
  match fuel with
  | 0 => none
  | fuel + 1 =>
    match after? ")" tokens, afterWord? "from" tokens with
    | some _, _ => some (.handing false none, tokens)
    | none, some rest => do
      let (e, rest) ← readWhole fuel rest
      return (.handing true (some e), rest)
    | none, none => do
      let (first, rest) ← readItem fuel tokens
      match after? "," rest with
      | none => if first.isSpread then none else some (.handing false (some first), rest)
      | some rest =>
        let (items, rest) ← readItems fuel ")" rest
        return (.handing false (some (.tuple (first :: items))), .mark ")" :: rest)

/-- Reads what stands in brackets: a list, of items or of a comprehension. -/
def readListing (fuel : Nat) (tokens : List Token) : Option (Expression × List Token) :=
  match fuel with
  | 0 => none
  | fuel + 1 =>
    match after? "]" tokens with
    | some rest => some (.list [], rest)
    | none => do
      let (first, rest) ← readItem fuel tokens
      match after? "]" rest, after? "," rest with
      | some rest, _ => some (.list [first], rest)
      | none, some rest =>
        let (items, rest) ← readItems fuel "]" rest
        return (.list (first :: items), rest)
      | none, none =>
        let (clauses, rest) ← readClauses fuel rest
        if first.isSpread then none
        else return (.comprehension .list first none clauses, ← after? "]" rest)

/-- Reads what stands in braces: a dictionary if it is empty or its first item has a colon behind
it, and a set otherwise. -/
def readBraces (fuel : Nat) (tokens : List Token) : Option (Expression × List Token) :=
  match fuel with
  | 0 => none
  | fuel + 1 =>
    if startsWith "\x7d" tokens || startsWith "**" tokens then do
      let (entries, rest) ← readEntries fuel tokens
      return (.dictionary entries, rest)
    else do
      let (first, rest) ← readItem fuel tokens
      match after? ":" rest, after? "\x7d" rest, after? "," rest with
      | some rest, _, _ =>
        if first.isSpread || startNaming tokens then none
        else
          let (value, rest) ← readWhole fuel rest
          match after? "\x7d" rest, after? "," rest with
          | some rest, _ => some (.dictionary [(some first, value)], rest)
          | none, some rest =>
            let (entries, rest) ← readEntries fuel rest
            return (.dictionary ((some first, value) :: entries), rest)
          | none, none =>
            let (clauses, rest) ← readClauses fuel rest
            return (.comprehension .dictionary first (some value) clauses, ← after? "\x7d" rest)
      | none, some rest, _ => some (.set [first], rest)
      | none, none, some rest =>
        let (items, rest) ← readItems fuel "\x7d" rest
        return (.set (first :: items), rest)
      | none, none, none =>
        let (clauses, rest) ← readClauses fuel rest
        if first.isSpread then none
        else return (.comprehension .set first none clauses, ← after? "\x7d" rest)

/-- Reads the entries of a dictionary up to the closing brace. -/
def readEntries (fuel : Nat) (tokens : List Token) :
    Option (List (Option Expression × Expression) × List Token) :=
  match fuel with
  | 0 => none
  | fuel + 1 =>
    match after? "\x7d" tokens with
    | some rest => some ([], rest)
    | none => do
      let (entry, rest) ← readEntry fuel tokens
      match after? "\x7d" rest with
      | some rest => some ([entry], rest)
      | none =>
        let (entries, rest) ← readEntries fuel (← after? "," rest)
        return (entry :: entries, rest)

/-- Reads an entry of a dictionary: a key and a value, or a value whose entries are taken over. -/
def readEntry (fuel : Nat) (tokens : List Token) :
    Option ((Option Expression × Expression) × List Token) :=
  match fuel with
  | 0 => none
  | fuel + 1 =>
    match after? "**" tokens with
    | some rest => do
      let (e, rest) ← readOperation fuel operandStrength rest
      return ((none, e), rest)
    | none => do
      let (key, rest) ← readWhole fuel tokens
      let (value, rest) ← readWhole fuel (← after? ":" rest)
      return ((some key, value), rest)

/-- Reads the clauses of a comprehension, of which there is at least one. -/
def readClauses (fuel : Nat) (tokens : List Token) :
    Option (List (Bool × Expression × Expression × List Expression) × List Token) :=
  match fuel with
  | 0 => none
  | fuel + 1 => do
    let waits := (afterWord? "async" tokens).isSome
    let rest ← afterWord? "for" ((afterWord? "async" tokens).getD tokens)
    let (targets, comma, rest) ← readTargets fuel rest
    let (items, rest) ← readOperation fuel choiceStrength rest
    let (conditions, rest) ← readConditions fuel rest
    let clause := (waits, ofItems targets comma, items, conditions)
    if startsWithWord "for" "async" rest then
      let (clauses, rest) ← readClauses fuel rest
      return (clause :: clauses, rest)
    else return ([clause], rest)

/-- Reads what the items of a clause are called, up to the word behind it: the targets, and whether
a comma stands behind the last one. -/
def readTargets (fuel : Nat) (tokens : List Token) :
    Option (List Expression × Bool × List Token) :=
  match fuel with
  | 0 => none
  | fuel + 1 => do
    let starred := startsWith "*" tokens
    let (e, rest) ← readAtom fuel ((after? "*" tokens).getD tokens)
    let (e, rest) ← continueOperand fuel e rest
    let target := if starred then .spread e else e
    match afterWord? "in" rest with
    | some rest => some ([target], false, rest)
    | none =>
      let rest ← after? "," rest
      match afterWord? "in" rest with
      | some rest => some ([target], true, rest)
      | none =>
        let (targets, _, rest) ← readTargets fuel rest
        return (target :: targets, true, rest)

/-- Reads the conditions of a clause. -/
def readConditions (fuel : Nat) (tokens : List Token) : Option (List Expression × List Token) :=
  match fuel with
  | 0 => none
  | fuel + 1 =>
    match afterWord? "if" tokens with
    | none => some ([], tokens)
    | some rest => do
      let (e, rest) ← readOperation fuel choiceStrength rest
      let (conditions, rest) ← readConditions fuel rest
      return (e :: conditions, rest)

/-- Reads the arguments of a call up to the closing parenthesis, after arguments up to a stage. A
stream needs no parentheses of its own if it is the only argument. -/
def readArguments (fuel : Nat) (stage : ArgumentStage) (tokens : List Token) :
    Option (List (ArgumentWay × Expression) × List Token) :=
  match fuel with
  | 0 => none
  | fuel + 1 =>
    match after? ")" tokens with
    | some rest => some ([], rest)
    | none => do
      let ((way, e), rest) ← readArgument fuel tokens
      let later ← stage.after? way e.isSpread
      match after? ")" rest, after? "," rest with
      | some rest, _ => some ([(way, e)], rest)
      | none, some rest =>
        let (arguments, rest) ← readArguments fuel later rest
        return ((way, e) :: arguments, rest)
      | none, none =>
        let (clauses, rest) ← readClauses fuel rest
        if stage = .none && way = .byPlace && !e.isSpread then
          return ([(.byPlace, .comprehension .stream e none clauses)], ← after? ")" rest)
        else none

/-- Reads an argument of a call. -/
def readArgument (fuel : Nat) (tokens : List Token) :
    Option ((ArgumentWay × Expression) × List Token) :=
  match fuel, tokens with
  | 0, _ => none
  | fuel + 1, .name n :: next :: rest =>
    if next.isMark "=" then do
      let (e, rest) ← readWhole fuel rest
      return ((.byName n, e), rest)
    else do
      let (e, rest) ← readNamed fuel (.name n :: next :: rest)
      return ((.byPlace, e), rest)
  | fuel + 1, tokens =>
    match after? "*" tokens, after? "**" tokens with
    | some rest, _ => do
      let (e, rest) ← readWhole fuel rest
      return ((.byPlace, .spread e), rest)
    | none, some rest => do
      let (e, rest) ← readWhole fuel rest
      return ((.entries, e), rest)
    | none, none => do
      let (e, rest) ← readNamed fuel tokens
      return ((.byPlace, e), rest)

/-- Reads a bound of a range, if there is one. -/
def readBound (fuel : Nat) (tokens : List Token) : Option (Option Expression × List Token) :=
  match fuel with
  | 0 => none
  | fuel + 1 =>
    if startsWith ":" tokens || startsWith "," tokens || startsWith "]" tokens then
      some (none, tokens)
    else do
      let (e, rest) ← readWhole fuel tokens
      return (some e, rest)

/-- Reads what stands in brackets behind a value: an item, a spread, or a range. -/
def readRange (fuel : Nat) (tokens : List Token) : Option (Expression × List Token) :=
  match fuel with
  | 0 => none
  | fuel + 1 =>
    match after? "*" tokens with
    | some rest => do
      let (e, rest) ← readWhole fuel rest
      return (.spread e, rest)
    | none =>
      if startNaming tokens then readNamed fuel tokens
      else do
        let (start, rest) ← readBound fuel tokens
        match after? ":" rest with
        | none => return (← start, rest)
        | some rest =>
          let (stop, rest) ← readBound fuel rest
          match after? ":" rest with
          | none => return (.slice start stop none, rest)
          | some rest =>
            let (step, rest) ← readBound fuel rest
            return (.slice start stop step, rest)

/-- Reads the items in the brackets behind a value up to the closing bracket, and whether a comma
stands behind the last one. -/
def readRanges (fuel : Nat) (tokens : List Token) :
    Option (List Expression × Bool × List Token) :=
  match fuel with
  | 0 => none
  | fuel + 1 => do
    let (e, rest) ← readRange fuel tokens
    match after? "]" rest with
    | some rest => some ([e], false, rest)
    | none =>
      let rest ← after? "," rest
      match after? "]" rest with
      | some rest => some ([e], true, rest)
      | none =>
        let (items, comma, rest) ← readRanges fuel rest
        return (e :: items, items.isEmpty || comma, rest)

end

/-- Reads expressions with commas between them up to the end. -/
def readAll (fuel : Nat) (tokens : List Token) : Option (List Expression × Bool) :=
  match fuel with
  | 0 => none
  | fuel + 1 => do
    let (e, rest) ← readWhole fuel tokens
    if rest.isEmpty then return ([e], false)
    else
      let rest ← after? "," rest
      if rest.isEmpty then return ([e], true)
      else return (e :: (← readAll fuel rest).1, true)

/-- How many steps reading some tokens takes at most. -/
def readingSteps (tokens : List Token) : Nat :=
  let inTemplates := tokens.map fun token =>
    match token with
    | .template _ body => body.length
    | _ => 0
  32 * (tokens.length + inTemplates.foldl Nat.add 0 + 2)

/-- The expression of tokens: one expression, or several with commas between them. -/
def ofTokens? (tokens : List Token) : Option Expression :=
  match readAll (readingSteps tokens) tokens with
  | some (items, comma) =>
    let e := ofItems items comma
    if e.isLawful then some e else none
  | none => none

/-- The text as it is read: one that starts with a star asks for the first item of a spread. -/
def firstOfSpread (source : Text) : Text :=
  if source.head? = some (CodePoint.ofChar '*') then ("(" : Text) ++ source ++ (",)[0]" : Text)
  else source

/-- The expression that a text writes. -/
def read (source : Text) : Except SourceFault Expression :=
  if source = [] then .error .empty
  else
    match Encoding.utf8.fault? source with
    | some fault => .error (.unencodable fault)
    | none =>
      match (Token.listOfText? (firstOfSpread source)).bind ofTokens? with
      | some e => .ok e
      | none => .error (.malformed source)

/-- The expression that stands in a module in place of a name. -/
def readName (source : Text) : Expression :=
  match read source with
  | .ok e => e
  | .error _ => .name (Text.composed source)

/-- The expression that stands within a class in place of a name, where names may be the class's
own. -/
def readNameIn (className source : Text) : Expression :=
  let tokens := (Token.listOfText? source).map fun tokens =>
    tokens.map (Token.mapName (privateName className))
  match tokens.bind ofTokens? with
  | some e => e
  | none => .name (privateName className (Text.composed source))

end Expression

end QueryScaffold
