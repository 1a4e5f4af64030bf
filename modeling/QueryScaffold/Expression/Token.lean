import QueryScaffold.Expression.Numeral
import QueryScaffold.Expression.Quotation
import QueryScaffold.Text.Composition
import QueryScaffold.Text.NameCharacter

/-!
# The tokens of expressions

* `Token`: a word, a name, a literal or a mark;
* `Token.listOfText?`: the tokens of a text, unless it is no line of tokens.

A line break ends the text, except within brackets, behind a backslash and before the first token. A
comment reaches to the end of its line. The first token stands at the start of its line. Every line
ending counts as a line feed. Names are composed; a word that is kept for the language is only known
as it is written.
-/

namespace QueryScaffold

/-- A part of a written expression. -/
inductive Token
  /-- A word that is no name. -/
  | word (w : Text)
  | name (n : Text)
  | constant (c : Constant)
  /-- A template, by what stands between its quotes. -/
  | template (quotation : Quotation) (body : Text)
  | mark (m : Text)

namespace Token

/-- The token with its name changed, if it is one. -/
def mapName (change : Text → Text) : Token → Token
  | .name n => .name (change n)
  | token => token

/-- The words that are no names. -/
def reservedWords : List Text :=
  List.map Text.ofString ["False", "None", "True", "and", "as", "assert", "async", "await", "break",
    "class", "continue", "def", "del", "elif", "else", "except", "finally", "for", "from", "global",
    "if", "import", "in", "is", "lambda", "nonlocal", "not", "or", "pass", "raise", "return", "try",
    "while", "with", "yield"]

/-- The marks that can stand in an expression, longer ones first. -/
def marks : List Text :=
  List.map Text.ofString ["...", "**", "//", "<<", ">>", "<=", ">=", "==", "!=", ":=", "(", ")", "[",
    "]", "\x7b", "\x7d", ",", ":", ".", "|", "^", "&", "+", "-", "*", "/", "%", "@", "<", ">", "~",
    "="]

/-- The mark that a text starts with. -/
def mark? (t : Text) : Option Text :=
  marks.find? fun m => m.isPrefixOf t

/-- The token of a word. -/
def ofWord (w : Text) : Token :=
  if reservedWords.contains w then .word w else .name (Text.composed w)

/-- The token of a string that is written so. -/
def ofString? (q : Quotation) (body : Text) : Option Token :=
  if q.isTemplate then some (.template q body)
  else
    (q.meaning? body).map fun meant =>
      if q.isBytes then .constant (.bytes (meant.map fun c => UInt8.ofNat c.value))
      else .constant (.text meant)

/-- The token that a text starts with, and the text after it. -/
def first? (t : Text) : Option (Token × Text) :=
  match Quotation.opening? t with
  | some (q, rest) =>
    match q.body? false rest with
    | some (body, after) => (ofString? q body).map fun token => (token, after)
    | none => none
  | none =>
    if (t.head?.map CodePoint.isNameStart).getD false then
      some (ofWord (t.takeWhile CodePoint.isNamePart), t.dropWhile CodePoint.isNamePart)
    else
      match Numeral.read? t, mark? t with
      | some (number, after), _ => some (.constant number, after)
      | none, some m => some (.mark m, t.drop m.length)
      | none, none => none

/-- A blank within a line. -/
def isGap (c : CodePoint) : Bool :=
  c = CodePoint.ofChar ' ' || c = CodePoint.ofChar '\t' || c = CodePoint.ofChar '\x0c'

/-- The end of a line. -/
def isBreak (c : CodePoint) : Bool :=
  c = CodePoint.ofChar '\n'

/-- The text with a line feed for every line ending. -/
def unifyBreaks : Text → Text
  | [] => []
  | [c] => if c = CodePoint.ofChar '\r' then [CodePoint.ofChar '\n'] else [c]
  | c :: next :: rest =>
    if c = CodePoint.ofChar '\r' then
      if next = CodePoint.ofChar '\n' then CodePoint.ofChar '\n' :: unifyBreaks rest
      else CodePoint.ofChar '\n' :: unifyBreaks (next :: rest)
    else c :: unifyBreaks (next :: rest)

/-- Where one is in a line in which nothing has been read but blanks. -/
inductive IdleState
  | blank
  /-- Behind a backslash at the end of the line. -/
  | joining
  /-- In a line that continues another one. -/
  | joined
  | comment
deriving DecidableEq, Repr

/-- The state after a line break. -/
def IdleState.afterBreak : IdleState → IdleState
  | .joining => .joined
  | _ => .blank

/-- The text goes on with a line break. -/
def startsWithBreak (t : Text) : Bool :=
  t.head?.any isBreak

/-- The text has nothing but blanks, line breaks and comments, and its last line continues no other
one. -/
def isIdle (state : IdleState) : Text → Bool
  | [] => state ≠ .joined
  | c :: rest =>
    if isBreak c then isIdle state.afterBreak rest
    else if state = .comment then isIdle state rest
    else if isGap c then isIdle state rest
    else if c = CodePoint.ofChar '\\' then startsWithBreak rest && isIdle .joining rest
    else c = CodePoint.ofChar '#' && isIdle .comment rest

/-- The text after a line break that it starts with, behind a backslash: there has to be some. -/
def continuation? : Text → Option Text
  | c :: next :: rest => if isBreak c then some (next :: rest) else none
  | _ => none

/-- How many brackets are open after a token. -/
def depthAfter (depth : Nat) : Token → Nat
  | .mark m =>
    if ["(", "[", "\x7b"].any fun (bracket : String) => m = Text.ofString bracket then depth + 1
    else if [")", "]", "\x7d"].any fun (bracket : String) => m = Text.ofString bracket then
      depth - 1
    else depth
  | _ => depth

/-- The most brackets that can be open at once. -/
def maxDepth : Nat := 200

/-- The tokens of a text within a line, or within brackets that are open. -/
def read? : Nat → Nat → Text → Option (List Token)
  | 0, _, _ => none
  | _ + 1, _, [] => some []
  | fuel + 1, depth, c :: rest =>
    if isBreak c then
      if depth = 0 then if isIdle .blank rest then some [] else none
      else read? fuel depth rest
    else if isGap c then read? fuel depth rest
    else if c = CodePoint.ofChar '#' then
      read? fuel depth (rest.dropWhile fun d => !isBreak d)
    else if c = CodePoint.ofChar '\\' then
      match continuation? rest with
      | some rest => read? fuel depth rest
      | none => none
    else
      match first? (c :: rest) with
      | none => none
      | some (token, after) =>
        let inside := token.depthAfter depth
        if maxDepth < inside then none else (read? fuel inside after).map (token :: ·)

/-- The text without the idle lines that it starts with; `line` is the text from the start of the
line that is being looked at. -/
def dropIdleLines (line : Text) (state : IdleState) : Text → Text
  | [] => if state = .comment then [] else line
  | c :: rest =>
    if isBreak c then
      dropIdleLines (if state = .joining then line else rest) state.afterBreak rest
    else if state = .comment then dropIdleLines line state rest
    else if c = CodePoint.ofChar '\x0c' then dropIdleLines rest .blank rest
    else if isGap c then dropIdleLines line state rest
    else if c = CodePoint.ofChar '#' then dropIdleLines line .comment rest
    else if c = CodePoint.ofChar '\\' && startsWithBreak rest then
      dropIdleLines line .joining rest
    else line

/-- The line has blanks before its first token, in it or in a line that continues it. -/
def startsIndented : Text → Bool
  | [] => false
  | c :: rest =>
    isGap c || ((c = CodePoint.ofChar '\\' || isBreak c) && startsIndented rest)

/-- The tokens of a text. No text with a null character has any. -/
def listOfText? (t : Text) : Option (List Token) :=
  let t := unifyBreaks t
  let line := dropIdleLines t .blank t
  if t.contains (CodePoint.ofChar '\x00') || line.isEmpty || startsIndented line then none
  else read? (line.length + 1) 0 line

end Token

end QueryScaffold
