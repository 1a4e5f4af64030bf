import QueryScaffold.Evaluation.Method.Argument
import QueryScaffold.Evaluation.Part
import QueryScaffold.Text.Casing
import QueryScaffold.Text.Search
import QueryScaffold.Text.Utf8

/-!
# The functions of texts

* `Eval.textMethod`: what a function of a text gives;
* `Eval.fillFields`: a text with values in the places of its braces.
-/

namespace QueryScaffold

namespace Eval

/-! ## Braces -/

/-- What is written behind the name in braces: parts and keys of a value, one after the other. -/
def stepsOf : Nat → Text → List (Bool × Text)
  | 0, _ => []
  | fuel + 1, t =>
    match Layout.afterMark? '.' t, Layout.afterMark? '[' t with
    | some rest, _ =>
      let name := rest.takeWhile fun c => c ≠ CodePoint.ofChar '.' && c ≠ CodePoint.ofChar '['
      (true, name) :: stepsOf fuel (rest.drop name.length)
    | none, some rest =>
      let key := rest.takeWhile (· ≠ CodePoint.ofChar ']')
      (false, key) :: stepsOf fuel (rest.drop (key.length + 1))
    | none, none => []

/-- The number that a text of digits writes. -/
def digitsValue? (t : Text) : Option Nat :=
  match Layout.numberOf t with
  | (some n, []) => some n
  | _ => none

/-- The value at the end of steps from a value. -/
def follow (value : Value) : List (Bool × Text) → Eval Value
  | [] => pure value
  | (true, name) :: rest => do follow (← part value name) rest
  | (false, key) :: rest => do
    let key : Value := match digitsValue? key with
      | some n => .integer n
      | none => .text key
    follow (← ofExcept ((← get).subscript value key)) rest

/-- What stands in braces, up to the closing one, where braces are in pairs. -/
def bracesOf (depth : Nat) : Text → Option (Text × Text)
  | [] => none
  | c :: rest =>
    if c = CodePoint.ofChar '\x7d' then
      match depth with
      | 0 => some ([], rest)
      | depth + 1 => (bracesOf depth rest).map fun (inner, after) => (c :: inner, after)
    else
      (bracesOf (if c = CodePoint.ofChar '\x7b' then depth + 1 else depth) rest).map
        fun (inner, after) => (c :: inner, after)

/-- The arguments that fields of a text take: how many were taken by their order alone, or that their
numbers are written. -/
structure FieldSupply where
  arguments : CallArguments
  next : Nat := 0
  numbered : Bool := false

/-- The value that the name in braces stands for. -/
def fieldValue (supply : FieldSupply) (name : Text) : Eval (Value × FieldSupply) := do
  let at? (n : Nat) : Eval Value :=
    match supply.arguments.places[n]? with
    | some value => pure value
    | none =>
      refuse "IndexError" (("Replacement index " : Text) ++ Text.ofNat n ++
        (" out of range for positional args tuple" : Text))
  match name, digitsValue? name with
  | [], _ =>
    if supply.numbered then
      refuseValue
        "cannot switch from manual field specification to automatic field numbering"
    else return (← at? supply.next, { supply with next := supply.next + 1 })
  | _, some n =>
    if supply.next ≠ 0 then
      refuseValue
        "cannot switch from automatic field numbering to manual field specification"
    else return (← at? n, { supply with numbered := true })
  | name, none =>
    match NameTable.find? name supply.arguments.named with
    | some value => return (value, supply)
    | none => throw (.noKey name.quote)

/-- The text with a value in place of each field, down to a depth of braces within braces. -/
def fillFieldsFrom : Nat → Nat → Text → FieldSupply → Eval (Text × FieldSupply)
  | 0, _, t, supply => pure (t, supply)
  | _, _, [], supply => pure ([], supply)
  | fuel + 1, depth, c :: rest, supply => do
    let opening := CodePoint.ofChar '\x7b'
    let closing := CodePoint.ofChar '\x7d'
    if c = closing then
      match Layout.afterMark? '\x7d' rest with
      | some rest =>
        let (later, supply) ← fillFieldsFrom fuel depth rest supply
        return (closing :: later, supply)
      | none => refuseValue "Single '\x7d' encountered in format string"
    else if c ≠ opening then
      let (later, supply) ← fillFieldsFrom fuel depth rest supply
      return (c :: later, supply)
    else
      match Layout.afterMark? '\x7b' rest, bracesOf 0 rest with
      | some rest, _ =>
        let (later, supply) ← fillFieldsFrom fuel depth rest supply
        return (opening :: later, supply)
      | none, none =>
        refuseValue (if rest = [] then "Single '\x7b' encountered in format string"
          else "expected '\x7d' before end of string")
      | none, some (field, rest) =>
        if depth = 0 then refuseValue "Max string recursion exceeded"
        else
          let head := field.takeWhile fun c =>
            c ≠ CodePoint.ofChar '!' && c ≠ CodePoint.ofChar ':'
          let name := head.takeWhile fun c =>
            c ≠ CodePoint.ofChar '.' && c ≠ CodePoint.ofChar '['
          let (value, supply) ← fieldValue supply name
          let value ← follow value (stepsOf field.length (head.drop name.length))
          let behind := field.drop head.length
          let (value, behind) ← match Layout.afterMark? '!' behind with
            | some (letter :: after) =>
              let shown ←
                if letter = CodePoint.ofChar 'r' then display value
                else if letter = CodePoint.ofChar 's' then plainText value
                else if letter = CodePoint.ofChar 'a' then ascii value
                else
                  refuseValue (("Unknown conversion specifier " : Text) ++ [letter])
              pure (Value.text shown, after)
            | some [] => refuseValue "end of string while looking for conversion specifier"
            | none => pure (value, behind)
          let source := (Layout.afterMark? ':' behind).getD []
          let (source, supply) ← fillFieldsFrom fuel (depth - 1) source supply
          let shown ← format value source
          let (later, supply) ← fillFieldsFrom fuel depth rest supply
          return (shown ++ later, supply)

/-- A text with values in the places of its braces. -/
def fillFields (t : Text) (arguments : CallArguments) : Eval Text := do
  return (← fillFieldsFrom (t.length + 1) 2 t { arguments }).1

/-! ## Encodings -/

/-- The encoding of a name. -/
def encodingOf (name : Text) : Eval Encoding :=
  match Encoding.ofName? name with
  | some encoding => pure encoding
  | none => refuse "LookupError" (("unknown encoding: " : Text) ++ name)

/-- The handling of faults of a name, which is only looked for where there is a fault. -/
def handlingOf (name : Text) : Eval FaultHandling :=
  match FaultHandling.ofName? name with
  | some handling => pure handling
  | none =>
    refuse "LookupError" (("unknown error handler name '" : Text) ++ name ++ ("'" : Text))

/-- The bytes of a text in an encoding. -/
def encode (encoding handling t : Text) : Eval (List UInt8) := do
  let encoding ← encodingOf encoding
  match encoding.encode t with
  | .ok bytes => return bytes
  | .error _ =>
    match encoding.encodeAll (← handlingOf handling) t with
    | .ok bytes => return bytes
    | .error fault => refuse "UnicodeEncodeError" fault.message

/-- The text of bytes in an encoding. -/
def decode (encoding handling : Text) (bytes : List UInt8) : Eval Text := do
  let encoding ← encodingOf encoding
  match encoding.decodingNotice? bytes with
  | none => return encoding.decodeAll .refuse 0 bytes
  | some notice =>
    match ← handlingOf handling with
    | .refuse => refuse "UnicodeDecodeError" notice
    | .reference =>
      refuseType "don't know how to handle UnicodeDecodeError in error callback"
    | handling => return encoding.decodeAll handling 0 bytes

/-- The encoding of texts where none is named. -/
def usualEncoding : Text := "utf-8"

/-- The handling of faults where none is named. -/
def usualHandling : Text := "strict"

/-- The names of an encoding and of a handling of faults that arguments of a function give. -/
def encodingNames (function : Text) (arguments : List (Option Value)) : Eval (Text × Text) := do
  let named (parameter : Text) (value : Option Value) (usual : Text) : Eval Text :=
    match value with
    | none => pure usual
    | some value =>
      argumentText (function ++ ("() argument '" : Text) ++ parameter ++ ("'" : Text)) value
  return (← named "encoding" (first? arguments) usualEncoding,
    ← named "errors" (second? arguments) usualHandling)

/-! ## Functions -/

/-- The part of a text between two bounds that arguments give, and the place of its start; without
room between them there is none. -/
def searchedIn (t : Text) (arguments : List (Option Value)) : Eval (Option (Text × Nat)) := do
  let start ← boundOf t.length 0 (second? arguments)
  let stop ← boundOf t.length t.length (third? arguments)
  return if start ≤ stop then some ((t.take stop).drop start, start) else none

/-- A text starts or ends with one of the texts of an argument. -/
def hasEnd (name t : Text) (arguments : List (Option Value)) : Eval Bool := do
  let ends (part whole : Text) : Bool :=
    if name = ("startswith" : Text) then part.isPrefixOf whole else part.isSuffixOf whole
  let whole := ((← searchedIn t arguments).map Prod.fst)
  match (first? arguments).getD .null with
  | .tuple items =>
    let parts ← items.mapM (textOf (("tuple for " : Text) ++ name ++
      (" must only contain str, not " : Text)))
    return whole.any fun whole => parts.any fun part => ends part whole
  | value =>
    let part ← textOf (name ++ (" first arg must be str or a tuple of str, not " : Text)) value
    return whole.any fun whole => ends part whole

/-- Where an argument stands in a text, and how often. -/
def search (name t : Text) (arguments : List (Option Value)) : Eval Value := do
  let part ← textOf "must be str, not " ((first? arguments).getD .null)
  let found ← searchedIn t arguments
  if name = ("count" : Text) then
    return .integer ((found.map fun (whole, _) => Search.count part whole).getD 0)
  else
    let isLast := name = ("rfind" : Text) || name = ("rindex" : Text)
    let place := found.bind fun (whole, start) =>
      (if isLast then Search.lastPlace? part whole else Search.place? part whole).map (start + ·)
    match place with
    | some n => return .integer n
    | none =>
      if name = ("find" : Text) || name = ("rfind" : Text) then return .integer (-1)
      else refuseValue "substring not found"

/-- A text brought into a width. -/
def pad (name t : Text) (arguments : List (Option Value)) : Eval Value := do
  let width ← countOf ((first? arguments).getD .null)
  let fill ← match second? arguments with
    | none => pure (CodePoint.ofChar ' ')
    | some (.constant (.text [c])) => pure c
    | some (.constant (.text _)) =>
      refuseType "The fill character must be exactly one character long"
    | some value =>
      refuseType (("The fill character must be a unicode character, not " : Text) ++
        (← kindName value))
  let missing := width.toNat - t.length
  let before :=
    if name = ("ljust" : Text) then 0
    else if name = ("rjust" : Text) then missing
    else missing / 2 + (missing % 2) * (width.toNat % 2)
  return .text (List.replicate before fill ++ t ++ List.replicate (missing - before) fill)

/-- The most cuts that an argument allows in a text. -/
def cutsOf (t : Text) (limit : Option Value) : Eval Nat := do
  let n ← countOr (-1) limit
  return if n < 0 then t.length + 1 else n.toNat

/-- The parts of a text between the occurrences of an argument, or between blanks. -/
def splitText (name t : Text) (arguments : List (Option Value)) : Eval Value := do
  let limit ← cutsOf t (second? arguments)
  let isLast := name = ("rsplit" : Text)
  let parts ← match (first? arguments).getD .null with
    | .constant .null =>
      pure (if isLast then t.lastWords CodePoint.isSpacing limit
        else t.words CodePoint.isSpacing limit)
    | value =>
      let separator ← textOf "must be str or None, not " value
      if separator = [] then refuseValue "empty separator"
      else
        pure (if isLast then Search.cutLast separator limit t else Search.cut separator limit t)
  return .list (parts.map Value.text)

/-- A text in three parts: before an argument, the argument, and behind it. -/
def partition (isLast : Bool) (t : Text) (separator : Value) : Eval Value := do
  let part ← textOf "must be str, not " separator
  if part = [] then refuseValue "empty separator"
  else
    let texts := match if isLast then Search.lastPlace? part t else Search.place? part t with
      | some place => [t.take place, part, t.drop (place + part.length)]
      | none => if isLast then [[], [], t] else [t, [], []]
    return .tuple (texts.map Value.text)

/-- The items of an argument, which are texts, with a text between neighbours. -/
def joinTexts (run : Interpreter) (t : Text) (items : Value) : Eval Value := do
  if items.items?.isNone && !(items matches .iterator _ _) then
    refuseType "can only join an iterable"
  let values ← run.items items
  let texts ← values.zipIdx.mapM fun (value, place) =>
    match value with
    | .constant (.text part) => pure part
    | value => do
      refuseType (("sequence item " : Text) ++ Text.ofNat place ++
        (": expected str instance, " : Text) ++ (← kindName value) ++ (" found" : Text))
  return .text (Text.joined t texts)

/-- A text without the code points of an argument at its ends. -/
def strip (name t : Text) (set : Option Value) : Eval Value := do
  let isIn : CodePoint → Bool ← match set.getD .null with
    | .constant .null => pure CodePoint.isSpacing
    | .constant (.text marks) => pure fun c => marks.contains c
    | _ => refuseType (name ++ (" arg must be None or str" : Text))
  let left := if name = ("rstrip" : Text) then t else t.dropWhile isIn
  return .text (if name = ("lstrip" : Text) then left else (left.reverse.dropWhile isIn).reverse)

/-- A text with spaces in place of tabulators, from a column on. -/
def withoutTabs (size : Nat) (column : Nat) : Text → Text
  | [] => []
  | c :: rest =>
    if c.value = 9 then
      let count := if size = 0 then 0 else size - column % size
      List.replicate count (CodePoint.ofChar ' ') ++ withoutTabs size (column + count) rest
    else if c.value = 10 || c.value = 13 then c :: withoutTabs size 0 rest
    else c :: withoutTabs size (column + 1) rest

/-- What a text says of all its code points. -/
def classTest? (name t : Text) : Option Bool :=
  let is (other : String) : Bool := name = Text.ofString other
  let all (test : CodePoint → Bool) : Option Bool := some (t ≠ [] && t.all test)
  if is "isalnum" then all fun c => c.isLetter || c.isDecimalDigit
  else if is "isalpha" then all CodePoint.isLetter
  else if is "isascii" then some (t.all fun c => c.value < 128)
  else if is "isdecimal" || is "isdigit" || is "isnumeric" then all CodePoint.isDecimalDigit
  else if is "isidentifier" then
    some (match t with
      | [] => false
      | c :: rest => c.isNameStart && rest.all CodePoint.isNamePart)
  else if is "islower" then some t.isLower
  else if is "isprintable" then some (t.all CodePoint.isPrintable)
  else if is "isspace" then all CodePoint.isSpacing
  else if is "istitle" then some t.isTitled
  else if is "isupper" then some t.isUpper
  else none

/-- The text in another case. -/
def cased? (name t : Text) : Option Text :=
  let is (other : String) : Bool := name = Text.ofString other
  if is "capitalize" then some t.capitalized
  else if is "casefold" || is "lower" then some t.lower
  else if is "swapcase" then some t.swapped
  else if is "title" then some t.titled
  else if is "upper" then some t.upper
  else none

/-- A text with other ones in place of the code points that a dictionary holds. -/
def translate (t : Text) (table : Value) : Eval Value := do
  let parts ← t.mapM fun c => do
    let found ← match table with
      | .dictionary entries => entry? entries (.integer c.value)
      | _ => pure none
    match found with
    | none => return [c]
    | some (.constant .null) => return []
    | some (.constant (.text other)) => return other
    | some value =>
      match value.integer? with
      | some n => return [← codePoint n]
      | none => refuseType "character mapping must return integer, None or str"
  return .text parts.flatten

/-- The table for the translation of code points into others. -/
def translation (arguments : List (Option Value)) : Eval Value := do
  match first? arguments, second? arguments, third? arguments with
  | some (.constant (.text from')), some (.constant (.text to')), omitted =>
    if from'.length ≠ to'.length then
      refuseValue "the first two maketrans arguments must have equal length"
    else
      let entries := (from'.zip to').map fun (a, b) =>
        (Value.integer a.value, Value.integer b.value)
      let gone := ((omitted.bind Value.text?).getD []).map fun c =>
        (Value.integer c.value, Value.null)
      return .dictionary (← putEntries [] (entries ++ gone))
  | some (.dictionary entries), none, none =>
    let made ← entries.mapM fun (key, value) =>
      match key with
      | .constant (.text [c]) => pure (Value.integer c.value, value)
      | .constant (.text _) =>
        refuseValue "string keys in translate table must be of length 1"
      | key => pure (key, value)
    return .dictionary (← putEntries [] made)
  | some _, none, none =>
    refuseType "if you give only one argument to maketrans it must be a dict"
  | _, _, _ => refuseType "first maketrans argument must be a string if there is a second argument"

/-- What a function of a text gives. -/
def textMethod (run : Interpreter) (t name : Text) (given : CallArguments)
    (arguments : List (Option Value)) : Eval Value := do
  let is (other : String) : Bool := name = Text.ofString other
  let first := (first? arguments).getD .null
  match classTest? name t, cased? name t with
  | some found, _ => return .truth found
  | none, some other => return .text other
  | none, none =>
    if is "startswith" || is "endswith" then return .truth (← hasEnd name t arguments)
    else if is "count" || is "find" || is "rfind" || is "index" || is "rindex" then
      search name t arguments
    else if is "center" || is "ljust" || is "rjust" then pad name t arguments
    else if is "encode" then
      let (encoding, handling) ← encodingNames name arguments
      return .constant (.bytes (← encode encoding handling t))
    else if is "split" || is "rsplit" then splitText name t arguments
    else if is "expandtabs" then
      return .text (withoutTabs (← countOr 8 (first? arguments)).toNat 0 t)
    else if is "splitlines" then
      return .list ((t.lines ((← countOr 0 (first? arguments)) ≠ 0)).map Value.text)
    else if is "join" then joinTexts run t first
    else if is "partition" || is "rpartition" then partition (is "rpartition") t first
    else if is "removeprefix" then
      let part ← argumentText "removeprefix() argument" first
      return .text (if part.isPrefixOf t then t.drop part.length else t)
    else if is "removesuffix" then
      let part ← argumentText "removesuffix() argument" first
      return .text (if part.isSuffixOf t then t.take (t.length - part.length) else t)
    else if is "strip" || is "lstrip" || is "rstrip" then strip name t (first? arguments)
    else if is "replace" then
      let part ← argumentText "replace() argument 1" first
      let other ← argumentText "replace() argument 2" ((second? arguments).getD .null)
      let limit ← countOr (-1) (third? arguments)
      let most := if limit < 0 then t.length + 1 else limit.toNat
      return .text (Search.replaced part other most t)
    else if is "zfill" then
      let width := (← countOf first).toNat
      let sign := if t.startsWithSign then t.take 1 else []
      return .text (sign ++ Text.zeroFilled (width - sign.length) (t.drop sign.length))
    else if is "translate" then translate t first
    else if is "maketrans" then translation arguments
    else if is "format" then return .text (← fillFields t given)
    else if is "format_map" then
      let entries := match first with
        | .dictionary entries => entries.filterMap fun (key, value) =>
          key.text?.map fun name => (name, value)
        | _ => []
      return .text (← fillFields t { named := entries })
    else return .null

/-! ## Bytes -/

/-- The value with bytes in place of texts, up to a depth of lists. -/
def withBytes (value : Value) : Value :=
  match value with
  | .constant (.text t) => levelBytes t
  | .list items => .list (items.map fun item => levelBytes item.letters)
  | .tuple items => .tuple (items.map fun item => levelBytes item.letters)
  | value => value

/-- An argument of a function of bytes as one of a function of texts. -/
def asText (value : Value) : Eval Value := do
  let item (value : Value) : Eval Value := do
    match value, value.bytes? with
    | _, some content => return .text (levelText content)
    | .constant (.text _), none => refuseType "a bytes-like object is required, not 'str'"
    | value, none => return value
  match value with
  | .tuple items => return .tuple (← items.mapM item)
  | .list items => return .list (← items.mapM item)
  | value => item value

/-- A space of ASCII. -/
def isLevelSpacing (c : CodePoint) : Bool :=
  c.value = 32 || (9 ≤ c.value && c.value ≤ 13)

/-- The bytes whose hexadecimal digits a text writes in pairs, with spaces between the pairs, or the
place where it does not; `place` is the number of code points before the text. -/
def pairedBytes (place : Nat) : Text → Except Nat (List UInt8)
  | [] => .ok []
  | [c] =>
    if isLevelSpacing c then .ok []
    else .error (place + (if (Text.digitIn? 16 c).isSome then 1 else 0))
  | c :: d :: rest =>
    if isLevelSpacing c then pairedBytes (place + 1) (d :: rest)
    else
      match Text.digitIn? 16 c, Text.digitIn? 16 d with
      | some high, some low =>
        (pairedBytes (place + 2) rest).map (UInt8.ofNat (16 * high + low) :: ·)
      | some _, none => .error (place + 1)
      | none, _ => .error place

/-- The bytes that an argument writes in hexadecimal digits. -/
def bytesOfDigits (arguments : List (Option Value)) : Eval (List UInt8) := do
  let t ← argumentText "fromhex() argument" ((first? arguments).getD .null)
  let read : Except Nat (List UInt8) := match t.findIdx? fun c => 128 ≤ c.value with
    | some place => .error place
    | none => pairedBytes 0 t
  match read with
  | .ok bytes => return bytes
  | .error place =>
    refuseValue (("non-hexadecimal number found in fromhex() arg at position " : Text) ++
      Text.ofNat place)

/-- What a function of bytes that can be changed makes of bytes. -/
def asBuffer (value : Value) : Value :=
  match value with
  | .constant (.bytes content) => .buffer false content
  | .list items => .list (items.map fun item => .buffer false (item.bytes?.getD []))
  | .tuple items => .tuple (items.map fun item => .buffer false (item.bytes?.getD []))
  | value => value

/-- What a function of a view of bytes gives. -/
def viewMethod (content : List UInt8) (name : Text) : Value :=
  if name = ("tobytes" : Text) then .constant (.bytes content)
  else if name = ("tolist" : Text) then
    .list (content.map fun byte => .integer byte.toNat)
  else if name = ("hex" : Text) then
    .text (content.flatMap fun byte => hexadecimal 2 byte.toNat)
  else .null

/-- What a function of bytes gives. -/
def bytesMethod (run : Interpreter) (content : List UInt8) (name : Text)
    (arguments : List (Option Value)) : Eval Value := do
  if name = ("decode" : Text) then
    let (encoding, handling) ← encodingNames name arguments
    return .text (← decode encoding handling content)
  else if name = ("hex" : Text) then
    return .text (content.flatMap fun byte => hexadecimal 2 byte.toNat)
  else
    let arguments ← arguments.mapM fun argument =>
      match argument with
      | some value => do return some (← asText value)
      | none => pure none
    return withBytes (← textMethod run (levelText content) name {} arguments)

end Eval

end QueryScaffold
