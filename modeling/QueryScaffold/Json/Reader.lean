import QueryScaffold.Json.Value
import QueryScaffold.Text.Newline
import QueryScaffold.Text.Utf8

/-!
# Reading JSON

* `Json.read`: the value written in a text, or the first fault;
* `Json.ofBytes`: the value written in a file: UTF-8 with any line endings.

Besides the standard the reader accepts `NaN`, `Infinity` and `-Infinity`, and lets the last of two
equal keys win, in the place of the first. A reader takes the text at a place and gives back what it
read and the text after it; a fault carries the number of characters from its place to the end.
-/

namespace QueryScaffold

/-- What is wrong with a JSON text. -/
inductive JsonReason
  | byteOrderMark
  | noValue
  | noPropertyName
  | noColon
  | noComma
  | extraData
  | unterminatedString
  | controlCharacter
  | badEscape
  | badUnicodeEscape
deriving DecidableEq, Repr

namespace JsonReason

/-- The reason in words. -/
def message : JsonReason → Text
  | .byteOrderMark => "Unexpected UTF-8 BOM (decode using utf-8-sig)"
  | .noValue => "Expecting value"
  | .noPropertyName => "Expecting property name enclosed in double quotes"
  | .noColon => "Expecting ':' delimiter"
  | .noComma => "Expecting ',' delimiter"
  | .extraData => "Extra data"
  | .unterminatedString => "Unterminated string starting at"
  | .controlCharacter => "Invalid control character at"
  | .badEscape => "Invalid \\escape"
  | .badUnicodeEscape => "Invalid \\uXXXX escape"

end JsonReason

namespace Json

/-- Why a reader stops. -/
inductive ReadFault
  /-- The text is not JSON; so many characters remain from the place at fault. -/
  | malformed (reason : JsonReason) (remaining : Nat)
  /-- An integer has more digits than are read. -/
  | numberTooLong (digits : Nat)
deriving DecidableEq, Repr

/-- The greatest number of digits of an integer. -/
def maxDigits : Nat := 4300

/-- JSON white space. -/
def isBlank (c : Char) : Bool :=
  c = ' ' || c = '\t' || c = '\n' || c = '\r'

/-- The text from its first character that is not white space. -/
def skipBlanks (text : List Char) : List Char :=
  text.dropWhile isBlank

/-! ## Strings -/

/-- The value of a hexadecimal digit. -/
def hexDigit? (c : Char) : Option Nat :=
  if '0' ≤ c ∧ c ≤ '9' then some (c.toNat - 48)
  else if 'a' ≤ c ∧ c ≤ 'f' then some (c.toNat - 87)
  else if 'A' ≤ c ∧ c ≤ 'F' then some (c.toNat - 55)
  else none

/-- The number written by four hexadecimal digits. -/
def hexUnit? (a b c d : Char) : Option (Fin 0x10000) :=
  match hexDigit? a, hexDigit? b, hexDigit? c, hexDigit? d with
  | some a, some b, some c, some d =>
    some (Fin.ofNat 0x10000 (((a * 16 + b) * 16 + c) * 16 + d))
  | _, _, _, _ => none

/-- A 16-bit unit as a code point. -/
def unitPoint (unit : Fin 0x10000) : CodePoint :=
  ⟨unit, Nat.lt_trans unit.isLt (by decide)⟩

/-- The first half of a surrogate pair. -/
def isHighHalf (unit : Fin 0x10000) : Bool :=
  0xD800 ≤ unit.val && unit.val < 0xDC00

/-- The second half of a surrogate pair. -/
def isLowHalf (unit : Fin 0x10000) : Bool :=
  0xDC00 ≤ unit.val && unit.val < 0xE000

/-- The code point that a surrogate pair stands for. -/
def pairPoint (high low : Fin 0x10000) : CodePoint :=
  ⟨0x10000 + high.val % 0x400 * 0x400 + low.val % 0x400, by omega⟩

/-- The character that a backslash and this character stand for. -/
def plainEscape? (c : Char) : Option Char :=
  match c with
  | '"' => some '"'
  | '\\' => some '\\'
  | '/' => some '/'
  | 'b' => some '\x08'
  | 'f' => some '\x0c'
  | 'n' => some '\n'
  | 'r' => some '\r'
  | 't' => some '\t'
  | _ => none

/-- Reads a `\u` escape from its four digits on: the code point, and how many characters the digits
and a second half of a pair take. A second half is looked for only where more text follows it. -/
def readUnit (digits : List Char) : Except ReadFault (CodePoint × Nat) :=
  let fault := ReadFault.malformed .badUnicodeEscape (digits.length + 1)
  match digits with
  | a :: b :: c :: d :: x :: after =>
    match hexUnit? a b c d with
    | none => .error fault
    | some unit =>
      if isHighHalf unit then
        match x, after with
        | '\\', 'u' :: e :: f :: g :: h :: _ :: beyond =>
          match hexUnit? e f g h with
          | none => .error (.malformed .badUnicodeEscape (beyond.length + 6))
          | some second =>
            if isLowHalf second then .ok (pairPoint unit second, 10) else .ok (unitPoint unit, 4)
        | _, _ => .ok (unitPoint unit, 4)
      else .ok (unitPoint unit, 4)
  | _ => .error fault

/-- Reads an escape after its backslash: the code point, and how many characters it takes. -/
def readEscape (opening : Nat) : List Char → Except ReadFault (CodePoint × Nat)
  | [] => .error (.malformed .unterminatedString opening)
  | 'u' :: digits => (readUnit digits).map fun (c, size) => (c, size + 1)
  | c :: rest =>
    match plainEscape? c with
    | some character => .ok (CodePoint.ofChar character, 1)
    | none => .error (.malformed .badEscape (rest.length + 2))

/-- Reads a string after its opening quote, from where `opening` characters remain. The code points
read so far are in reverse, and the next `skip` characters belong to an escape that has been read.
-/
def readString (opening : Nat) (done : Text) (skip : Nat) :
    List Char → Except ReadFault (Text × List Char)
  | [] => .error (.malformed .unterminatedString opening)
  | c :: rest =>
    match skip with
    | skip + 1 => readString opening done skip rest
    | 0 =>
      if c = '"' then .ok (done.reverse, rest)
      else if c = '\\' then
        match readEscape opening rest with
        | .error fault => .error fault
        | .ok (point, size) => readString opening (point :: done) size rest
      else if c.toNat < 0x20 then .error (.malformed .controlCharacter (rest.length + 1))
      else readString opening (CodePoint.ofChar c :: done) 0 rest

/-! ## Numbers -/

/-- An ASCII digit. -/
def isDigit (c : Char) : Bool :=
  '0' ≤ c && c ≤ '9'

/-- The number written by decimal digits. -/
def digitsValue (digits : List Char) : Nat :=
  digits.foldl (fun n c => 10 * n + (c.toNat - 48)) 0

/-- The digits before the point: a single zero, or digits that do not start with one. -/
def readWhole? : List Char → Option (List Char × List Char)
  | '0' :: rest => some (['0'], rest)
  | text =>
    match text.takeWhile isDigit with
    | [] => none
    | digits => some (digits, text.dropWhile isDigit)

/-- The digits after the point, if a point and a digit come next. -/
def readFraction : List Char → List Char × List Char
  | '.' :: rest =>
    match rest.takeWhile isDigit with
    | [] => ([], '.' :: rest)
    | digits => (digits, rest.dropWhile isDigit)
  | text => ([], text)

/-- An exponent, if one comes next. -/
def readExponent (text : List Char) : Option Int × List Char :=
  match text with
  | c :: rest =>
    if c = 'e' ∨ c = 'E' then
      let (negative, digits) := match rest with
        | '-' :: more => (true, more)
        | '+' :: more => (false, more)
        | more => (false, more)
      match digits.takeWhile isDigit with
      | [] => (none, text)
      | found =>
        let size : Int := digitsValue found
        (some (if negative then -size else size), digits.dropWhile isDigit)
    else (none, text)
  | [] => (none, text)

/-- Reads a number after its sign, if there is one. -/
def readNumber? (negative : Bool) (text : List Char) :
    Option (Except ReadFault (Json × List Char)) :=
  (readWhole? text).map fun (whole, rest) =>
    let (fraction, rest) := readFraction rest
    let (exponent?, rest) := readExponent rest
    match fraction, exponent? with
    | [], none =>
      if maxDigits < whole.length then .error (.numberTooLong whole.length)
      else
        let size : Int := digitsValue whole
        .ok (.int (if negative then -size else size), rest)
    | fraction, exponent? =>
      let digits := (whole ++ fraction).dropWhile (· = '0')
      let exponent := exponent?.getD 0 - fraction.length
      .ok (.float (Binary64.nearest negative (digitsValue digits) digits.length exponent), rest)

/-! ## Values -/

/-- Reads a value that is neither a string, an array nor an object. -/
def readPlain (text : List Char) : Except ReadFault (Json × List Char) :=
  match text with
  | 'n' :: 'u' :: 'l' :: 'l' :: rest => .ok (.null, rest)
  | 't' :: 'r' :: 'u' :: 'e' :: rest => .ok (.bool true, rest)
  | 'f' :: 'a' :: 'l' :: 's' :: 'e' :: rest => .ok (.bool false, rest)
  | 'N' :: 'a' :: 'N' :: rest => .ok (.float .nan, rest)
  | 'I' :: 'n' :: 'f' :: 'i' :: 'n' :: 'i' :: 't' :: 'y' :: rest =>
    .ok (.float (.infinite false), rest)
  | '-' :: 'I' :: 'n' :: 'f' :: 'i' :: 'n' :: 'i' :: 't' :: 'y' :: rest =>
    .ok (.float (.infinite true), rest)
  | '-' :: rest =>
    (readNumber? true rest).getD (.error (.malformed .noValue text.length))
  | _ => (readNumber? false text).getD (.error (.malformed .noValue text.length))

mutual

/-- Reads a value. The fuel bounds the number of nested calls. -/
def readValue : Nat → List Char → Except ReadFault (Json × List Char)
  | 0, text => .error (.malformed .noValue text.length)
  | fuel + 1, text =>
    match text with
    | '"' :: rest =>
      (readString text.length [] 0 rest).map fun (s, rest) => (.string s, rest)
    | '[' :: rest =>
      match skipBlanks rest with
      | ']' :: rest => .ok (.array [], rest)
      | rest => readItems fuel [] rest
    | '\x7b' :: rest =>
      match skipBlanks rest with
      | '\x7d' :: rest => .ok (.object [], rest)
      | rest => readEntries fuel [] rest
    | text => readPlain text

/-- Reads the items of an array up to its end. The items read so far are in reverse. -/
def readItems : Nat → List Json → List Char → Except ReadFault (Json × List Char)
  | 0, _, text => .error (.malformed .noValue text.length)
  | fuel + 1, done, text =>
    match readValue fuel text with
    | .error fault => .error fault
    | .ok (item, rest) =>
      match skipBlanks rest with
      | ']' :: rest => .ok (.array (item :: done).reverse, rest)
      | ',' :: rest => readItems fuel (item :: done) (skipBlanks rest)
      | rest => .error (.malformed .noComma rest.length)

/-- Reads the entries of an object up to its end. -/
def readEntries : Nat → Entries → List Char → Except ReadFault (Json × List Char)
  | 0, _, text => .error (.malformed .noValue text.length)
  | fuel + 1, done, text =>
    match text with
    | '"' :: rest =>
      match readString text.length [] 0 rest with
      | .error fault => .error fault
      | .ok (key, rest) =>
        match skipBlanks rest with
        | ':' :: rest =>
          match readValue fuel (skipBlanks rest) with
          | .error fault => .error fault
          | .ok (value, rest) =>
            let done := Entries.insert key value done
            match skipBlanks rest with
            | '\x7d' :: rest => .ok (.object done, rest)
            | ',' :: rest => readEntries fuel done (skipBlanks rest)
            | rest => .error (.malformed .noComma rest.length)
        | rest => .error (.malformed .noColon rest.length)
    | text => .error (.malformed .noPropertyName text.length)

end

/-- Reads a whole text: one value with white space around it. -/
def readText (text : List Char) : Except ReadFault Json :=
  match text with
  | '\uFEFF' :: _ => .error (.malformed .byteOrderMark text.length)
  | text =>
    match readValue (2 * text.length + 2) (skipBlanks text) with
    | .error fault => .error fault
    | .ok (value, rest) =>
      match skipBlanks rest with
      | [] => .ok value
      | rest => .error (.malformed .extraData rest.length)

/-- Why a file does not hold a JSON value. -/
inductive Fault
  /-- The bytes are not UTF-8. -/
  | encoding (fault : Utf8Fault)
  /-- The text is not JSON. -/
  | malformed (reason : JsonReason) (place : Position)
  /-- An integer has more digits than are read. -/
  | numberTooLong (digits : Nat)
deriving DecidableEq, Repr

/-- The fault of a reader of the whole of a text, with its place. -/
def ReadFault.locate (text : List Char) : ReadFault → Fault
  | .malformed reason remaining =>
    .malformed reason (.after (text.take (text.length - remaining)))
  | .numberTooLong digits => .numberTooLong digits

/-- The value written in a text. -/
def read (text : List Char) : Except Fault Json :=
  (readText text).mapError (·.locate text)

/-- The value written in a file. -/
def ofBytes (bytes : List UInt8) : Except Fault Json :=
  match decodeUtf8 bytes with
  | .error fault => .error (.encoding fault)
  | .ok text => read (unifyNewlines text)

end Json

/-- A place in words. -/
def Position.message (place : Position) : Text :=
  ("line " : Text) ++ Text.ofNat place.line ++ (" column " : Text) ++ Text.ofNat place.column ++
    (" (char " : Text) ++ Text.ofNat place.offset ++ (")" : Text)

end QueryScaffold
