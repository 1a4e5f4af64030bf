import QueryScaffold.Text.Casing
import QueryScaffold.Text.Quoted
import QueryScaffold.Text.Search
import QueryScaffold.Text.Utf8

/-!
# Encodings

* `Encoding`: the ways from a text to bytes and back, by the names they go by;
* `EncodingFault`: the first code points of a text that an encoding has no bytes for;
* `Encoding.encode`, `Encoding.encodeAll`: the bytes of a text, where such code points are a fault
  or where something stands in for them;
* `Encoding.decodeAll`: the text of bytes, where something stands in for those that write nothing.

A name of an encoding is read without its case, and any marks between its words are one mark.
-/

namespace QueryScaffold

/-- A way from a text to bytes and back. -/
inductive Encoding
  | utf8
  | ascii
  | latin1
deriving DecidableEq, Repr

/-- The first code points of a text that an encoding has no bytes for. -/
structure EncodingFault where
  encoding : Encoding
  first : CodePoint
  /-- The place of the first one. -/
  start : Nat
  /-- How many of them stand in a row. -/
  count : Nat
deriving DecidableEq

/-- What becomes of code points without bytes, and of bytes that write nothing. -/
inductive FaultHandling
  | refuse
  | skip
  /-- A question mark, or the replacement character, stands in for them. -/
  | mark
  /-- Their numbers stand in for them, behind a backslash. -/
  | escape
  /-- Their numbers stand in for them, between an ampersand and a semicolon. -/
  | reference
  /-- Bytes that write nothing are surrogates, and the other way round. -/
  | surrogate
deriving DecidableEq, Repr

namespace FaultHandling

/-- The handling of faults that a name stands for. -/
def ofName? (name : Text) : Option FaultHandling :=
  let names : List (Text × FaultHandling) :=
    [(("strict" : Text), .refuse), (("ignore" : Text), .skip), (("replace" : Text), .mark),
      (("backslashreplace" : Text), .escape), (("xmlcharrefreplace" : Text), .reference),
      (("surrogateescape" : Text), .surrogate)]
  (names.find? fun entry => entry.1 = name).map Prod.snd

end FaultHandling

namespace Encoding

/-- The name of the encoding in messages. -/
def name : Encoding → Text
  | .utf8 => "utf-8"
  | .ascii => "ascii"
  | .latin1 => "latin-1"

/-- A code point that names of encodings are written with. -/
def isNamePart (c : CodePoint) : Bool :=
  c.isWord && c ≠ CodePoint.ofChar '_' || c = CodePoint.ofChar '.'

/-- The words of a name, with one underscore between neighbours. -/
def plainName (name : Text) : Text :=
  let parts := Text.words (fun c => !isNamePart c) name.length (name.lower.filter fun c => c.value < 128)
  Text.joined ("_" : Text) parts

/-- The names that an encoding goes by. -/
def names : Encoding → List String
  | .utf8 => ["utf_8", "utf8", "u8", "utf", "cp65001", "utf8_ucs2", "utf8_ucs4"]
  | .ascii =>
    ["ascii", "us_ascii", "us", "646", "iso646_us", "iso_ir_6", "cp367", "ibm367", "csascii",
      "ansi_x3.4_1968", "ansi_x3_4_1968", "ansi_x3.4_1986", "iso_646.irv_1991"]
  | .latin1 =>
    ["latin_1", "latin1", "latin", "l1", "iso8859_1", "iso_8859_1", "iso8859", "8859",
      "iso_8859_1_1987", "iso_ir_100", "cp819", "ibm819", "csisolatin1"]

/-- The encoding of a name. -/
def ofName? (name : Text) : Option Encoding :=
  [utf8, ascii, latin1].find? fun encoding =>
    (encoding.names.map Text.ofString).contains (plainName name)

/-! ## From texts to bytes -/

/-- The bytes of a code point. -/
def bytes? (encoding : Encoding) (c : CodePoint) : Option (List UInt8) :=
  match encoding with
  | .utf8 => if c.isSurrogate then none else some (utf8Bytes c.value)
  | .ascii => if c.value < 128 then some [UInt8.ofNat c.value] else none
  | .latin1 => if c.value < 256 then some [UInt8.ofNat c.value] else none

/-- The encoding has no bytes for a code point. -/
def lacks (encoding : Encoding) (c : CodePoint) : Bool := (encoding.bytes? c).isNone

/-- The first code points of a text that the encoding has no bytes for. -/
def fault? (encoding : Encoding) (t : Text) : Option EncodingFault :=
  let before := t.takeWhile fun c => !encoding.lacks c
  match t.drop before.length with
  | [] => none
  | c :: rest =>
    some ⟨encoding, c, before.length, ((c :: rest).takeWhile encoding.lacks).length⟩

/-- The bytes of a text, or the first code points that have none. -/
def encode (encoding : Encoding) (t : Text) : Except EncodingFault (List UInt8) :=
  match encoding.fault? t with
  | some fault => .error fault
  | none => .ok (t.flatMap fun c => (encoding.bytes? c).getD [])

/-- What stands in for a code point that has no bytes, if anything may. -/
def standIn? (handling : FaultHandling) (c : CodePoint) : Option (List UInt8) :=
  let ascii (t : Text) : List UInt8 := t.map fun c => UInt8.ofNat c.value
  match handling with
  | .refuse => none
  | .skip => some []
  | .mark => some (ascii "?")
  | .escape => some (ascii c.numericEscape)
  | .reference => some (ascii (("&#" : Text) ++ Text.ofNat c.value ++ (";" : Text)))
  | .surrogate =>
    if 0xDC80 ≤ c.value && c.value ≤ 0xDCFF then some [UInt8.ofNat (c.value - 0xDC00)] else none

/-- The bytes of a text; a code point that has none is a fault where nothing stands in for it. -/
def encodeAll (encoding : Encoding) (handling : FaultHandling) (t : Text) :
    Except EncodingFault (List UInt8) :=
  match t.mapM fun c => (encoding.bytes? c).or (standIn? handling c) with
  | some parts => .ok parts.flatten
  | none => encoding.encode t

/-! ## From bytes to texts -/

/-- What bytes begin with. -/
def head (encoding : Encoding) (lead : UInt8) (rest : List UInt8) : Utf8Head :=
  match encoding with
  | .utf8 => utf8Head lead rest
  | .ascii =>
    if lead.toNat < 128 then .char (Char.ofNat lead.toNat) 0 else .fault .badStart 1
  | .latin1 => .char (Char.ofNat lead.toNat) 0

/-- The first bytes that write nothing in the encoding, in words. -/
def decodingNotice? (encoding : Encoding) (bytes : List UInt8) : Option Text :=
  match encoding with
  | .utf8 =>
    match decodeUtf8 bytes with
    | .ok _ => none
    | .error fault => some fault.message
  | .ascii =>
    (bytes.findIdx? fun byte => 128 ≤ byte.toNat).map fun place =>
      ("'ascii' codec can't decode byte 0x" : Text) ++
        hexadecimal 2 ((bytes[place]?).getD 0).toNat ++ (" in position " : Text) ++
        Text.ofNat place ++ (": ordinal not in range(128)" : Text)
  | .latin1 => none

/-- What stands in for bytes that write nothing. -/
def textInPlace (handling : FaultHandling) (bytes : List UInt8) : Text :=
  match handling with
  | .refuse | .skip | .reference => []
  | .mark => [CodePoint.ofChar '\uFFFD']
  | .escape => bytes.flatMap fun byte => ("\\x" : Text) ++ hexadecimal 2 byte.toNat
  | .surrogate =>
    bytes.map fun byte => ⟨0xDC00 + byte.toNat, by have := byte.toNat_lt; omega⟩

/-- The text of bytes; the first `skip` ones belong to what was read before. -/
def decodeAll (encoding : Encoding) (handling : FaultHandling) (skip : Nat) :
    List UInt8 → Text
  | [] => []
  | lead :: rest =>
    match skip with
    | skip + 1 => decodeAll encoding handling skip rest
    | 0 =>
      match encoding.head lead rest with
      | .char c extra => CodePoint.ofChar c :: decodeAll encoding handling extra rest
      | .fault _ width =>
        textInPlace handling ((lead :: rest).take width) ++
          decodeAll encoding handling (width - 1) rest

end Encoding

namespace EncodingFault

/-- Why an encoding has no bytes for a code point. -/
def reason : Encoding → Text
  | .utf8 => "surrogates not allowed"
  | .ascii => "ordinal not in range(128)"
  | .latin1 => "ordinal not in range(256)"

/-- The fault in words. -/
def message (fault : EncodingFault) : Text :=
  let place : Text :=
    if fault.count = 1 then
      ("character '" : Text) ++ fault.first.numericEscape ++ ("' in position " : Text) ++
        Text.ofNat fault.start
    else
      ("characters in position " : Text) ++ Text.ofNat fault.start ++ ("-" : Text) ++
        Text.ofNat (fault.start + fault.count - 1)
  ("'" : Text) ++ fault.encoding.name ++ ("' codec can't encode " : Text) ++ place ++
    (": " : Text) ++ reason fault.encoding

end EncodingFault

end QueryScaffold
