import QueryScaffold.Text.Basic

/-!
# UTF-8

* `Text.utf8?`: the bytes of a text, which a surrogate has none of;
* `decodeUtf8`: the characters of a byte sequence, or the first fault with its place.

A fault covers the bytes that could have started a character: the lead byte alone, or also the
continuation bytes that fitted before the one that did not.
-/

namespace QueryScaffold

/-- The UTF-8 bytes of a code point number below U+110000. -/
def utf8Bytes (n : Nat) : List UInt8 :=
  if n < 0x80 then [n.toUInt8]
  else if n < 0x800 then [(0xC0 + n / 0x40).toUInt8, (0x80 + n % 0x40).toUInt8]
  else if n < 0x10000 then
    [(0xE0 + n / 0x1000).toUInt8, (0x80 + n / 0x40 % 0x40).toUInt8, (0x80 + n % 0x40).toUInt8]
  else
    [(0xF0 + n / 0x40000).toUInt8, (0x80 + n / 0x1000 % 0x40).toUInt8,
      (0x80 + n / 0x40 % 0x40).toUInt8, (0x80 + n % 0x40).toUInt8]

namespace Text

/-- The UTF-8 bytes of a text; a text with a surrogate has none. -/
def utf8? (t : Text) : Option (List UInt8) :=
  if t.hasSurrogate then none else some (t.flatMap fun c => utf8Bytes c.value)

/-- The number of UTF-8 bytes. -/
def utf8Size (t : Text) : Nat :=
  (t.flatMap fun c => utf8Bytes c.value).length

end Text

/-- Why bytes are not UTF-8. -/
inductive Utf8Reason
  /-- No character starts with this byte. -/
  | badStart
  /-- A byte that should continue the character does not. -/
  | badContinuation
  /-- The bytes end within a character. -/
  | cutOff
deriving DecidableEq, Repr

/-- The first place where bytes are not UTF-8. -/
structure Utf8Fault where
  /-- The bytes at fault, the lead byte first. -/
  lead : UInt8
  /-- The offset of the lead byte. -/
  start : Nat
  /-- The number of bytes at fault. -/
  width : Nat
  reason : Utf8Reason
deriving DecidableEq, Repr

/-- What stands at the head of a byte sequence. -/
inductive Utf8Head
  /-- A character, and the number of bytes after its lead byte. -/
  | char (c : Char) (extra : Nat)
  /-- A fault over this many bytes. -/
  | fault (reason : Utf8Reason) (width : Nat)

/-- A continuation byte. -/
def isContinuation (b : UInt8) : Bool :=
  0x80 ≤ b && b ≤ 0xBF

/-- The six low bits of a continuation byte. -/
def lowBits (b : UInt8) : Nat :=
  b.toNat % 0x40

/-- A second byte that may follow this lead byte: no overlong form, no surrogate, nothing above
U+10FFFF. -/
def fitsLead (lead b : UInt8) : Bool :=
  isContinuation b &&
    (if lead = 0xE0 then 0xA0 ≤ b
     else if lead = 0xED then b < 0xA0
     else if lead = 0xF0 then 0x90 ≤ b
     else if lead = 0xF4 then b < 0x90
     else true)

/-- What a lead byte and the bytes after it begin with. -/
def utf8Head (lead : UInt8) (rest : List UInt8) : Utf8Head :=
  let n := lead.toNat
  if n < 0x80 then .char (Char.ofNat n) 0
  else if n < 0xC2 then .fault .badStart 1
  else if n < 0xE0 then
    match rest with
    | [] => .fault .cutOff 1
    | b :: _ =>
      if isContinuation b then .char (Char.ofNat (n % 0x20 * 0x40 + lowBits b)) 1
      else .fault .badContinuation 1
  else if n < 0xF0 then
    match rest with
    | [] => .fault .cutOff 1
    | b :: more =>
      if !fitsLead lead b then .fault .badContinuation 1
      else
        match more with
        | [] => .fault .cutOff 2
        | c :: _ =>
          if isContinuation c then
            .char (Char.ofNat ((n % 0x10 * 0x40 + lowBits b) * 0x40 + lowBits c)) 2
          else .fault .badContinuation 2
  else if n < 0xF5 then
    match rest with
    | [] => .fault .cutOff 1
    | b :: more =>
      if !fitsLead lead b then .fault .badContinuation 1
      else
        match more with
        | [] => .fault .cutOff 2
        | c :: more =>
          if !isContinuation c then .fault .badContinuation 2
          else
            match more with
            | [] => .fault .cutOff 3
            | d :: _ =>
              if isContinuation d then
                .char (Char.ofNat (((n % 8 * 0x40 + lowBits b) * 0x40 + lowBits c) * 0x40 +
                  lowBits d)) 3
              else .fault .badContinuation 3
  else .fault .badStart 1

/-- The characters of a byte sequence. -/
def decodeUtf8 (bytes : List UInt8) : Except Utf8Fault (List Char) :=
  go [] 0 0 bytes
where
  /-- Collects the characters in reverse; `skip` bytes belong to the last one. -/
  go (done : List Char) (offset skip : Nat) : List UInt8 → Except Utf8Fault (List Char)
    | [] => .ok done.reverse
    | b :: rest =>
      match skip with
      | skip + 1 => go done (offset + 1) skip rest
      | 0 =>
        match utf8Head b rest with
        | .char c extra => go (c :: done) (offset + 1) extra rest
        | .fault reason width => .error { lead := b, start := offset, width, reason }

namespace Utf8Reason

/-- The reason in words. -/
def message : Utf8Reason → Text
  | .badStart => "invalid start byte"
  | .badContinuation => "invalid continuation byte"
  | .cutOff => "unexpected end of data"

end Utf8Reason

namespace Utf8Fault

/-- The fault in words. -/
def message (fault : Utf8Fault) : Text :=
  let place : Text :=
    if fault.width = 1 then
      ("byte 0x" : Text) ++ ((Nat.toDigits 16 fault.lead.toNat).map CodePoint.ofChar) ++
        (" in position " : Text) ++ Text.ofNat fault.start
    else
      ("bytes in position " : Text) ++ Text.ofNat fault.start ++ ("-" : Text) ++
        Text.ofNat (fault.start + fault.width - 1)
  ("'utf-8' codec can't decode " : Text) ++ place ++ (": " : Text) ++ fault.reason.message

end Utf8Fault

end QueryScaffold
