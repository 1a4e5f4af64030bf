import QueryScaffold.Text.Basic

/-!
# Tables of code points

A table is written in lines, each a string of rows with commas between them; a row is made of
hexadecimal numbers with blanks between them.

* `readCodeTable`: the rows of a table;
* `CodePoint.ofNat`: the code point of a number from a table.
-/

namespace QueryScaffold

/-- The value of a hexadecimal digit in upper case. -/
def tableDigit? (c : Char) : Option Nat :=
  if '0' ≤ c && c ≤ '9' then some (c.toNat - '0'.toNat)
  else if 'A' ≤ c && c ≤ 'F' then some (c.toNat - 'A'.toNat + 10)
  else none

/-- Reads characters from the last one to the first: the rows, the numbers and the number that are
complete, and the power of sixteen for the next digit. -/
structure CodeTableReader where
  rows : List (List Nat)
  row : List Nat
  number : Nat
  power : Nat

namespace CodeTableReader

/-- Nothing read yet. -/
def start : CodeTableReader := ⟨[], [], 0, 1⟩

/-- The row with the number before what has been read of it. -/
def finishedRow (reader : CodeTableReader) : List Nat :=
  reader.number :: reader.row

/-- Reads one more character. -/
def step (c : Char) (reader : CodeTableReader) : CodeTableReader :=
  match tableDigit? c with
  | some digit =>
    { reader with number := digit * reader.power + reader.number, power := reader.power * 16 }
  | none =>
    if c = ',' then ⟨reader.finishedRow :: reader.rows, [], 0, 1⟩
    else ⟨reader.rows, reader.finishedRow, 0, 1⟩

end CodeTableReader

/-- The rows of a line. -/
def readCodeLine (line : String) : List (List Nat) :=
  let reader := line.toList.foldr CodeTableReader.step .start
  reader.finishedRow :: reader.rows

/-- The rows of a table. -/
def readCodeTable (lines : List String) : List (List Nat) :=
  lines.flatMap readCodeLine

/-- A row ends at a comma, and a number at a blank. -/
example : readCodeTable ["FB01 66 69,B5 3BC", "AA 61"]
    = [[0xFB01, 0x66, 0x69], [0xB5, 0x3BC], [0xAA, 0x61]] := by
  decide +kernel

namespace CodePoint

/-- The code point of a number; the replacement character stands for a number that has none. -/
def ofNat (n : Nat) : CodePoint :=
  if h : n < 0x110000 then ⟨n, h⟩ else .ofChar '\uFFFD'

end CodePoint

end QueryScaffold
