/-!
# Line endings

A text file is read with every line ending, `\r\n` or `\r` alone, turned into a line feed.

* `unifyNewlines`: the text that is read;
* `Position`: a place in a text by line and column, computed by `Position.after`.
-/

namespace QueryScaffold

/-- The text with `\r\n` and `\r` turned into `\n`. -/
def unifyNewlines (text : List Char) : List Char :=
  go [] text
where
  /-- Collects the characters in reverse. -/
  go (done : List Char) : List Char → List Char
    | [] => done.reverse
    | '\r' :: '\n' :: rest => go ('\n' :: done) rest
    | '\r' :: rest => go ('\n' :: done) rest
    | c :: rest => go (c :: done) rest

/-- A place in a text; lines and columns are counted from one, offsets from zero. -/
structure Position where
  line : Nat
  column : Nat
  offset : Nat
deriving DecidableEq, Repr

/-- The place after a text. -/
def Position.after (text : List Char) : Position :=
  { line := text.count '\n' + 1
    column := (text.reverse.takeWhile (· ≠ '\n')).length + 1
    offset := text.length }

end QueryScaffold
