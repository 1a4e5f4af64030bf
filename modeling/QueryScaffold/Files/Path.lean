import QueryScaffold.Text.Basic

/-!
# Paths

* `Path`: where a path starts, and its names; `..` is kept as a name;
* `Path.ofText` and `Path.text`: empty names and `.` disappear, and the empty path is written `.`;
* `Path.child`: a path inside another one, which an absolute path replaces.
-/

namespace QueryScaffold

/-- Where a path starts. -/
inductive Anchor
  /-- The working directory. -/
  | relative
  /-- The root, written `/`. -/
  | root
  /-- The root, written `//`. -/
  | doubleRoot
deriving DecidableEq, Repr

/-- A path. -/
structure Path where
  anchor : Anchor
  names : List Text
deriving DecidableEq

namespace Anchor

/-- The anchor as it is written. -/
def text : Anchor → Text
  | .relative => []
  | .root => "/"
  | .doubleRoot => "//"

/-- The anchor of a text that starts with so many slashes. -/
def ofSlashes : Nat → Anchor
  | 0 => .relative
  | 2 => .doubleRoot
  | _ => .root

end Anchor

namespace Path

/-- The slash. -/
def slash : CodePoint := CodePoint.ofChar '/'

/-- The path that a text writes. -/
def ofText (t : Text) : Path :=
  { anchor := .ofSlashes (t.takeWhile (· = slash)).length
    names := (t.split slash).filter fun name => name ≠ [] ∧ name ≠ ("." : Text) }

/-- The path as it is written. -/
def text (path : Path) : Text :=
  match path.anchor, path.names with
  | .relative, [] => "."
  | anchor, names => anchor.text ++ Text.joined [slash] names

/-- The path that a text writes inside this one; an absolute one stays as it is. -/
def child (path : Path) (t : Text) : Path :=
  let inner := ofText t
  match inner.anchor with
  | .relative => { path with names := path.names ++ inner.names }
  | _ => inner

/-- The path without its last name. -/
def parent (path : Path) : Path :=
  { path with names := path.names.dropLast }

/-- The written path ends in this text. -/
def endsWith (path : Path) (ending : Text) : Bool :=
  ending.isSuffixOf path.text

end Path

end QueryScaffold
