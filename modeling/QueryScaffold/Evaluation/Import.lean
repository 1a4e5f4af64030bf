import QueryScaffold.Container.Preloaded
import QueryScaffold.Evaluation.Environment

/-!
# Modules that code asks for

* `Eval.importNamed`: what becomes of a module that a name asks for;
* `moduleParts`: what names of such a module stand for.

A name with dots asks for a module below others, and stands for the outermost one. Only the names of
modules that code uses for annotations are known.
-/

namespace QueryScaffold

/-- Modules without names below them, although there are modules behind their names. -/
def singleModules : List Text := wordsOf ["os typing"]

/-- There are modules below a module. -/
def isPackage (root : Text) : Bool :=
  !singleModules.contains root &&
    preloadedParts.any fun name => (root ++ ("." : Text)).isPrefixOf name

/-- Constants of mathematics. -/
def mathParts : NameTable :=
  let real (digits : String) : Value :=
    .constant (.real (((Text.ofString digits).real?).getD .nan))
  [("pi", real "3.141592653589793"), ("e", real "2.718281828459045"),
    ("tau", real "6.283185307179586"), ("inf", real "inf"), ("nan", real "nan")]

/-- Names of the file system. -/
def systemParts : NameTable :=
  [("path", .module "posixpath"), ("name", .text "posix"), ("sep", .text "/"),
    ("altsep", .null), ("curdir", .text "."), ("pardir", .text ".."), ("extsep", .text "."),
    ("pathsep", .text ":"), ("linesep", .text "\n"), ("devnull", .text "/dev/null")]

/-- The forms and classes of annotations. -/
def annotationParts : NameTable :=
  let taken : List Text := wordsOf
    ["Annotated Any Generic TypeVar ClassVar Final List Literal Optional Set Union"]
  typingNames.filter fun entry => taken.contains entry.1

/-- What names of a module stand for. -/
def moduleParts (name : Text) : NameTable :=
  let is (other : String) : Bool := name = Text.ofString other
  let own : NameTable :=
    if is "typing" then annotationParts
    else if is "builtins" then builtinNames
    else if is "collections" then [("abc", .module "collections.abc")]
    else if is "collections.abc" then
      typingNames.filter fun entry => (wordsOf ["Iterable Iterator Sequence"]).contains entry.1
    else if is "datetime" then [("date", .ofClass .date)]
    else if is "math" then mathParts
    else if is "os" then systemParts
    else if is "sys" then
      [("maxsize", .integer (Int.pow 2 63 - 1)), ("maxunicode", .integer 0x10FFFF),
        ("byteorder", .text "little"), ("platform", .text "linux")]
    else []
  ("__name__", .text name) :: own

namespace Eval

/-- Fails as a module that is not there. -/
def refuseModule {α : Type} (name after : Text) : Eval α :=
  refuse "ModuleNotFoundError" (("No module named " : Text) ++ name.quote ++ after)

/-- What becomes of a module that a name asks for. -/
def importNamed (name : Value) : Eval Value :=
  match name with
  | .constant (.text []) => refuseValue "Empty module name"
  | .constant (.text t) =>
    let root := (t.split (CodePoint.ofChar '.')).headD []
    if preloadedNames.contains t || importableRoots.contains t then pure (.module root)
    else if t = root then refuseModule t []
    else if isPackage root then refuseModule t []
    else if preloadedNames.contains root || importableRoots.contains root then
      refuseModule t (("; " : Text) ++ root.quote ++ (" is not a package" : Text))
    else refuseModule root []
  | _ => refuseType "module name must be a string"

end Eval

end QueryScaffold
