import QueryScaffold.Container.Statement
import QueryScaffold.Files.Path
import QueryScaffold.Text.Quoted
import QueryScaffold.Text.Utf8

/-!
# File trees

The files a run works on are a value: a run takes a tree and gives back a tree.

* `Tree`: what is at each location, and where the working directory is;
* `Tree.locate`: the location that a path leads to, or the reason why it leads nowhere;
* `Tree.isFile`, `Tree.isDirectory`, `Tree.content?`: what a path leads to;
* `Tree.makeDirectories`, `Tree.write`: the two operations that change a tree;
* `Tree.changes`: what is different in a later tree.

A path is followed name by name, so `x/../y` leads nowhere unless `x` is a directory.
-/

namespace QueryScaffold

/-- What is at a location. -/
inductive Entry
  | directory
  /-- A file with these bytes. -/
  | file (content : List UInt8)
  /-- A file that can be loaded as a container module, whose text starts with these bytes. -/
  | module (start : List UInt8) (statements : List Statement)

namespace Entry

/-- The entry is a file of either kind. -/
def isFile : Entry → Bool
  | .directory => false
  | .file _ => true
  | .module _ _ => true

/-- The entry is a directory. -/
def isDirectory : Entry → Bool
  | .directory => true
  | _ => false

/-- The bytes of a file; of a module, only those with which its text starts. -/
def content : Entry → List UInt8
  | .directory => []
  | .file content => content
  | .module start _ => start

/-- The statements of a file that is loaded as a module. -/
def statements : Entry → List Statement
  | .module _ statements => statements
  | _ => []

end Entry

/-- A place in a tree: the names from the root on. -/
abbrev Location := List Text

/-- The files of a machine. -/
structure Tree where
  /-- The working directory. -/
  home : Location
  entries : List (Location × Entry)

/-- Why an operation of the file system fails. -/
inductive SystemReason
  | missing
  | alreadyThere
  | notDirectory
  | isDirectory
  | nameTooLong
deriving DecidableEq, Repr

namespace SystemReason

/-- The number of the reason. -/
def number : SystemReason → Nat
  | .missing => 2
  | .alreadyThere => 17
  | .notDirectory => 20
  | .isDirectory => 21
  | .nameTooLong => 36

/-- The reason in words. -/
def message : SystemReason → Text
  | .missing => "No such file or directory"
  | .alreadyThere => "File exists"
  | .notDirectory => "Not a directory"
  | .isDirectory => "Is a directory"
  | .nameTooLong => "File name too long"

end SystemReason

/-- Why a path cannot be used. -/
inductive PathReason
  | system (reason : SystemReason)
  /-- The path has a NUL, which no path of the system can hold. -/
  | embeddedNull
deriving DecidableEq, Repr

/-- A failed operation, with the path it was given. -/
structure PathFault where
  path : Path
  reason : PathReason
deriving DecidableEq

namespace PathFault

/-- The fault in words. -/
def message (fault : PathFault) : Text :=
  match fault.reason with
  | .embeddedNull => "embedded null byte"
  | .system reason =>
    ("[Errno " : Text) ++ Text.ofNat reason.number ++ ("] " : Text) ++ reason.message ++
      (": " : Text) ++ fault.path.text.quote

end PathFault

/-- The greatest number of bytes of a name. -/
def maxNameBytes : Nat := 255

/-- The greatest number of bytes of a path. -/
def maxPathBytes : Nat := 4095

namespace Tree

/-- What is at a location; the root is always a directory. -/
def entry? (tree : Tree) (location : Location) : Option Entry :=
  if location = [] then some .directory
  else (tree.entries.find? fun pair => pair.1 = location).map (·.2)

/-- The pairs with an entry put at a location. -/
def putEntry (location : Location) (entry : Entry) :
    List (Location × Entry) → List (Location × Entry)
  | [] => [(location, entry)]
  | (at', found) :: rest =>
    if at' = location then (location, entry) :: rest
    else (at', found) :: putEntry location entry rest

/-- The tree with an entry put at a location. -/
def put (tree : Tree) (location : Location) (entry : Entry) : Tree :=
  { tree with entries := putEntry location entry tree.entries }

/-- The location that a name leads to from another one, which has to be a directory. -/
def step (tree : Tree) (here : Location) (name : Text) : Except SystemReason Location :=
  match tree.entry? here with
  | none => .error .missing
  | some .directory =>
    if name = ("..": Text) then .ok here.dropLast
    else if maxNameBytes < name.utf8Size then .error .nameTooLong
    else .ok (here ++ [name])
  | some _ => .error .notDirectory

/-- The location that a path leads to. Everything but the last name has to be there. -/
def locate (tree : Tree) (path : Path) : Except PathReason Location :=
  if path.text.any (·.value = 0) then .error .embeddedNull
  else if maxPathBytes < path.text.utf8Size then .error (.system .nameTooLong)
  else
    let start := match path.anchor with
      | .relative => tree.home
      | _ => []
    match path.names.foldlM tree.step start with
    | .ok location => .ok location
    | .error reason => .error (.system reason)

/-- What a path leads to. -/
def entryAt (tree : Tree) (path : Path) : Except PathReason Entry :=
  match tree.locate path with
  | .error reason => .error reason
  | .ok location =>
    match tree.entry? location with
    | some entry => .ok entry
    | none => .error (.system .missing)

/-- Whether a path leads to an entry with a property. A path that leads nowhere does not; one that
is too long to ask about is a fault. -/
def test (tree : Tree) (path : Path) (property : Entry → Bool) : Except PathFault Bool :=
  match tree.entryAt path with
  | .ok entry => .ok (property entry)
  | .error .embeddedNull => .ok false
  | .error (.system .nameTooLong) => .error ⟨path, .system .nameTooLong⟩
  | .error (.system _) => .ok false

/-- Whether a path leads to a file. -/
def isFile (tree : Tree) (path : Path) : Except PathFault Bool :=
  tree.test path Entry.isFile

/-- Whether a path leads to a directory. -/
def isDirectory (tree : Tree) (path : Path) : Except PathFault Bool :=
  tree.test path Entry.isDirectory

/-- The bytes of the file at a path. -/
def content (tree : Tree) (path : Path) : List UInt8 :=
  match tree.entryAt path with
  | .ok entry => entry.content
  | .error _ => []

/-- The statements of the module at a path. -/
def statements (tree : Tree) (path : Path) : List Statement :=
  match tree.entryAt path with
  | .ok entry => entry.statements
  | .error _ => []

/-- The first bytes of the file at a path. -/
def start (tree : Tree) (count : Nat) (path : Path) : List UInt8 :=
  match tree.entryAt path with
  | .ok entry => entry.content.take count
  | .error _ => []

/-- The file at a path has less than so many bytes. A module is longer than any bound that is asked
for. -/
def isShorter (tree : Tree) (bound : Nat) (path : Path) : Bool :=
  match tree.entryAt path with
  | .ok (.file content) => content.length < bound
  | _ => false

/-- The path from the root on, without following it. -/
def absolute (tree : Tree) (path : Path) : Path :=
  match path.anchor with
  | .relative => ⟨.root, tree.home ++ path.names⟩
  | _ => path

/-- Makes one directory, inside one that is there. -/
def makeDirectory (tree : Tree) (path : Path) : Except PathReason Tree :=
  match tree.locate path with
  | .error reason => .error reason
  | .ok location =>
    match tree.entry? location with
    | some _ => .error (.system .alreadyThere)
    | none => .ok (tree.put location .directory)

/-- The outcome of a refused attempt at a directory: no fault if the directory is there. -/
def orDirectory (tree : Tree) (path : Path) (reason : PathReason) : Except PathFault Unit :=
  match reason with
  | .embeddedNull => .error ⟨path, reason⟩
  | .system _ =>
    match tree.isDirectory path with
    | .ok true => .ok ()
    | _ => .error ⟨path, reason⟩

/-- Makes the directory of an anchor and names given from the last to the first, and those it is in.
Directories that were made stay when a later one fails. -/
def makeDirectoriesFrom (anchor : Anchor) (tree : Tree) :
    List Text → Tree × Except PathFault Unit
  | [] =>
    let path : Path := ⟨anchor, []⟩
    match tree.makeDirectory path with
    | .ok tree => (tree, .ok ())
    | .error reason => (tree, tree.orDirectory path reason)
  | name :: outer =>
    let path : Path := ⟨anchor, (name :: outer).reverse⟩
    match tree.makeDirectory path with
    | .ok tree => (tree, .ok ())
    | .error (.system .missing) =>
      match makeDirectoriesFrom anchor tree outer with
      | (tree, .error fault) => (tree, .error fault)
      | (tree, .ok ()) =>
        match tree.makeDirectory path with
        | .ok tree => (tree, .ok ())
        | .error (.system .missing) => (tree, .error ⟨path, .system .missing⟩)
        | .error reason => (tree, tree.orDirectory path reason)
    | .error reason => (tree, tree.orDirectory path reason)

/-- Makes a directory and those it is in, as far as they are not there. -/
def makeDirectories (tree : Tree) (path : Path) : Tree × Except PathFault Unit :=
  makeDirectoriesFrom path.anchor tree path.names.reverse

/-- Puts bytes into the file at a path, in place of what it held. -/
def write (tree : Tree) (path : Path) (content : List UInt8) : Except PathFault Tree :=
  match tree.locate path with
  | .error reason => .error ⟨path, reason⟩
  | .ok location =>
    match tree.entry? location with
    | some .directory => .error ⟨path, .system .isDirectory⟩
    | _ => .ok (tree.put location (.file content))

/-- An entry differs from another one. A module counts as the same, as no operation writes one. -/
def differs : Entry → Entry → Bool
  | .directory, .directory => false
  | .file content, .file other => content ≠ other
  | .module _ _, .module _ _ => false
  | _, _ => true

/-- The entries of a later tree that are not in an earlier one. -/
def changes (before after : Tree) : List (Location × Entry) :=
  after.entries.filter fun (location, entry) =>
    match before.entry? location with
    | none => true
    | some old => differs old entry

end Tree

end QueryScaffold
