import QueryScaffold.Files.Tree
import QueryScaffold.Text.Encoding

/-!
# Writing the output

* `OutputFault`: why a text could not be written to its file;
* `Tree.writeOutput`: makes the directory and puts the text into the file.

The file is emptied before its new text is encoded, so a text with a surrogate leaves an empty file.
-/

namespace QueryScaffold

/-- Why a text was not written. -/
inductive OutputReason
  /-- The directory or the file could not be used. -/
  | path (fault : PathFault)
  /-- The text has surrogates, which have no bytes. -/
  | unencodable (fault : EncodingFault)
deriving DecidableEq

/-- A text that was not written, and the file it was meant for. -/
structure OutputFault where
  path : Path
  reason : OutputReason
deriving DecidableEq

namespace OutputReason

/-- The reason in words. -/
def message : OutputReason → Text
  | .path fault => fault.message
  | .unencodable fault => fault.message

end OutputReason

namespace OutputFault

/-- The fault in words. -/
def message (fault : OutputFault) : Text :=
  ("Cannot write " : Text) ++ fault.path.text ++ (": " : Text) ++ fault.reason.message

end OutputFault

namespace Tree

/-- Writes a text to a file of a directory, which is made if it is not there. The tree comes back
also after a fault, with the directories that were made. -/
def writeOutput (tree : Tree) (text : Text) (directory : Path) (fileName : Text) :
    Tree × Except OutputFault Path :=
  let path := directory.child fileName
  match tree.makeDirectories directory with
  | (tree, .error fault) => (tree, .error ⟨path, .path fault⟩)
  | (tree, .ok ()) =>
    match tree.write path (text.utf8?.getD []) with
    | .error fault => (tree, .error ⟨path, .path fault⟩)
    | .ok tree =>
      match Encoding.utf8.fault? text with
      | some fault => (tree, .error ⟨path, .unencodable fault⟩)
      | none => (tree, .ok path)

end Tree

end QueryScaffold
