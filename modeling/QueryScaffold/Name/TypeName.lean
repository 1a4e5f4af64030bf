import QueryScaffold.Name.Identifier
import QueryScaffold.Text.Blank

/-!
# Type names

A type name is a predefined type, a qualified name, or a qualified name with type arguments between
angle brackets.

* `TypeName`: the grammar, as an inductive relation;
* `Text.splitArguments`: the parts of a text between its commas outside angle brackets;
* `Text.isTypeName`: the recogniser.
-/

namespace QueryScaffold

/-- A type argument with the spaces around it. -/
structure PaddedArgument where
  before : Nat
  argument : Text
  after : Nat

namespace PaddedArgument

/-- The argument as it is written. -/
def text (a : PaddedArgument) : Text :=
  List.replicate a.before (CodePoint.ofChar ' ') ++ a.argument ++
    List.replicate a.after (CodePoint.ofChar ' ')

end PaddedArgument

/-- The grammar of type names. -/
inductive TypeName : Text → Prop
  | predefined {t : Text} : t ∈ predefinedTypes → TypeName t
  | qualified {t : Text} : t.isQualifiedName → TypeName t
  | generic {head : Text} {arguments : List PaddedArgument} : head.isQualifiedName →
      arguments ≠ [] → (∀ a ∈ arguments, TypeName a.argument) →
      TypeName (head ++ ("<" : Text) ++
        Text.joined ("," : Text) (arguments.map PaddedArgument.text) ++ (">" : Text))

namespace Text

/-- The depth of angle brackets after a code point, from the depth before it. -/
def bracketDepth (depth : Int) (c : CodePoint) : Int :=
  if c = CodePoint.ofChar '<' then depth + 1
  else if c = CodePoint.ofChar '>' then depth - 1
  else depth

/-- The parts between the commas at depth zero, read from a depth on. -/
def splitArgumentsFrom (depth : Int) : Text → List Text
  | [] => [[]]
  | c :: rest =>
    if c = CodePoint.ofChar ',' ∧ depth = 0 then [] :: splitArgumentsFrom depth rest
    else extendFirst c (splitArgumentsFrom (bracketDepth depth c) rest)

/-- The parts between the commas that stand outside angle brackets. -/
def splitArguments (t : Text) : List Text :=
  splitArgumentsFrom 0 t

theorem splitArgumentsFrom_ne_nil (depth : Int) (t : Text) : splitArgumentsFrom depth t ≠ [] := by
  cases t with
  | nil => simp [splitArgumentsFrom]
  | cons c rest =>
    rw [splitArgumentsFrom]
    split
    · simp
    · exact extendFirst_ne_nil c _

theorem length_le_of_mem_splitArgumentsFrom {depth : Int} {t part : Text}
    (h : part ∈ splitArgumentsFrom depth t) : part.length ≤ t.length := by
  induction t generalizing depth part with
  | nil =>
    rw [splitArgumentsFrom, List.mem_singleton] at h
    simp [h]
  | cons c rest ih =>
    rw [splitArgumentsFrom] at h
    split at h
    · rcases List.mem_cons.1 h with rfl | h
      · simp
      · exact Nat.le_succ_of_le (ih h)
    · exact length_le_of_mem_extendFirst (fun _ => ih) h

/-- The space. -/
def isSpace (c : CodePoint) : Bool :=
  c = CodePoint.ofChar ' '

theorem length_argument_lt {t head rest a : Text}
    (hc : cut? (CodePoint.ofChar '<') t = some (head, rest))
    (ha : a ∈ splitArguments rest.dropLast) : (a.trim isSpace).length < t.length := by
  have h₁ := length_of_cut? hc
  have h₂ := length_le_of_mem_splitArgumentsFrom ha
  have h₃ := length_trim_le isSpace a
  rw [List.length_dropLast] at h₂
  omega

/-- The text is a type name. -/
def isTypeName (t : Text) : Bool :=
  match hc : cut? (CodePoint.ofChar '<') t with
  | none => predefinedTypes.contains t || t.isQualifiedName
  | some (head, rest) =>
    rest.getLast? == some (CodePoint.ofChar '>') && head.isQualifiedName &&
      (splitArguments rest.dropLast).attach.all fun ⟨a, ha⟩ =>
        have := length_argument_lt hc ha
        isTypeName (a.trim isSpace)
termination_by t.length

end Text

end QueryScaffold
