import QueryScaffold.Evaluation.Arithmetic
import QueryScaffold.Evaluation.Bracket
import QueryScaffold.Evaluation.Formatting
import QueryScaffold.Text.Search

/-!
# Operators on values

* `Interpreter.operate`: what an operator gives for two values;
* `Eval.applySign`: the value of a sign before a value;
* `Interpreter.isAmong`: a value is among the items of another one.

What has items in an order can be joined with its like and repeated, and is in the order of the first
items that differ. Sets have operators of their own, and dictionaries can be joined.
-/

namespace QueryScaffold

namespace Eval

/-! ## Membership -/

/-- A value is among the keys by which others are told apart. -/
def isAmongFixed (value : Value) (items : List Value) : Eval Bool := do
  let value := match value with
    | .set false members => .set true members
    | value => value
  checkFixed value
  return items.any fun item => item.same value

/-- A value is a part of a text. -/
def isPartOfText (value : Value) (whole : Text) : Eval Bool := do
  match value with
  | .constant (.text part) => return (Search.place? part whole).isSome
  | value => throw (.notPartOfText (← kindName value))

/-- A value is a part of bytes, or one of them. -/
def isPartOfBytes (value : Value) (whole : List UInt8) : Eval Bool := do
  match value, value.integer? with
  | .constant (.bytes part), _ | .buffer _ part, _ => return (Search.place? part whole).isSome
  | _, some n =>
    if 0 ≤ n && n < 256 then return whole.any fun byte => (byte.toNat : Int) = n
    else refuseValue "byte must be in range(0, 256)"
  | value, none =>
    refuseType (("a bytes-like object is required, not '" : Text) ++ (← kindName value) ++
      ("'" : Text))

end Eval

namespace Interpreter

/-- A value is among the items of another one. -/
def isAmong (run : Interpreter) (value container : Value) : Eval Bool := do
  match container with
  | .constant (.text whole) => Eval.isPartOfText value whole
  | .constant (.bytes whole) | .buffer false whole => Eval.isPartOfBytes value whole
  | .set _ items => Eval.isAmongFixed value items
  | .dictionary entries | .proxy entries => do
    Eval.checkFixed value
    return entries.any fun entry => entry.1.same value
  | .view kind items =>
    if kind = ("dict_keys" : Text) then do
      Eval.checkFixed value
      return items.any fun item => item.same value
    else Eval.isAmongItems value items
  | .iterator _ number => run.isAmongNext value number maxItems
  | .apply head arguments => Eval.isAmongItems value [unpacked head arguments]
  | container =>
    match container.items? with
    | some items => Eval.isAmongItems value items
    | none => throw (.noContainer (← Eval.kindName container))

end Interpreter

namespace Value

/-- The two values are the very same. -/
def isIdentical (a b : Value) : Bool :=
  a.same b && a.isAlike b && a.changeable?.isNone

/-- The items of a value that has them in an order and can be joined with its like. -/
def sequence? : Value → Option (List Value)
  | .constant (.text t) => some (t.map fun c => text [c])
  | .constant (.bytes content) => some (content.map fun byte => integer byte.toNat)
  | .buffer false content => some (content.map fun byte => integer byte.toNat)
  | .tuple items | .list items => some items
  | _ => none

/-- The value is a set of keys or entries of a dictionary. -/
def isKeyView : Value → Bool
  | .view kind _ => kind ≠ ("dict_values" : Text)
  | _ => false

end Value

namespace Eval

/-! ## Values with items in an order -/

/-- The items of one value followed by those of another one. -/
def join (left right : Value) (items : List Value) : Eval Value := do
  let kind ← kindName left
  let otherKind ← kindName right
  match if kind = otherKind then right.sequence? else none, left.bytes?, right.bytes? with
  | some others, _, _ => return left.ofItemsLike (items ++ others)
  | none, some _, some content =>
    return left.ofItemsLike (items ++ content.map fun byte => .integer byte.toNat)
  | none, some _, none =>
    refuseType (("can't concat " : Text) ++ otherKind ++ (" to " : Text) ++ kind)
  | none, none, _ => throw (.notJoined kind otherKind)

/-- The most items that a repetition makes. -/
def maxRepeated : Nat := Nat.pow 10 8

/-- The items of a value as often as a count says. -/
def repeated (value count : Value) (items : List Value) : Eval Value := do
  match count.integer? with
  | none => throw (.notRepeated (← kindName count))
  | some n =>
    if Int.pow 2 63 ≤ n then refuse "OverflowError" "cannot fit 'int' into an index-sized integer"
    else if maxRepeated < n.toNat * items.length then refuse "MemoryError" []
    else return value.ofItemsLike (List.replicate n.toNat items).flatten

/-! ## Sets and dictionaries -/

/-- Values that are among others, or that are not. -/
def keep (isKept : Bool) (others values : List Value) : List Value :=
  values.filter fun value => (others.any fun other => other.same value) = isKept

/-- The members that an operator makes from those of two sets. -/
def combined? (operator : Operator) (left right : List Value) : Option (List Value) :=
  match operator with
  | .bar => some (left ++ right)
  | .ampersand => some (keep true right left)
  | .minus => some (keep false right left)
  | .caret => some (keep false right left ++ keep false left right)
  | _ => none

/-- What a comparison of sets gives, which asks whether one has all members of the other. -/
def compareSets? (operator : Operator) (left right : List Value) : Option Bool :=
  let within (a b : List Value) : Bool := a.all fun value => b.any fun other => other.same value
  match operator with
  | .atMost => some (within left right)
  | .atLeast => some (within right left)
  | .less => some (within left right && left.length < right.length)
  | .greater => some (within right left && right.length < left.length)
  | _ => none

/-- What an operator gives for values of which one is a set. -/
def operateSets? (run : Interpreter) (operator : Operator) (left right : Value) :
    Eval (Option Value) := do
  match left.membersOfSet?, right.membersOfSet? with
  | some items, some others =>
    match compareSets? operator items others, combined? operator items others with
    | some found, _ => return some (.truth found)
    | none, some found =>
      let isFrozen := match left, right with
        | .set isFrozen _, .set _ _ => isFrozen
        | _, _ => false
      return some (.set isFrozen (← members found))
    | none, none => return none
  | some items, none =>
    if left.isKeyView && (combined? operator [] []).isSome then do
      let others ← run.items right
      let found := (combined? operator items others).getD []
      return some (.set false (← members found))
    else return none
  | none, some others =>
    if right.isKeyView && (combined? operator [] []).isSome && left.items?.isSome then do
      let items ← run.items left
      let found := (combined? operator items others).getD []
      return some (.set false (← members found))
    else return none
  | none, none => return none

/-! ## All values -/

/-- What an operator gives for constants, sequences, sets and dictionaries. -/
def operatePlain? (run : Interpreter) (operator : Operator) (left right : Value) :
    Eval (Option Value) := do
  let constant : Option ConstantResult := match left, right with
    | .constant a, .constant b => a.operate? operator b
    | _, _ => none
  match constant, operator, left.sequence?, right.sequence? with
  | some result, _, _, _ => return some (.constant (← ofExcept result))
  | none, .plus, some items, _ => return some (← join left right items)
  | none, .times, some items, _ => return some (← repeated left right items)
  | none, .times, none, some items => return some (← repeated right left items)
  | none, operator, _, _ =>
    match operator, left, right with
    | .modulo, .constant (.text t), right => return some (.text (← fill false t right))
    | .modulo, .constant (.bytes content), right =>
      return some (levelBytes (← fill true (levelText content) right))
    | .modulo, .buffer false content, right =>
      return some (.buffer false ((levelBytes (← fill true (levelText content) right)).bytes?.getD []))
    | operator, left, right =>
      match operator, left.entries?, right.entries? with
      | .bar, some entries, some others =>
        return some (.dictionary (← putEntries entries others))
      | operator, _, _ => operateSets? run operator left right

/-- The value that an operator which compares no order gives for two values. -/
def operateAny (run : Interpreter) (operator : Operator) (left right : Value) : Eval Value := do
  match operator with
  | .equal => return .truth (← same left right)
  | .different => return .truth (!(← same left right))
  | .identical => return .truth (left.isIdentical right)
  | .distinct => return .truth (!left.isIdentical right)
  | .inside => return .truth (← run.isAmong left right)
  | .outside => return .truth (!(← run.isAmong left right))
  | .bar =>
    match ← operatePlain? run .bar left right with
    | some value => return value
    | none => ofExcept ((← get).either left right)
  | operator =>
    match ← operatePlain? run operator left right with
    | some value => return value
    | none => throw (.noOperation operator (← kindName left) (← kindName right))

mutual

/-- The value that an operator gives for two values. -/
def operate (run : Interpreter) (operator : Operator) (left right : Value) : Eval Value :=
  match left, right, holds? operator .eq with
  | .tuple items, .tuple others, some _ => orderItems run operator items others
  | .list items, .list others, some _ => orderItems run operator items others
  | left, right, _ => operateAny run operator left right

/-- The truth value that a comparison of items gives. -/
def orderItems (run : Interpreter) (operator : Operator) (items others : List Value) :
    Eval Value :=
  let found (order : Ordering) : Eval Value := pure (.truth ((holds? operator order).getD false))
  match items, others with
  | [], [] => found .eq
  | [], _ :: _ => found .lt
  | _ :: _, [] => found .gt
  | item :: items, second :: others => do
    if ← same item second then orderItems run operator items others
    else operate run operator item second

end

/-- One value is less than another one. -/
def isLess (run : Interpreter) (a b : Value) : Eval Bool := do
  return (← operate run .less a b).isTruthy

/-- The value of a sign before a value. -/
def applySign (sign : Sign) (value : Value) : Eval Value := do
  match sign, value with
  | .not, value => return .truth (!value.isTruthy)
  | sign, .constant c =>
    match c.signed? sign with
    | some c => return .constant c
    | none => throw (.noSign sign (← kindName value))
  | sign, value => throw (.noSign sign (← kindName value))

end Eval

end QueryScaffold
