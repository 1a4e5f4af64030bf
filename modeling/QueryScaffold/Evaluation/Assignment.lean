import QueryScaffold.Evaluation.Builtin

/-!
# Giving values to names

* `Eval.assign`: gives a target a value, which several targets may share;
* `Environment.rebind`: gives a name another value where it has one.

The items of a value are shared out in order. One target may take all items that the others leave.
-/

namespace QueryScaffold

namespace Environment

/-- The number of the frame in which a name has a value, from the innermost one on. -/
def frameOf? (env : Environment) (name : Text) (frames : List Nat) : Option Nat :=
  frames.find? fun number => (env.frames[number]?).any fun frame => frame.own.contains name

/-- The environment with another value for a name, in the place where the name has one. -/
def rebind (env : Environment) (place : Place) (name : Text) (value : Value) : Environment :=
  match env.frameOf? name place.frames with
  | some frame => env.giveIn frame name value
  | none =>
    let isOutside := place.frames.isEmpty && !place.shared.contains name
    match env.level, isOutside with
    | .classBody names, true =>
      if (names.find? name).isSome then env.giveOutside name value
      else { env with names := env.names.set name value }
    | .annotating _, true =>
      env.giveShared ((env.names.find? name).isSome || place.isHome) name value
    | _, _ => env.giveShared place.isHome name value

end Environment

namespace Eval

/-- The items of a value that are to be shared out. -/
def itemsToShare (run : Interpreter) (value : Value) : Eval (List Value) := do
  let kind ← kindName value
  tryCatch (run.items value) fun fault =>
    match fault with
    | .notPassedThrough _ =>
      refuseType (("cannot unpack non-iterable " : Text) ++ kind ++ (" object" : Text))
    | fault => throw fault

/-- The items as they are shared out among targets, of which one may take what the others leave. -/
def shares (targets : List Expression) (items : List Value) : Eval (List Value) :=
  let few (least : Text) (count : Nat) : Eval (List Value) :=
    refuseValue (("not enough values to unpack (expected " : Text) ++ least ++
      Text.ofNat count ++ (", got " : Text) ++ Text.ofNat items.length ++ (")" : Text))
  match targets.findIdx? Expression.isSpread with
  | none =>
    if items.length < targets.length then few [] targets.length
    else if targets.length < items.length then
      refuseValue (("too many values to unpack (expected " : Text) ++
        Text.ofNat targets.length ++ (")" : Text))
    else pure items
  | some place =>
    let behind := targets.length - place - 1
    if items.length < targets.length - 1 then few "at least " (targets.length - 1)
    else
      let taken := (items.drop place).take (items.length - behind - place)
      pure (items.take place ++ [Value.list taken] ++ items.drop (items.length - behind))

mutual

/-- Gives a target a value. -/
def assign (run : Interpreter) (place : Place) : Expression → Value → Eval Unit
  | .name n, value => do
    let env ← get
    match place.frames.head? with
    | some frame => set (env.giveIn frame n value)
    | none => set (env.giveOutside n value)
  | .spread target, value => assign run place target value
  | .tuple targets, value => do
    assignAll run place targets (← shares targets (← itemsToShare run value))
  | .list targets, value => do
    assignAll run place targets (← shares targets (← itemsToShare run value))
  | .part owner n, value => do
    let _ ← givePart (← run.evaluate place owner) n value
    return
  | _, _ => return

/-- Gives targets their values. -/
def assignAll (run : Interpreter) (place : Place) : List Expression → List Value → Eval Unit
  | target :: targets, value :: values => do
    assign run place target value
    assignAll run place targets values
  | _, _ => return

end

end Eval

end QueryScaffold
