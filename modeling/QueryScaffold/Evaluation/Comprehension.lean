import QueryScaffold.Evaluation.Assignment

/-!
# Comprehensions

* `Eval.stream`: the items of a comprehension, one at a time;
* `Eval.advance`: the next item of a comprehension;
* `Eval.comprehend`: what a comprehension gives.

What the first clause takes its items from is evaluated outside of the comprehension, and all else
within a frame of its own. The iterations of the clauses stand inside one another.
-/

namespace QueryScaffold

/-- The clauses of a comprehension: whether a clause waits for its items, what they are called, where
they are from, and the conditions on them. -/
abbrev Clauses := List (Bool × Expression × Expression × List Expression)

namespace Eval

/-- All conditions hold. -/
def allHold (run : Interpreter) (place : Place) : List Expression → Eval Bool
  | [] => pure true
  | condition :: rest => do
    if (← run.evaluate place condition).isTruthy then allHold run place rest else return false

/-- The next item of a comprehension whose clauses are under way, and the iterations that are under
way after it; so many items of the clauses are gone through. -/
def advance (run : Interpreter) (place : Place) (element : Expression) (clauses : Clauses) :
    Nat → List Nat → Eval (Option Value × List Nat)
  | 0, _ => throw .endless
  | _, [] => pure (none, [])
  | limit + 1, number :: outer => do
    match ← run.next number, clauses[outer.length]? with
    | none, _ | _, none => advance run place element clauses limit outer
    | some item, some (_, target, _, conditions) =>
      assign run place target item
      if ← allHold run place conditions then
        match clauses[outer.length + 1]? with
        | none => return (some (← run.evaluate place element), number :: outer)
        | some (_, _, source, _) =>
          let inner ← Interpreter.iterationOf (← run.evaluate place source)
          advance run place element clauses limit (inner :: number :: outer)
      else advance run place element clauses limit (number :: outer)

/-- Goes through all items of a comprehension and does something with each. -/
def gather {α : Type} (run : Interpreter) (place : Place) (element : Expression)
    (clauses : Clauses) (add : α → Value → Eval α) : Nat → List Nat → α → Eval α
  | 0, _, _ => throw .endless
  | limit + 1, active, done => do
    match ← advance run place element clauses Interpreter.maxItems active with
    | (none, _) => return done
    | (some item, active) => gather run place element clauses add limit active (← add done item)

/-- The name of the code of a comprehension. -/
def comprehensionName : ComprehensionForm → Text
  | .list => "<listcomp>"
  | .set => "<setcomp>"
  | .dictionary => "<dictcomp>"
  | .stream => "<genexpr>"

/-- The kind of what a clause takes its items from, as messages give it: a list that is written there
is kept as a tuple. -/
def sourceKind (source : Expression) (value : Value) : Eval Text :=
  match source with
  | .list _ => return "tuple"
  | _ => kindName value

/-- What a comprehension gives. -/
def comprehend (run : Interpreter) (place : Place) (form : ComprehensionForm)
    (element : Expression) (value : Option Expression) (clauses : Clauses) : Eval Value := do
  match clauses with
  | [] => return .list []
  | (isWaiting, _, source, _) :: _ =>
    let first ← run.evaluate place source
    if isWaiting then
      refuseType (("'async for' requires an object with __aiter__ method, got " : Text) ++
        (← sourceKind source first))
    else
      let number ← Interpreter.iterationOf first
      let frame ← addFrame
        { name := Place.nameOf (← get) place (comprehensionName form)
          isFunction := false
          own := Expression.clauseNames clauses
          names := [] }
      let inside := place.within frame
      let all {α : Type} (element : Expression) (add : α → Value → Eval α) (start : α) : Eval α :=
        gather run inside element clauses add Interpreter.maxItems [number] start
      match form, value with
      | .stream, _ =>
        if clauses.any Prod.fst then
          return .other "async_generator" "<async_generator object <genexpr>>"
        else iterator "generator" (.stream inside element clauses [number])
      | .list, _ =>
        let items ← all element (fun done item => pure (item :: done)) []
        return .list items.reverse
      | .set, _ =>
        let items ← all element
          (fun done item => do
            checkFixed item
            return item :: done) []
        return .set false (← members items.reverse)
      | .dictionary, some value =>
        let put (entries : List (Value × Value)) : Value → Eval (List (Value × Value))
          | .tuple [key, value] => putEntry entries key value
          | _ => pure entries
        return .dictionary (← all (.tuple [element, value]) put [])
      | .dictionary, none => return .dictionary []

end Eval

end QueryScaffold
