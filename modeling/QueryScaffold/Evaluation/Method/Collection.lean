import QueryScaffold.Evaluation.Method.Argument
import QueryScaffold.Evaluation.Part

/-!
# The functions of collections

* `Eval.listMethod`, `Eval.setMethod`, `Eval.dictionaryMethod`: what a function of a collection
  gives, and the collection as it is afterwards;
* `Eval.indexOf`, `Eval.sorted`, `Eval.update`: looking a value up, bringing values in order, and
  taking entries over.
-/

namespace QueryScaffold

namespace Eval

/-! ## Items in an order -/

/-- The first place at which a value is among items, counted from a number on. -/
def placeOf (value : Value) : Nat → List Value → Eval (Option Nat)
  | _, [] => pure none
  | place, item :: rest => do
    if ← same item value then return some place else placeOf value (place + 1) rest

/-- The place of a value among items, between bounds that arguments give. -/
def indexOf (kind : Text) (items : List Value) (arguments : List (Option Value)) :
    Eval Value := do
  let value := (first? arguments).getD .null
  let bound (usual : Int) (given : Option Value) : Eval Nat := do
    match given with
    | none => return (Environment.placeOf items.length 0 items.length usual).toNat
    | some given =>
      match given.integer? with
      | some n => return (Environment.placeOf items.length 0 items.length n).toNat
      | none => refuseType "slice indices must be integers or have an __index__ method"
  let start ← bound 0 (second? arguments)
  let stop ← bound items.length (third? arguments)
  match ← placeOf value start ((items.take stop).drop start) with
  | some place => return .integer place
  | none =>
    if kind = ("list" : Text) then
      refuseValue ((← display value) ++ (" is not in list" : Text))
    else refuseValue (kind ++ (".index(x): x not in " : Text) ++ kind)

/-- How often a value is among items. -/
def countOfItem (value : Value) : List Value → Eval Nat
  | [] => pure 0
  | item :: rest => do
    let later ← countOfItem value rest
    return if ← same item value then later + 1 else later

/-- A value put into an order behind all that it is not less than; each value has a key. -/
def insertSorted (run : Interpreter) (entry : Value × Value) :
    List (Value × Value) → Eval (List (Value × Value))
  | [] => pure [entry]
  | first :: rest => do
    if ← isLess run entry.1 first.1 then return entry :: first :: rest
    else return first :: (← insertSorted run entry rest)

/-- Values with keys in the order of the keys. -/
def sortEntries (run : Interpreter) (entries : List (Value × Value)) :
    Eval (List (Value × Value)) :=
  entries.foldlM (fun done entry => insertSorted run entry done) []

/-- Values in order, by what a function makes of each; the order may be the opposite one. -/
def sorted (run : Interpreter) (place : Place) (values : List Value)
    (key reverse : Option Value) : Eval (List Value) := do
  let entries ← values.mapM fun value =>
    match key.getD .null with
    | .constant .null => pure (value, value)
    | function => do return (← run.call place function { places := [value] }, value)
  let isReversed := (← countOr 0 reverse) ≠ 0
  let ordered ← sortEntries run (if isReversed then entries.reverse else entries)
  let found := ordered.map Prod.snd
  return if isReversed then found.reverse else found

/-- The place among so many items that an argument gives, counted from the end if it is negative. -/
def placeAmong (length : Nat) (value : Value) : Eval (Option Nat) := do
  let n ← countOf value
  let index := if n < 0 then n + length else n
  return if 0 ≤ index && index < length then some index.toNat else none

/-- What a function of a list gives. -/
def listMethod (run : Interpreter) (place : Place) (items : List Value) (name : Text)
    (arguments : List (Option Value)) : Eval Outcome := do
  let is (other : String) : Bool := name = Text.ofString other
  let first := (first? arguments).getD .null
  let changed (items : List Value) : Eval Outcome :=
    return { result := .null, changed := some (.list items) }
  if is "append" then changed (items ++ [first])
  else if is "extend" then changed (items ++ (← run.items first))
  else if is "clear" then changed []
  else if is "reverse" then changed items.reverse
  else if is "copy" then return { result := .list items }
  else if is "count" then return { result := .integer (← countOfItem first items) }
  else if is "index" then return { result := ← indexOf "list" items arguments }
  else if is "remove" then
    match ← placeOf first 0 items with
    | some n => changed (items.eraseIdx n)
    | none => refuseValue "list.remove(x): x not in list"
  else if is "insert" then
    let n := (Environment.placeOf items.length 0 items.length (← countOf first)).toNat
    changed (items.take n ++ [(second? arguments).getD .null] ++ items.drop n)
  else if is "pop" then
    let asked := (first? arguments).getD (.integer (-1))
    if items.isEmpty then
      let _ ← countOf asked
      refuse "IndexError" "pop from empty list"
    else
      match ← placeAmong items.length asked with
      | some n =>
        return { result := (items[n]?).getD .null, changed := some (.list (items.eraseIdx n)) }
      | none => refuse "IndexError" "pop index out of range"
  else if is "sort" then
    changed (← sorted run place items (Eval.first? arguments) (second? arguments))
  else return { result := .null }

/-! ## Sets -/

/-- The values of an argument, which a set takes over. -/
def memberItems (run : Interpreter) (value : Value) : Eval (List Value) := do
  members (← run.items value)

/-- What a function of a set gives. -/
def setMethod (run : Interpreter) (isFrozen : Bool) (items : List Value) (name : Text)
    (arguments : List (Option Value)) : Eval Outcome := do
  let is (other : String) : Bool := name = Text.ofString other
  let first := (first? arguments).getD .null
  let given (items : List Value) : Eval Outcome := do
    return { result := .set isFrozen (← members items) }
  let changed (items : List Value) : Eval Outcome := do
    return { result := .null, changed := some (.set isFrozen (← members items)) }
  let combine (operator : Operator) : Eval (List Value) :=
    arguments.foldlM (fun done argument => do
      let others ← memberItems run (argument.getD .null)
      return (combined? operator done others).getD done) items
  if is "copy" then given items
  else if is "clear" then changed []
  else if is "add" then do
    checkFixed first
    changed (items ++ [first])
  else if is "discard" || is "remove" then do
    let found ← isAmongFixed first items
    if found then changed (keep false [first] items)
    else if is "remove" then throw (.noKey first.display)
    else changed items
  else if is "pop" then
    match items with
    | [] => throw (.noKey (Text.quote "pop from an empty set"))
    | item :: rest => return { result := item, changed := some (.set isFrozen rest) }
  else if is "union" then given (← combine .bar)
  else if is "intersection" then given (← combine .ampersand)
  else if is "difference" then given (← combine .minus)
  else if is "symmetric_difference" then given (← combine .caret)
  else if is "update" then changed (← combine .bar)
  else if is "intersection_update" then changed (← combine .ampersand)
  else if is "difference_update" then changed (← combine .minus)
  else if is "symmetric_difference_update" then changed (← combine .caret)
  else
    let others ← memberItems run first
    let truth (found : Option Bool) : Eval Outcome :=
      return { result := .truth (found.getD false) }
    if is "isdisjoint" then truth (some (keep true others items).isEmpty)
    else if is "issubset" then truth (compareSets? .atMost items others)
    else truth (compareSets? .atLeast items others)

/-! ## Dictionaries -/

/-- The entry that an item of a list is, which has to have two items itself. -/
def entryOfItem (run : Interpreter) (place : Nat) (item : Value) : Eval (Value × Value) := do
  let parts ← match item.items? with
    | some parts => pure parts
    | none =>
      match item with
      | .iterator _ _ => run.items item
      | _ =>
        refuseType (("cannot convert dictionary update sequence element #" : Text) ++
          Text.ofNat place ++ (" to a sequence" : Text))
  match parts with
  | [key, value] => return (key, value)
  | parts => throw (.making (.notPair place parts.length))

/-- The entries of a dictionary with those of a value put over them: of a dictionary, or of a list of
pairs. -/
def update (run : Interpreter) (entries : List (Value × Value)) (source : Value) :
    Eval (List (Value × Value)) := do
  match source.entries? with
  | some others => putEntries entries others
  | none =>
    let items ← run.items source
    let pairs ← items.zipIdx.mapM fun (item, place) => entryOfItem run place item
    putEntries entries pairs

/-- The entries that arguments with names are. -/
def namedEntries (arguments : CallArguments) : List (Value × Value) :=
  arguments.named.map fun (name, value) => (.text name, value)

/-- The entries of a dictionary with those of arguments put over them. -/
def updateAll (run : Interpreter) (className : Text) (entries : List (Value × Value))
    (arguments : CallArguments) : Eval (List (Value × Value)) := do
  match arguments.places with
  | [] => putEntries entries (namedEntries arguments)
  | [source] => putEntries (← update run entries source) (namedEntries arguments)
  | places => throw (.making (.count className "at most" 1 places.length))

/-- A dictionary with the items of a value as keys. -/
def fromKeys (run : Interpreter) (arguments : List (Option Value)) : Eval Value := do
  let keys ← run.items ((first? arguments).getD .null)
  return .dictionary
    (← putEntries [] (keys.map fun key => (key, (second? arguments).getD .null)))

/-- What a function of a dictionary gives. -/
def dictionaryMethod (run : Interpreter) (entries : List (Value × Value)) (name : Text)
    (given : CallArguments) (arguments : List (Option Value)) : Eval Outcome := do
  let is (other : String) : Bool := name = Text.ofString other
  let first := (first? arguments).getD .null
  let fallback := second? arguments
  let without (key : Value) : List (Value × Value) :=
    entries.filter fun entry => !entry.1.same key
  if is "keys" then return { result := .view "dict_keys" (entries.map Prod.fst) }
  else if is "values" then return { result := .view "dict_values" (entries.map Prod.snd) }
  else if is "items" then
    return { result := .view "dict_items" (entries.map fun (k, v) => .tuple [k, v]) }
  else if is "copy" then return { result := .dictionary entries }
  else if is "clear" then return { result := .null, changed := some (.dictionary []) }
  else if is "get" then return { result := ((← entry? entries first).or fallback).getD .null }
  else if is "setdefault" then
    match ← entry? entries first with
    | some value => return { result := value }
    | none =>
      let value := fallback.getD .null
      return { result := value, changed := some (.dictionary (entries ++ [(first, value)])) }
  else if is "pop" then
    let found ← if entries.isEmpty then pure none else entry? entries first
    match found, fallback with
    | some value, _ => return { result := value, changed := some (.dictionary (without first)) }
    | none, some value => return { result := value }
    | none, none => throw (.noKey first.display)
  else if is "popitem" then
    match entries.getLast? with
    | some (key, value) =>
      return { result := .tuple [key, value], changed := some (.dictionary entries.dropLast) }
    | none => throw (.noKey (Text.quote "popitem(): dictionary is empty"))
  else if is "update" then
    let entries ← updateAll run "update" entries given
    return { result := .null, changed := some (.dictionary entries) }
  else if is "fromkeys" then return { result := ← fromKeys run arguments }
  else return { result := .null }

end Eval

end QueryScaffold
