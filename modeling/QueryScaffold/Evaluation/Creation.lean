import QueryScaffold.Evaluation.Bracket

/-!
# Making classes

* `ClassPlan`: what a class is to be made from;
* `Eval.basesOf`: the classes that values stand for as bases of a class;
* `Eval.createClass`: the class that comes of a plan.

A base that is a type in brackets stands for the class before the brackets. A new class is kept with
a number, so that it is told from all others.
-/

namespace QueryScaffold

/-- What a class is to be made from. -/
structure ClassPlan where
  name : Text
  /-- The bases as they are written. -/
  written : List Value
  /-- What they stand for. -/
  bases : List Value
  members : NameTable
  functions : List (Text × ClassFunction) := []

namespace Environment

/-! ## What the bases stand for -/

/-- A class is generic, or nothing of the kind is known. -/
def isGenericClass (env : Environment) (ref : ClassRef) : Bool :=
  (env.class? ref).any fun c => c.isA .generic

/-- Some base after a form makes the class generic. -/
def followedByGeneric (env : Environment) : List Value → Except CreationFault Bool
  | [] => .ok false
  | base :: rest =>
    if base.isGenericType then .ok true
    else
      match base with
      | .ofClass ref | .apply (.collection ref) _ =>
        if env.isGenericClass ref then .ok true else env.followedByGeneric rest
      | _ => .error .noClass

/-- The bases that a form for a class gives, in brackets or without. -/
def basesOfForm (env : Environment) (written : List Value) (base : Value) (origin : ClassRef) :
    Except CreationFault (List Value) :=
  let later := (written.dropWhile fun other => !other.same base).drop 1
  let own := if written.any (Value.same (.ofClass origin)) then [] else [Value.ofClass origin]
  match env.followedByGeneric later with
  | .ok true => .ok own
  | .ok false => .ok (own ++ [.ofClass .generic])
  | .error fault => .error fault

/-- The bases that a base stands for, among all that are written. -/
def basesOf (env : Environment) (written : List Value) (base : Value) :
    Except CreationFault (List Value) :=
  match base with
  | .form f | .apply (.form f) _ =>
    match f.origin? with
    | some origin => env.basesOfForm written base origin
    | none => .error (.formAsBase base.display)
  | .union false _ => .error (.formAsBase base.display)
  | .apply (.generic ref) _ =>
    let later := (written.dropWhile fun other => !other.same base).drop 1
    if ref = .generic && later.any fun other => other.isGenericType && !other.same base then .ok []
    else .ok [.ofClass ref]
  | .apply (.collection ref) _ => .ok [.ofClass ref]
  | .remarked inner _ => .ok [inner]
  | base => .ok [base]

/-- The kind of a class with these bases: the most special one of theirs. -/
def kindOfBases (env : Environment) (bases : List Value) : Except CreationFault Text :=
  let kinds := bases.map env.kindName
  Class.kindOfBases kinds (kinds.headD Metaclass.type.name)

/-! ## Keeping instances -/

/-- The way of keeping instances is a special form of another one. -/
def isLayoutOf (env : Environment) (layout other : ClassRef) : Bool :=
  (env.class? layout).any fun c => c.isA other

/-- The way in which the instances of a class with these bases are kept, and the base that fixes
it. -/
def layoutOf (env : Environment) (first : Class) (others : List Class) :
    Except CreationFault (Class × ClassRef) :=
  if first.body.heritage = .final then .error (.finalBase first.name)
  else
    others.foldlM
      (fun (winner, layout) base =>
        if base.body.heritage = .final then .error (.finalBase base.name)
        else if env.isLayoutOf layout base.layout then .ok (winner, layout)
        else if env.isLayoutOf base.layout layout then .ok (base, base.layout)
        else .error .mixedLayouts)
      (first, first.layout)

end Environment

/-- The namespace that a value gives to a class. -/
def CodeNamespace.ofValue : Value → CodeNamespace
  | .constant (.text name) => .named name
  | value => .shown value.plainText

/-- The namespace that the attributes of a class give to it. -/
def CodeNamespace.ofMembers (members : NameTable) : CodeNamespace :=
  match members.find? "__module__" with
  | some value => .ofValue value
  | none => .unsaid

namespace Eval

/-- What a class gives its instances, as a value. -/
def slotValue (className name : Text) : Value :=
  .other "getset_descriptor" (Value.inAngles (("attribute '" : Text) ++ name ++ ("' of '" : Text) ++
    className ++ ("' objects" : Text)))

/-- The names with a value for a name that has none. -/
def giveMissing (name : Text) (value : Value) (names : NameTable) : NameTable :=
  if (names.find? name).isSome then names else names ++ [(name, value)]

/-- The attributes that a class has, those that its body gives it before others. -/
def allMembers (plan : ClassPlan) (base : ClassBody) : NameTable :=
  let slots (name : Text) (isThere : Bool) : NameTable :=
    if isThere then [] else [(name, slotValue plan.name name)]
  let written : NameTable :=
    if plan.written.any Value.standsForBases then [("__orig_bases__", .tuple plan.written)] else []
  giveMissing "__doc__" .null
    (plan.members ++ written ++ slots "__dict__" base.keepsAttributes ++
      slots "__weakref__" base.keepsMarks)

/-- The attributes of a class that is only there to be inherited from. -/
def abstractMembers (c : Class) : NameTable :=
  if c.metaclass = .abstract then
    [("__abstractmethods__", .set true (c.missingMethods.map Value.text)),
      ("_abc_impl", .other "_abc_data" "<_abc._abc_data object>")]
  else []

/-- The bases as classes. A class of which nothing more is known refuses to be one. -/
def baseClasses (bases : List Value) : Eval (List Class) := do
  let env ← get
  (bases.filterMap Value.class?).mapM fun ref =>
    match env.class? ref with
    | some c => pure c
    | none => throw (.creation (.finalBase ref.name))

/-- The class that comes of a plan. -/
def classOf (env : Environment) (plan : ClassPlan) (bases : List Class) :
    Except CreationFault Class := do
  let first := bases.headD objectClass
  let (base, layout) ← env.layoutOf first (bases.drop 1)
  let inherited ← Class.inheritedFrom (if bases.isEmpty then [objectClass] else bases)
  let space := CodeNamespace.ofMembers plan.members
  let ref := ClassRef.declared env.load env.nextClass space plan.name
  let parameters ← Class.typeVariables space.text plan.written inherited
  let generic : NameTable := parameters.toList.map fun names =>
    ("__parameters__", .tuple (names.map Value.variable))
  let members := allMembers plan base.body ++ generic
  let body : ClassBody :=
    { ref, members
      parameters := parameters.getD []
      functions := plan.functions
      maker := none
      initializer := (plan.members.find? "__init__").map Initializer.call
      methods := plan.members.map fun member => (member.1, false)
      bases := if bases.isEmpty then [.object] else bases.map Class.ref
      base := some base.ref }
  let c : Class := ⟨body, inherited, layout⟩
  return { c with body := { body with members := members ++ abstractMembers c } }

/-- Keeps the class that comes of a plan, whose bases are classes. -/
def createClass (plan : ClassPlan) : Eval Value := do
  let bases ← baseClasses plan.bases
  let env ← get
  match classOf env plan bases with
  | .error fault => throw (.creation fault)
  | .ok c =>
    set { env with classes := env.classes ++ [c], nextClass := env.nextClass + 1 }
    return .ofClass c.ref

end Eval

end QueryScaffold
