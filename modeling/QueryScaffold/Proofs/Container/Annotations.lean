import Mathlib.Data.List.Induction
import QueryScaffold.Container.Sample
import QueryScaffold.Proofs.Container.Reading

/-!
# The accessors that annotations give

The attributes of a container come from a walk through its classes, from the farthest to its own, on
which the annotations of each class are resolved one after the other. A name may be annotated many
times on the way.

* `lastValues`: names stand in the order of their first places, `map_fst_lastValues`, each with its
  last value, `mem_lastValues_iff`;
* `Scope.annotationWalk`: what the annotations come to, and where the walk stops;
* `Scope.AnnotationFault`: the faults of annotations that cannot be resolved;
* `Scope.Lists`: the accessors that the classes of a container list;
* `Scope.accessors_exact`: **if annotations only fail since names are missing, then either one fails
  and this is said of the container, or its accessors are those that its classes list**.

What resolves one annotation is taken as it is; the lemmas are on where each attribute ends up.
-/

namespace QueryScaffold

/-! ## Last values -/

section LastValues

variable {α : Type}

/-- The value is the last one that a name is given. -/
def IsLast (named : List (Text × α)) (name : Text) (value : α) : Prop :=
  ∃ front back, named = front ++ (name, value) :: back ∧ name ∉ back.map Prod.fst

theorem isLast_append_singleton_iff {named : List (Text × α)} {entry : Text × α} {name : Text}
    {value : α} :
    IsLast (named ++ [entry]) name value ↔
      entry = (name, value) ∨ (entry.1 ≠ name ∧ IsLast named name value) := by
  constructor
  · rintro ⟨front, back, hsplit, hlast⟩
    rcases List.eq_nil_or_concat back with rfl | ⟨before, last, rfl⟩
    · exact .inl (List.append_inj_right' hsplit rfl |> List.singleton_inj.1)
    · rw [List.concat_eq_append, ← List.cons_append, ← List.append_assoc] at hsplit
      obtain ⟨rfl, hentry⟩ := List.append_inj' hsplit rfl
      obtain rfl := List.singleton_inj.1 hentry
      simp only [List.concat_eq_append, List.map_append, List.mem_append, not_or, List.map_cons,
        List.map_nil, List.mem_singleton] at hlast
      exact .inr ⟨Ne.symm hlast.2, front, before, rfl, hlast.1⟩
  · rintro (rfl | ⟨hne, front, back, rfl, hlast⟩)
    · exact ⟨named, [], rfl, List.not_mem_nil⟩
    · refine ⟨front, back ++ [entry], by simp, ?_⟩
      simp [hlast, Ne.symm hne]

theorem lastValues_append_singleton (named : List (Text × α)) (entry : Text × α) :
    lastValues (named ++ [entry]) = putNamed entry.1 entry.2 (lastValues named) := by
  rw [lastValues, List.foldl_append]
  rfl

/-- The names stand in the order of their first places. -/
theorem map_fst_lastValues (named : List (Text × α)) :
    (lastValues named).map Prod.fst = (named.map Prod.fst).eraseDups := by
  induction named using List.reverseRecOn with
  | nil => rfl
  | append_singleton named entry ih =>
    rw [lastValues_append_singleton, map_fst_putNamed, ih, List.map_append, List.eraseDups_append]
    by_cases hold : entry.1 ∈ named.map Prod.fst
    · rw [if_pos (List.mem_eraseDups.2 hold)]
      simp [List.removeAll, hold]
    · rw [if_neg fun h => hold (List.mem_eraseDups.1 h)]
      simp [List.removeAll, hold, List.eraseDups_cons]

/-- What stands under different names after one of them is given a value. -/
theorem mem_putNamed_iff {named : List (Text × α)} (h : (named.map Prod.fst).Nodup)
    {name other : Text} {value found : α} :
    (other, found) ∈ putNamed name value named ↔
      (other = name ∧ found = value) ∨ (other ≠ name ∧ (other, found) ∈ named) := by
  induction named with
  | nil => simp [putNamed]
  | cons entry rest ih =>
    obtain ⟨first, earlier⟩ := entry
    obtain ⟨hnew, hrest⟩ := List.nodup_cons.1 h
    have hnot : ∀ v : α, (first, v) ∉ rest := fun v hmem => hnew (List.mem_map.2 ⟨_, hmem, rfl⟩)
    rw [putNamed]
    split
    · next hsame =>
      subst hsame
      grind
    · next hne =>
      rw [List.mem_cons, ih hrest, List.mem_cons]
      grind

/-- Each name stands there with its last value. -/
theorem mem_lastValues_iff {named : List (Text × α)} {name : Text} {value : α} :
    (name, value) ∈ lastValues named ↔ IsLast named name value := by
  induction named using List.reverseRecOn with
  | nil => simp [lastValues, IsLast]
  | append_singleton named entry ih =>
    rw [lastValues_append_singleton, mem_putNamed_iff (nodup_lastValues named), ih,
      isLast_append_singleton_iff]
    grind

theorem IsLast.unique {named : List (Text × α)} {name : Text} {value other : α}
    (h : IsLast named name value) (hother : IsLast named name other) : value = other := by
  have hsame := List.inj_on_of_nodup_map (nodup_lastValues named) (mem_lastValues_iff.2 h)
    (mem_lastValues_iff.2 hother) rfl
  exact (Prod.mk.inj hsame).2

end LastValues

/-! ## Records of a walk -/

/-- What stands on a record of a walk whose outcome this is: a value for each step, and at the end
the fault at which it stopped. -/
def Records {α : Type} (record : List (Except CodeFault α)) : Except CodeFault (List α) → Prop
  | .ok values => record = values.map .ok
  | .error fault => ∃ values : List α, record = values.map .ok ++ [.error fault]

namespace Records

variable {α : Type} {record later : List (Except CodeFault α)}
  {outcome : Except CodeFault (List α)} {fault : CodeFault}

theorem stopped (fault : CodeFault) : Records [.error fault] (.error fault : Except _ (List α)) :=
  ⟨[], rfl⟩

theorem append {values : List α} (hrecord : Records record (.ok values))
    (hlater : Records later outcome) :
    Records (record ++ later) (outcome.map (values ++ ·)) := by
  subst hrecord
  cases outcome with
  | ok others =>
    subst hlater
    exact (List.map_append ..).symm
  | error fault =>
    obtain ⟨others, rfl⟩ := hlater
    exact ⟨values ++ others, by simp⟩

theorem cons (value : α) (hlater : Records later outcome) :
    Records (.ok value :: later) (outcome.map (value :: ·)) :=
  append (show Records [.ok value] (.ok [value]) from rfl) hlater

/-- A fault is on the record only if the walk stopped at it. -/
theorem eq_error_of_mem (h : Records record outcome) (hfault : .error fault ∈ record) :
    outcome = .error fault := by
  cases outcome with
  | ok values =>
    subst h
    simp at hfault
  | error stop =>
    obtain ⟨values, rfl⟩ := h
    have hsame : fault = stop := by simpa using hfault
    rw [hsame]

theorem mem_of_eq_error (h : Records record (.error fault)) : .error fault ∈ record := by
  obtain ⟨values, rfl⟩ := h
  exact List.mem_append_right _ (List.mem_singleton_self _)

end Records

/-! ## Code on one value after the other -/

namespace Eval

variable {α β : Type}

/-- What code gives for values one after the other, up to the first for which it fails. -/
def record (code : α → Eval β) : List α → Environment → List (Except CodeFault β)
  | [], _ => []
  | value :: rest, env =>
    match (code value).run.run env with
    | (.ok given, after) => .ok given :: record code rest after
    | (.error fault, _) => [.error fault]

theorem records_mapM (code : α → Eval β) (values : List α) (env : Environment) :
    Records (record code values env) ((values.mapM code).run.run env).1 := by
  induction values generalizing env with
  | nil => rfl
  | cons value rest ih =>
    rw [outcome_mapM_cons, record]
    rcases (code value).run.run env with ⟨_ | given, after⟩
    · exact .stopped _
    · exact .cons given (ih after)

end Eval

/-- The results of checks that all pass are what values pass with. -/
theorem mem_iff_of_forall₂ {ε α β : Type} {check : α → Except ε β} {values : List α}
    {results : List β}
    (h : List.Forall₂ (fun value result => check value = .ok result) values results) {given : β} :
    given ∈ results ↔ ∃ value ∈ values, check value = .ok given := by
  induction h with
  | nil => simp
  | @cons value result rest others hvalue _ ih =>
    rw [List.mem_cons, ih, List.exists_mem_cons_iff, hvalue, Except.ok.injEq, eq_comm]

theorem ne_error_of_forall₂ {ε α β : Type} {check : α → Except ε β} {values : List α}
    {results : List β}
    (h : List.Forall₂ (fun value result => check value = .ok result) values results) {value : α}
    (hvalue : value ∈ values) (fault : ε) : check value ≠ .error fault := by
  induction h with
  | nil => cases hvalue
  | cons hfirst _ ih =>
    rcases List.mem_cons.1 hvalue with rfl | hlater
    · simp [hfirst]
    · exact ih hlater

/-! ## The walk through the classes -/

/-- The type of an annotation under the name of its attribute. -/
def Eval.annotationType (named : Text × Value) : Eval (Text × Value) := do
  return (named.1, ← resolve named.2)

theorem Eval.run_annotationType (named : Text × Value) (env : Environment) :
    (annotationType named).run.run env =
      match (resolve named.2).run.run env with
      | (.ok type, after) => (.ok (named.1, type), after)
      | (.error fault, after) => (.error fault, after) := by
  rw [annotationType, run_bind]
  rcases (resolve named.2).run.run env with ⟨_ | _, _⟩ <;> rfl

/-- Types that annotations all come to stand under the names of these. -/
theorem Eval.map_fst_of_record {annotations types : List (Text × Value)} {env : Environment}
    (h : record annotationType annotations env = types.map .ok) :
    types.map Prod.fst = annotations.map Prod.fst := by
  induction annotations generalizing types env with
  | nil => rw [List.map_eq_nil_iff.1 h.symm]
  | cons named rest ih =>
    rw [record, run_annotationType] at h
    rcases hrun : (resolve named.2).run.run env with ⟨fault | type, after⟩ <;> rw [hrun] at h
    · cases types <;> cases h
    · obtain ⟨first, later, rfl, hfirst, hlater⟩ := List.map_eq_cons_iff.1 h.symm
      rw [List.map_cons, List.map_cons, ih hlater.symm, Except.ok.inj hfirst]

namespace Workspace

variable (home : ContainerModule) (workspace : Workspace) (body : ClassBody)

/-- Where the annotations of a class are resolved, if the module of the class can be told. -/
def annotationEnvironment : Except CodeFault Environment :=
  (workspace.moduleOf body).map fun found =>
    let attributes := body.members.set "__builtins__" (Eval.dictionaryOf builtinNames)
    let env := match found with
      | some m => (workspace.current m).environment (workspace.memory.ofLoad m.number)
      | none => { home with names := [] }.environment (workspace.memory.ofLoad home.number)
    { env with level := .annotating attributes }

/-- What the annotations of a class come to one after the other, up to the first that cannot be
resolved. That the module of the class cannot be told counts as one. -/
def classWalk : List (Except CodeFault (Text × Value)) :=
  match annotationEnvironment home workspace body with
  | .ok env => Eval.record Eval.annotationType body.annotations env
  | .error fault => [.error fault]

/-- The same for the annotations of classes, each in what those before it leave. -/
def annotationWalk (home : ContainerModule) :
    Workspace → List ClassBody → List (Except CodeFault (Text × Value))
  | _, [] => []
  | workspace, body :: rest =>
    let first := workspace.resolve home body
    match first.result with
    | .ok _ => classWalk home workspace body ++ annotationWalk home first.workspace rest
    | .error _ => classWalk home workspace body

theorem records_resolve :
    Records (classWalk home workspace body) (workspace.resolve home body).result := by
  rw [classWalk, annotationEnvironment, resolve]
  rcases workspace.moduleOf body with fault | _ | m
  · exact .stopped fault
  · exact Eval.records_mapM ..
  · exact Eval.records_mapM ..

theorem records_resolveAll (bodies : List ClassBody) :
    Records (annotationWalk home workspace bodies) (resolveAll home workspace bodies).result := by
  induction bodies generalizing workspace with
  | nil => rfl
  | cons body rest ih =>
    have hfirst := records_resolve home workspace body
    rw [annotationWalk, resolveAll]
    cases hresult : (workspace.resolve home body).result with
    | error fault => rwa [hresult] at hfirst
    | ok types =>
      rw [hresult] at hfirst
      exact hfirst.append (ih _)

/-- The types of the annotations of a class stand under the names of its attributes. -/
theorem map_fst_of_resolve {types : List (Text × Value)}
    (h : (workspace.resolve home body).result = .ok types) :
    types.map Prod.fst = body.annotations.map Prod.fst := by
  have hrecords := records_resolve home workspace body
  rw [h, classWalk] at hrecords
  cases henv : annotationEnvironment home workspace body with
  | error fault =>
    rw [henv] at hrecords
    cases types <;> cases hrecords
  | ok env =>
    rw [henv] at hrecords
    exact Eval.map_fst_of_record hrecords

theorem map_fst_of_resolveAll {bodies : List ClassBody} {types : List (Text × Value)}
    (h : (resolveAll home workspace bodies).result = .ok types) :
    types.map Prod.fst = bodies.flatMap fun body => body.annotations.map Prod.fst := by
  induction bodies generalizing workspace types with
  | nil =>
    rw [← Except.ok.inj h]
    rfl
  | cons body rest ih =>
    rw [resolveAll] at h
    cases hfirst : (workspace.resolve home body).result with
    | error fault =>
      rw [hfirst] at h
      cases h
    | ok first =>
      rw [hfirst] at h
      cases hlater : (resolveAll home (workspace.resolve home body).workspace rest).result with
      | error fault =>
        simp only [hlater] at h
        cases h
      | ok later =>
        simp only [hlater] at h
        obtain rfl := Except.ok.inj h
        rw [List.map_append, map_fst_of_resolve home workspace body hfirst, ih _ hlater]
        rfl

end Workspace

/-! ## Attributes and their types -/

namespace Scope

variable {scope : Scope} {workspace : Workspace}

/-- What the annotations of the classes of the container come to one after the other, from the
farthest class to its own, up to the first that cannot be resolved. -/
def annotationWalk (scope : Scope) (workspace : Workspace) :
    List (Except CodeFault (Text × Value)) :=
  Workspace.annotationWalk scope.home workspace (scope.lineage workspace)

/-- Where remarks are left out of the types, when all of them are there. -/
def remarkEnvironment (scope : Scope) (workspace : Workspace) : Environment :=
  let resolved := (Workspace.resolveAll scope.home workspace (scope.lineage workspace)).workspace
  (resolved.current scope.home).environment (resolved.memory.ofLoad scope.number)

/-- The types that the attributes have before remarks are left out, in the order of the walk. -/
def WalksTo (scope : Scope) (workspace : Workspace) (types : List (Text × Value)) : Prop :=
  scope.annotationWalk workspace = types.map .ok

/-- An annotation of the container fails with a fault. -/
inductive AnnotationFault (scope : Scope) (workspace : Workspace) : CodeFault → Prop
  /-- It cannot be resolved. -/
  | unresolved {fault : CodeFault} (hwalk : .error fault ∈ scope.annotationWalk workspace) :
    AnnotationFault scope workspace fault
  /-- Its remarks cannot be left out. -/
  | remarked {types : List (Text × Value)} {name : Text} {type : Value} {fault : CodeFault}
    (hwalk : scope.WalksTo workspace types) (hlast : IsLast types name type)
    (hstrip : (scope.remarkEnvironment workspace).strip type = .error fault) :
    AnnotationFault scope workspace fault

/-- A type without remarks is the one that the container annotates an attribute with last: the
class nearest to its own that annotates the attribute has this type for it. -/
def HasType (scope : Scope) (workspace : Workspace) (name : Text) (type : Value) : Prop :=
  ∃ types written, scope.WalksTo workspace types ∧ IsLast types name written ∧
    (scope.remarkEnvironment workspace).strip written = .ok type

/-- The names of the attributes that classes annotate, each at its first place. -/
def attributeNames (bodies : List ClassBody) : List Text :=
  (bodies.flatMap fun body => body.annotations.map Prod.fst).eraseDups

/-- How the attributes come of the walk and of the types without remarks. -/
theorem result_attributes (scope : Scope) (workspace : Workspace) :
    (scope.attributes workspace).result =
      match (Workspace.resolveAll scope.home workspace (scope.lineage workspace)).result with
      | .error fault => .error (scope.annotationFailure fault)
      | .ok types =>
        ((lastValues types).mapM (withoutRemark (scope.remarkEnvironment workspace))).mapError
          scope.annotationFailure := by
  rw [attributes, Transition.andThen, Transition.ofEffect]
  cases (Workspace.resolveAll scope.home workspace (scope.lineage workspace)).result with
  | error fault => rfl
  | ok types => exact congrArg (Except.mapError scope.annotationFailure) (result_withoutRemarks ..)

theorem WalksTo.unique {types others : List (Text × Value)} (h : scope.WalksTo workspace types)
    (hothers : scope.WalksTo workspace others) : types = others :=
  List.map_injective_iff.2 (fun _ _ => Except.ok.inj) (h.symm.trans hothers)

/-- A walk to the end has met no fault. -/
theorem WalksTo.notMem {types : List (Text × Value)} (h : scope.WalksTo workspace types)
    (fault : CodeFault) : .error fault ∉ scope.annotationWalk workspace := by
  rw [h]
  simp

theorem HasType.unique {name : Text} {type other : Value} (h : scope.HasType workspace name type)
    (hother : scope.HasType workspace name other) : type = other := by
  obtain ⟨types, written, hwalk, hlast, hstrip⟩ := h
  obtain ⟨others, last, hothers, hsame, hagain⟩ := hother
  obtain rfl := hwalk.unique hothers
  obtain rfl := hlast.unique hsame
  exact Except.ok.inj (hstrip.symm.trans hagain)

section Walked

variable {types attributes : List (Text × Value)}

/-- Where a walk has come to its end and no remark is in the way, attributes stand with their
types. -/
theorem mem_iff_hasType (hwalk : scope.WalksTo workspace types)
    (hattributes : List.Forall₂ (fun named result =>
      withoutRemark (scope.remarkEnvironment workspace) named = .ok result) (lastValues types)
        attributes) {name : Text} {type : Value} :
    (name, type) ∈ attributes ↔ scope.HasType workspace name type := by
  rw [mem_iff_of_forall₂ hattributes]
  constructor
  · rintro ⟨⟨other, written⟩, hlast, hgiven⟩
    obtain ⟨rfl, hstrip⟩ := withoutRemark_eq_ok_iff.1 hgiven
    exact ⟨types, written, hwalk, mem_lastValues_iff.1 hlast, hstrip⟩
  · rintro ⟨others, written, hothers, hlast, hstrip⟩
    obtain rfl := hothers.unique hwalk
    exact ⟨(name, written), mem_lastValues_iff.2 hlast, withoutRemark_eq_ok_iff.2 ⟨rfl, hstrip⟩⟩

theorem not_annotationFault_of_walk (hwalk : scope.WalksTo workspace types)
    (hattributes : List.Forall₂ (fun named result =>
      withoutRemark (scope.remarkEnvironment workspace) named = .ok result) (lastValues types)
        attributes) (fault : CodeFault) : ¬ scope.AnnotationFault workspace fault := by
  intro hfault
  cases hfault with
  | unresolved hfault => exact hwalk.notMem fault hfault
  | remarked hothers hlast hstrip =>
    obtain rfl := hothers.unique hwalk
    exact ne_error_of_forall₂ hattributes (mem_lastValues_iff.2 hlast) fault
      (withoutRemark_eq_error_iff.2 hstrip)

end Walked

/-- The attributes have the types that belong to them, or else the first annotation that fails
decides. -/
theorem attributes_cases (scope : Scope) (workspace : Workspace) :
    (∃ attributes, (scope.attributes workspace).result = .ok attributes ∧
      (∀ fault, ¬ scope.AnnotationFault workspace fault) ∧
      attributes.map Prod.fst = attributeNames (scope.lineage workspace) ∧
      ∀ name type, (name, type) ∈ attributes ↔ scope.HasType workspace name type) ∨
    ∃ fault, scope.AnnotationFault workspace fault ∧
      (scope.attributes workspace).result = .error (scope.annotationFailure fault) := by
  have hrecords : Records (scope.annotationWalk workspace) _ :=
    Workspace.records_resolveAll scope.home workspace (scope.lineage workspace)
  rw [result_attributes]
  cases hresult : (Workspace.resolveAll scope.home workspace (scope.lineage workspace)).result with
  | error fault =>
    rw [hresult] at hrecords
    exact .inr ⟨fault, .unresolved hrecords.mem_of_eq_error, rfl⟩
  | ok types =>
    rw [hresult] at hrecords
    have hwalk : scope.WalksTo workspace types := hrecords
    rcases mapM_except_cases (withoutRemark (scope.remarkEnvironment workspace))
        (lastValues types) with ⟨attributes, hall, hattributes⟩ |
        ⟨front, ⟨name, type⟩, back, -, fault, hsplit, -, hstrip, hall⟩
    · refine .inl ⟨attributes, by simp only [hall]; rfl,
        not_annotationFault_of_walk hwalk hattributes, ?_,
        fun _ _ => mem_iff_hasType hwalk hattributes⟩
      rw [attributeNames, ← Workspace.map_fst_of_resolveAll _ _ hresult, ← map_fst_lastValues]
      exact map_fst_of_withoutRemark hattributes
    · have hlast : IsLast types name type := by
        rw [← mem_lastValues_iff, hsplit]
        simp
      refine .inr ⟨fault, .remarked hwalk hlast (withoutRemark_eq_error_iff.1 hstrip), ?_⟩
      simp only [hall]
      rfl

end Scope

/-! ## Accessors -/

namespace Value

/-- The type is a collection of a class: something whose head stands for a class, with the class as
its only argument. -/
def IsCollectionOf (type : Value) (ref : ClassRef) : Prop :=
  ∃ head origin, head.origin? = some origin ∧ type = .apply head [.ofClass ref]

theorem element?_eq_some_iff {type : Value} {ref : ClassRef} :
    type.element? = some ref ↔ type.IsCollectionOf ref := by
  constructor
  · intro h
    unfold element? at h
    split at h
    · next head argument =>
      split at h
      · next origin horigin =>
        cases argument with
        | ofClass other => exact ⟨head, origin, horigin, by rw [Option.some.inj h]⟩
        | _ => cases h
      · cases h
    · cases h
  · rintro ⟨head, origin, horigin, rfl⟩
    simp only [element?, horigin]
    rfl

/-- The type is no collection of one class: an optional type or another union, a type for the class
alone, a type variable, or something with another number of arguments or with a type variable as its
argument. -/
inductive IsNoCollection : Value → Prop
  | union (plain : Bool) (members : List Value) : IsNoCollection (.union plain members)
  | classVar (arguments : List Value) : IsNoCollection (.apply (.form .classVar) arguments)
  | typeVariable (name : Text) : IsNoCollection (.variable name)
  | ofVariable (head : TypeHead) (name : Text) : IsNoCollection (.apply head [.variable name])
  | arguments (head : TypeHead) {arguments : List Value} (hcount : arguments.length ≠ 1) :
    IsNoCollection (.apply head arguments)

theorem IsNoCollection.not_isCollectionOf {type : Value} (h : type.IsNoCollection)
    (ref : ClassRef) : ¬ type.IsCollectionOf ref := by
  rintro ⟨head, origin, horigin, htype⟩
  cases h with
  | union => cases htype
  | classVar =>
    cases htype
    cases horigin
  | typeVariable => cases htype
  | ofVariable => cases htype
  | arguments _ hcount =>
    cases htype
    exact hcount rfl

end Value

namespace Scope

variable {scope : Scope} {workspace : Workspace}

/-- The accessors are those that the classes of the container list. -/
structure Lists (scope : Scope) (workspace : Workspace) (accessors : List (Accessor ClassRef)) :
    Prop where
  /-- Their names stand in the order in which the classes annotate attributes first, -/
  order : (accessors.map Accessor.name).Sublist (attributeNames (scope.lineage workspace))
  /-- each of them once. -/
  nodup : (accessors.map Accessor.name).Nodup
  /-- An attribute that nearer classes annotate again keeps its place. -/
  place : ∀ farther nearer, scope.lineage workspace = farther ++ nearer →
    ∃ kept added, accessors = kept ++ added ∧
      (kept.map Accessor.name).Sublist (attributeNames farther) ∧
      ∀ accessor ∈ added, accessor.name ∉ attributeNames farther
  /-- They are the attributes without an underscore in front whose last type is a collection of one
  class. -/
  mem_iff : ∀ name ref, ⟨name, ref⟩ ∈ accessors ↔
    ¬ ("_" : Text) <+: name ∧
      ∃ type, scope.HasType workspace name type ∧ type.IsCollectionOf ref
  /-- Whatever the type was before, an attribute of another last type is none of them. -/
  excluded : ∀ name type, scope.HasType workspace name type → type.IsNoCollection →
    name ∉ accessors.map Accessor.name

theorem ofNamedType?_eq_some_iff {name : Text} {type : Value} {accessor : Accessor ClassRef} :
    Accessor.ofNamedType? (name, type) = some accessor ↔
      ¬ ("_" : Text) <+: name ∧ ∃ ref, type.IsCollectionOf ref ∧ ⟨name, ref⟩ = accessor := by
  rw [Accessor.ofNamedType?, ← List.isPrefixOf_iff_prefix, isPrivateName]
  split
  · next hprivate => simp [hprivate]
  · next hpublic =>
    simp only [Option.map_eq_some_iff, Value.element?_eq_some_iff]
    exact (and_iff_right hpublic).symm

theorem sublist_names (attributes : List (Text × Value)) :
    ((attributes.filterMap Accessor.ofNamedType?).map Accessor.name).Sublist
      (attributes.map Prod.fst) := by
  induction attributes with
  | nil => exact .slnil
  | cons first rest ih =>
    rw [List.filterMap_cons]
    cases haccessor : Accessor.ofNamedType? first with
    | none => exact ih.cons _
    | some accessor =>
      rw [List.map_cons, List.map_cons, name_of_ofNamedType? haccessor]
      exact ih.cons_cons _

/-- What nearer classes annotate comes behind what farther classes annotate, unless these annotate
it as well. -/
theorem attributeNames_append (farther nearer : List ClassBody) :
    ∃ added, attributeNames (farther ++ nearer) = attributeNames farther ++ added ∧
      ∀ name ∈ added, name ∉ attributeNames farther := by
  rw [attributeNames, List.flatMap_append, List.eraseDups_append]
  refine ⟨_, rfl, fun name hname hold => ?_⟩
  rw [List.mem_eraseDups, List.removeAll, List.mem_filter] at hname
  rw [attributeNames, List.mem_eraseDups] at hold
  simp [hold] at hname

theorem lists_of_attributes {attributes : List (Text × Value)}
    (hnames : attributes.map Prod.fst = attributeNames (scope.lineage workspace))
    (hmem : ∀ name type, (name, type) ∈ attributes ↔ scope.HasType workspace name type)
    (hnodup : ((attributes.filterMap Accessor.ofNamedType?).map Accessor.name).Nodup) :
    scope.Lists workspace (attributes.filterMap Accessor.ofNamedType?) := by
  have horder : ((attributes.filterMap Accessor.ofNamedType?).map Accessor.name).Sublist
      (attributeNames (scope.lineage workspace)) := hnames ▸ sublist_names attributes
  have hmem_iff : ∀ name ref, ⟨name, ref⟩ ∈ attributes.filterMap Accessor.ofNamedType? ↔
      ¬ ("_" : Text) <+: name ∧
        ∃ type, scope.HasType workspace name type ∧ type.IsCollectionOf ref := by
    intro name ref
    simp only [List.mem_filterMap, Prod.exists, hmem, ofNamedType?_eq_some_iff]
    constructor
    · rintro ⟨other, type, htype, hpublic, element, hcollection, ⟨⟩⟩
      exact ⟨hpublic, type, htype, hcollection⟩
    · rintro ⟨hpublic, type, htype, hcollection⟩
      exact ⟨name, type, htype, hpublic, ref, hcollection, rfl⟩
  refine ⟨horder, hnodup, fun farther nearer hsplit => ?_, hmem_iff, fun name type htype hno => ?_⟩
  · obtain ⟨added, hadded, hnew⟩ := attributeNames_append farther nearer
    rw [hsplit, hadded] at horder
    obtain ⟨first, last, hparts, hfirst, hlast⟩ := List.sublist_append_iff.1 horder
    obtain ⟨kept, later, hboth, rfl, rfl⟩ := List.map_eq_append_iff.1 hparts
    exact ⟨kept, later, hboth, hfirst, fun accessor haccessor =>
      hnew _ (hlast.subset (List.mem_map_of_mem haccessor))⟩
  · intro hname
    obtain ⟨⟨_, ref⟩, haccessor, rfl⟩ := List.mem_map.1 hname
    obtain ⟨-, other, hother, hcollection⟩ := (hmem_iff _ ref).1 haccessor
    obtain rfl := htype.unique hother
    exact hno.not_isCollectionOf ref hcollection

/-- Where no annotation fails, the container has the accessors that its classes list. -/
theorem exists_accessors (h : ∀ fault, ¬ scope.AnnotationFault workspace fault) :
    ∃ accessors, (scope.accessors workspace).result = .ok accessors ∧
      scope.Lists workspace accessors := by
  rcases attributes_cases scope workspace with
    ⟨attributes, hattributes, -, hnames, hmem⟩ | ⟨fault, hfault, -⟩
  · have haccessors : (scope.accessors workspace).result =
        .ok (attributes.filterMap Accessor.ofNamedType?) := by
      rw [accessors, Transition.andCheck, hattributes]
      rfl
    exact ⟨_, haccessors, lists_of_attributes hnames hmem (nodup_accessors haccessors)⟩
  · exact absurd hfault (h fault)

/-- Where an annotation fails, one of those that do decides. -/
theorem exists_annotationFailure (h : ∃ fault, scope.AnnotationFault workspace fault) :
    ∃ fault, scope.AnnotationFault workspace fault ∧
      (scope.accessors workspace).result = .error (scope.annotationFailure fault) := by
  rcases attributes_cases scope workspace with ⟨-, -, hnone, -⟩ | ⟨fault, hfault, hattributes⟩
  · obtain ⟨fault, hfault⟩ := h
    exact absurd hfault (hnone fault)
  · refine ⟨fault, hfault, ?_⟩
    rw [accessors, Transition.andCheck, hattributes]
    rfl

/-- **The accessors of a container are exact.** If the annotations of its classes, those of private
and of repeated attributes among them, either come to a type or fail since a name is missing, then
one of them fails and this is said of the container, or the accessors are the attributes whose last
type is a collection of one class. -/
theorem accessors_exact
    (h : ∀ fault, scope.AnnotationFault workspace fault → fault.isNameFault = true) :
    ((∃ fault, scope.AnnotationFault workspace fault) →
      ∃ fault, scope.AnnotationFault workspace fault ∧
        (scope.accessors workspace).result =
          .error (.schema (.unresolved scope.containerClass.name fault.toRaised.text))) ∧
    ((∀ fault, ¬ scope.AnnotationFault workspace fault) →
      ∃ accessors, (scope.accessors workspace).result = .ok accessors ∧
        scope.Lists workspace accessors) := by
  refine ⟨fun hsome => ?_, exists_accessors⟩
  obtain ⟨fault, hfault, hresult⟩ := exists_annotationFailure hsome
  refine ⟨fault, hfault, ?_⟩
  rw [hresult, annotationFailure, if_pos (h fault hfault)]

/-- Where accessors are found, no annotation fails. -/
theorem not_annotationFault_of_ok {accessors : List (Accessor ClassRef)}
    (h : (scope.accessors workspace).result = .ok accessors) (fault : CodeFault) :
    ¬ scope.AnnotationFault workspace fault := by
  rcases attributes_cases scope workspace with ⟨-, -, hnone, -⟩ | ⟨stop, -, hattributes⟩
  · exact hnone fault
  · rw [Scope.accessors, Transition.andCheck, hattributes] at h
    cases h

/-- Where the walk stops, the fault at which it stops is the only one. -/
theorem AnnotationFault.eq_of_stopped {fault stop : CodeFault}
    (h : scope.AnnotationFault workspace fault)
    (hstop : (Workspace.resolveAll scope.home workspace (scope.lineage workspace)).result =
      .error stop) : fault = stop := by
  have hrecords : Records (scope.annotationWalk workspace) (.error stop) :=
    hstop ▸ Workspace.records_resolveAll scope.home workspace (scope.lineage workspace)
  cases h with
  | unresolved hwalk => exact (Except.error.inj (hrecords.eq_error_of_mem hwalk)).symm
  | remarked hwalk => exact absurd hrecords.mem_of_eq_error (hwalk.notMem stop)

end Scope

namespace Sample

/-- The identity of a container. -/
def branchIdentity : SchemaIdentity :=
  { schemaName := "Branch"
    connectionString := "Data Source=shop.db"
    moduleLocation := "shop.py"
    containerNamespace := "Shop.Models" }

/-- A container whose class annotates attributes again: one of them becomes a collection of another
class, one is a collection no longer and one only now. The type is that of a private attribute. -/
def branchModule (type : Text) : List Statement :=
  [rowClass "Customer" [],
    .declare
      { name := "Store", bases := [], registry := none
        annotations :=
          [("Customers", "list[Customer]"), ("_Guests", type), ("Orders", "list[int]"),
            ("Staff", "int | None")]
        construction := some (silentConstructor [required "connection_string"]), closer := none },
    .declare
      { name := "Branch", bases := [.name "Store"]
        registry := some (.members [.reference (.name "Customer")])
        annotations :=
          [("Staff", "list[Customer]"), ("Orders", "dict[str, Customer]"),
            ("_Guests", "list[Customer]"), ("Customers", "list[int]")]
        construction := none, closer := none }]

/-- The scope of the container, with what entering it leaves. -/
def branchScope? (type : Text) : Option (Scope × Workspace) :=
  let tree : Tree :=
    { home := ["work"]
      entries :=
        [(["work"], .directory), (["work", "shop.py"], .module [] (branchModule type))] }
  let entered := Scope.enter tree 0 branchIdentity { modules := [], memory := {} }
  entered.result.toOption.map fun scope => (scope, entered.workspace)

end Sample

/-- The annotations of a container come to types, and the container has the accessors that it lists;
where a private one of them fails, this is said of it. -/
theorem accessors_exact_branch :
    (∃ (scope : Scope) (workspace : Workspace) (accessors : List (Accessor ClassRef)),
      (scope.accessors workspace).result = .ok accessors ∧ scope.Lists workspace accessors ∧
        accessors.map Accessor.name = ["Customers", "Staff"]) ∧
    ∃ (scope : Scope) (workspace : Workspace),
      (scope.accessors workspace).result =
        .error (.schema (.unresolved "Branch" "name 'Nobody' is not defined")) := by
  constructor
  · have hcheck : (Sample.branchScope? "list[int]").any (fun entered => decide
        ((entered.1.accessors entered.2).result.toOption.map (List.map Accessor.name) =
          some (["Customers", "Staff"] : List Text))) = true := by
      decide +kernel
    obtain ⟨⟨scope, workspace⟩, -, hgiven⟩ := (Option.any_eq_true _ _).1 hcheck
    obtain ⟨accessors, hsome, hnames⟩ := Option.map_eq_some_iff.1 (of_decide_eq_true hgiven)
    have haccessors := eq_ok_of_toOption hsome
    have hnone := Scope.not_annotationFault_of_ok haccessors
    obtain ⟨others, hothers, hlists⟩ :=
      (Scope.accessors_exact fun fault hfault => absurd hfault (hnone fault)).2 hnone
    obtain rfl := Except.ok.inj (haccessors.symm.trans hothers)
    exact ⟨scope, workspace, accessors, haccessors, hlists, hnames⟩
  · have hcheck : (Sample.branchScope? "list[Nobody]").any (fun entered =>
        match (Workspace.resolveAll entered.1.home entered.2
          (entered.1.lineage entered.2)).result with
        | .ok _ => false
        | .error fault => decide (fault = .undefinedName "Nobody" ∧
            entered.1.containerClass.name = ("Branch" : Text))) = true := by
      decide +kernel
    obtain ⟨⟨scope, workspace⟩, -, hgiven⟩ := (Option.any_eq_true _ _).1 hcheck
    simp only at hgiven
    split at hgiven
    · cases hgiven
    · next stop hstop =>
      obtain ⟨rfl, hname⟩ := of_decide_eq_true hgiven
      have hrecords : Records (scope.annotationWalk workspace) (.error _) :=
        hstop ▸ Workspace.records_resolveAll scope.home workspace (scope.lineage workspace)
      have hfault := Scope.AnnotationFault.unresolved hrecords.mem_of_eq_error
      obtain ⟨fault, hfault, hresult⟩ := (Scope.accessors_exact fun fault hfault => by
        rw [hfault.eq_of_stopped hstop]
        decide).1 ⟨_, hfault⟩
      rw [hfault.eq_of_stopped hstop, hname] at hresult
      exact ⟨scope, workspace, hresult⟩

end QueryScaffold
