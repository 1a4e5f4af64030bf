import QueryScaffold.Proofs.Container.Annotations
import QueryScaffold.Proofs.Run.Scopes

/-!
# What leaves the reading of a container

The registry of a container can be any value, and so can its annotations. Reading the container goes
through the registry up to the first item that is no class, and then through the annotations. Most
of what can be wrong with them is said of the schema; the rest is let through as the code has raised
it.

* `Scope.registry`, `Scope.passing`: the registry, and its items;
* `Scope.Registers`: the registry lists classes and nothing else;
* `Scope.isSome_class?_of_passing`: no item is asked for behind one that is no class;
* `Scope.RegistryOutcome`, `Scope.snapshot_cases`: what the registry comes to, and the schema;
* `Scope.ReadsAs`, `readScope_readsAs`: **a schema lists the classes of the registry, and two kinds
  of failures are let through**: one cannot go through the registry, or an annotation fails with
  something else than a missing name;
* `readScope_numberRegistry`: a number for a registry is not answered for.
-/

namespace QueryScaffold

/-- The entity that a class is. -/
def Entity.ofClass (ref : ClassRef) : Entity ClassRef := ⟨ref.name, ref⟩

namespace Value

theorem toEntity_eq_ok_iff {value : Value} {entity : Entity ClassRef} :
    value.toEntity = .ok entity ↔ ∃ ref, value = .ofClass ref ∧ entity = .ofClass ref := by
  constructor
  · intro h
    cases value with
    | ofClass ref => exact ⟨ref, rfl, (Except.ok.inj h).symm⟩
    | _ => cases h
  · rintro ⟨ref, rfl, rfl⟩
    rfl

theorem toEntity_eq_error_iff {value : Value} {fault : SchemaFault} :
    value.toEntity = .error fault ↔ value.class? = none ∧ fault = .notClass value.display := by
  cases value with
  | ofClass ref => simp [toEntity, class?]
  | _ => simp [toEntity, class?, eq_comm]

/-- Values that are entities are classes. -/
theorem exists_refs_of_forall₂ {items : List Value} {entities : List (Entity ClassRef)}
    (h : List.Forall₂ (fun item entity => item.toEntity = .ok entity) items entities) :
    ∃ refs : List ClassRef, items = refs.map .ofClass ∧ entities = refs.map .ofClass := by
  induction h with
  | nil => exact ⟨[], rfl, rfl⟩
  | cons hitem _ ih =>
    obtain ⟨ref, rfl, rfl⟩ := toEntity_eq_ok_iff.1 hitem
    obtain ⟨refs, rfl, rfl⟩ := ih
    exact ⟨ref :: refs, rfl, rfl⟩

theorem mapM_toEntity_refs (refs : List ClassRef) :
    (refs.map Value.ofClass).mapM toEntity = .ok (refs.map .ofClass) := by
  induction refs with
  | nil => rfl
  | cons ref rest ih =>
    rw [List.map_cons, List.mapM_cons, ih]
    rfl

/-- The first value that is no class decides. -/
theorem mapM_toEntity_of_notClass (refs : List ClassRef) {item : Value} (h : item.class? = none)
    (back : List Value) :
    (refs.map Value.ofClass ++ item :: back).mapM toEntity = .error (.notClass item.display) := by
  induction refs with
  | nil =>
    rw [List.map_nil, List.nil_append, List.mapM_cons, toEntity_eq_error_iff.2 ⟨h, rfl⟩]
    rfl
  | cons ref rest ih =>
    rw [List.map_cons, List.cons_append, List.mapM_cons, ih]
    rfl

theorem exists_constant_of_integer? {value : Value} (h : value.integer?.isSome = true) :
    ∃ c, value = .constant c ∧ value.isNull = false ∧ value.items? = none := by
  cases value with
  | constant c =>
    cases c with
    | truth holds => exact ⟨_, rfl, rfl, rfl⟩
    | integer n => exact ⟨_, rfl, rfl, rfl⟩
    | _ => cases h
  | _ => cases h

end Value

namespace Scope

/-! ## The registry -/

variable {scope : Scope} {workspace : Workspace}

/-- Where the code of the container stands. -/
def standing (scope : Scope) (workspace : Workspace) : Environment :=
  (workspace.current scope.home).environment (workspace.memory.ofLoad scope.number)

/-- The registry of the container, or null where it has none. -/
def registry (scope : Scope) (workspace : Workspace) : Value :=
  match (scope.standing workspace).part "entity_types" scope.container with
  | .ok found => found
  | .error _ => .null

/-- The registry is gone through, up to the first item that is no class. -/
def passing (scope : Scope) (workspace : Workspace) : Effect (List Value) :=
  workspace.run scope.home (itemsOfRegistry (scope.registry workspace))

/-- The registry lists classes and nothing else. -/
structure Registers (scope : Scope) (workspace : Workspace) (refs : List ClassRef) : Prop where
  present : (scope.registry workspace).isNull = false
  items : (scope.passing workspace).result = .ok (refs.map .ofClass)

theorem result_registryItems (scope : Scope) (workspace : Workspace) :
    (workspace.run scope.home scope.registryItems).result =
      if (scope.registry workspace).isNull then .ok none
      else (scope.passing workspace).result.map some := by
  show ((scope.registryItems).run.run (scope.standing workspace)).1 = _
  rw [registryItems, Eval.run_bind, Eval.run_partOr_null]
  show ((if (scope.registry workspace).isNull then pure none
    else (do return some (← itemsOfRegistry (scope.registry workspace))) :
      Eval (Option (List Value))).run.run (scope.standing workspace)).1 = _
  split
  · rfl
  · rw [Eval.run_bind]
    show _ = ((itemsOfRegistry (scope.registry workspace)).run.run
      (scope.standing workspace)).1.map some
    rcases (itemsOfRegistry (scope.registry workspace)).run.run (scope.standing workspace) with
      ⟨_ | _, _⟩ <;> rfl

/-- The entities of a container. -/
theorem result_entities (scope : Scope) (workspace : Workspace) :
    (scope.entities workspace).result =
      if (scope.registry workspace).isNull then
        .error (.schema (.noRegistry scope.containerClass.name))
      else
        match (scope.passing workspace).result with
        | .error fault => .error (.registryFault fault)
        | .ok items => (items.mapM Value.toEntity).mapError .schema := by
  show ((workspace.run scope.home scope.registryItems).result.mapError Failure.registryFault).bind
    scope.entitiesOfItems = _
  rw [result_registryItems]
  split
  · rfl
  · cases (scope.passing workspace).result <;> rfl

/-- The schema of a container. -/
theorem result_snapshot (scope : Scope) (workspace : Workspace) :
    (scope.snapshot workspace).result =
      match (scope.entities workspace).result with
      | .error failure => .error failure
      | .ok entities =>
        match (scope.accessors (scope.entities workspace).workspace).result with
        | .error failure => .error failure
        | .ok accessors => (Snapshot.distinct entities accessors).mapError .schema := by
  rw [snapshot, Transition.andThen]
  cases (scope.entities workspace).result with
  | error failure => rfl
  | ok entities =>
    simp only [Transition.andCheck]
    cases (scope.accessors (scope.entities workspace).workspace).result <;> rfl

/-- What the registry of a container comes to. -/
inductive RegistryOutcome (scope : Scope) (workspace : Workspace) :
    Except Failure (List (Entity ClassRef)) → Prop
  /-- There is none. -/
  | missing (habsent : (scope.registry workspace).isNull = true) :
    RegistryOutcome scope workspace (.error (.schema (.noRegistry scope.containerClass.name)))
  /-- One cannot go through it. -/
  | refused {fault : CodeFault} (hpresent : (scope.registry workspace).isNull = false)
    (hitems : (scope.passing workspace).result = .error fault) :
    RegistryOutcome scope workspace (.error (.registryFault fault))
  /-- It holds something that is no class. -/
  | mixed {refs : List ClassRef} {item : Value} {back : List Value}
    (hpresent : (scope.registry workspace).isNull = false)
    (hitems : (scope.passing workspace).result = .ok (refs.map .ofClass ++ item :: back))
    (hitem : item.class? = none) :
    RegistryOutcome scope workspace (.error (.schema (.notClass item.display)))
  | listed {refs : List ClassRef} (hrefs : scope.Registers workspace refs) :
    RegistryOutcome scope workspace (.ok (refs.map .ofClass))

theorem registryOutcome_entities (scope : Scope) (workspace : Workspace) :
    scope.RegistryOutcome workspace (scope.entities workspace).result := by
  rw [result_entities]
  split
  · next habsent => exact .missing habsent
  · next hpresent =>
    rw [Bool.not_eq_true] at hpresent
    cases hitems : (scope.passing workspace).result with
    | error fault => exact .refused hpresent hitems
    | ok items =>
      rcases mapM_except_cases Value.toEntity items with ⟨entities, hall, hentities⟩ |
        ⟨front, item, back, found, fault, hsplit, hfront, hitem, hall⟩
      · obtain ⟨refs, hrefs, rfl⟩ := Value.exists_refs_of_forall₂ hentities
        simp only [hall]
        exact .listed ⟨hpresent, hrefs ▸ hitems⟩
      · obtain ⟨refs, rfl, rfl⟩ := Value.exists_refs_of_forall₂ hfront
        obtain ⟨hclass, rfl⟩ := Value.toEntity_eq_error_iff.1 hitem
        simp only [hall]
        exact .mixed hpresent (hsplit ▸ hitems) hclass

theorem entities_of_registers {refs : List ClassRef} (h : scope.Registers workspace refs) :
    (scope.entities workspace).result = .ok (refs.map .ofClass) := by
  rw [result_entities, h.present, h.items, if_neg Bool.false_ne_true]
  simp only [Value.mapM_toEntity_refs]
  rfl

/-- A registry whose items are all there is gone through to its end. -/
theorem result_passing_of_items? {items : List Value}
    (h : (scope.registry workspace).items? = some items) :
    (scope.passing workspace).result = .ok items := by
  show ((itemsOfRegistry (scope.registry workspace)).run.run (scope.standing workspace)).1 = _
  rw [itemsOfRegistry, h]
  rfl

/-- Only the last of the items that were asked for may be no class. The induction is on the number
of items that may still be asked for; those that were are all classes. -/
theorem isSome_class?_of_nextClasses {number limit : Nat} {done items : List Value}
    {env after : Environment}
    (h : (nextClasses number limit done).run.run env = (.ok items, after))
    (hdone : ∀ value ∈ done, value.class?.isSome = true) :
    ∀ value ∈ items.dropLast, value.class?.isSome = true := by
  induction limit generalizing done env with
  | zero => cases h
  | succ limit ih =>
    rw [nextClasses, Eval.run_bind] at h
    split at h
    · next given between hgiven =>
      cases given with
      | none =>
        obtain ⟨hitems, -⟩ := Prod.mk.inj h
        rw [← Except.ok.inj hitems]
        exact fun value hvalue => hdone value (List.mem_reverse.1 (List.dropLast_subset _ hvalue))
      | some item =>
        by_cases hitem : item.class?.isSome = true
        · simp only [hitem, if_true] at h
          exact ih h (List.forall_mem_cons.2 ⟨hitem, hdone⟩)
        · simp only [hitem] at h
          obtain ⟨hitems, -⟩ := Prod.mk.inj h
          rw [← Except.ok.inj hitems, List.reverse_cons, List.dropLast_concat]
          exact fun value hvalue => hdone value (List.mem_reverse.1 hvalue)
    · cases h

/-- **No item is asked for behind one that is no class**, where items are given one by one. -/
theorem isSome_class?_of_passing (hitems : (scope.registry workspace).items? = none)
    {items : List Value} (h : (scope.passing workspace).result = .ok items) :
    ∀ value ∈ items.dropLast, value.class?.isSome = true := by
  have hrun : (itemsOfRegistry (scope.registry workspace)).run.run (scope.standing workspace) =
      (.ok items, _) := Prod.ext h rfl
  rw [itemsOfRegistry, hitems] at hrun
  simp only at hrun
  rw [Eval.run_bind] at hrun
  split at hrun
  · exact isSome_class?_of_nextClasses hrun (by simp)
  · cases hrun

/-- One can only go through values that have items, through iterations and through types in
brackets. -/
theorem result_passing_of_items?_eq_none (hitems : (scope.registry workspace).items? = none)
    (hiterator : ∀ kind number, scope.registry workspace ≠ .iterator kind number)
    (happly : ∀ head arguments, scope.registry workspace ≠ .apply head arguments) :
    (scope.passing workspace).result = .error
      (.notPassedThrough ((scope.standing workspace).kindName (scope.registry workspace))) := by
  show ((itemsOfRegistry (scope.registry workspace)).run.run (scope.standing workspace)).1 = _
  rw [itemsOfRegistry, hitems]
  generalize scope.registry workspace = value at hitems hiterator happly ⊢
  cases value with
  | iterator kind number => exact absurd rfl (hiterator kind number)
  | apply head arguments => exact absurd rfl (happly head arguments)
  | constant c =>
    cases c with
    | text t => cases hitems
    | bytes content => cases hitems
    | _ => rfl
  | tuple | list | buffer | set | dictionary | proxy | view | range => cases hitems
  | _ => rfl

/-! ## The schema -/

/-- A failure of the accessors is that of an annotation. -/
theorem exists_of_accessors_error {failure : Failure}
    (h : (scope.accessors workspace).result = .error failure) :
    ∃ fault, scope.AnnotationFault workspace fault ∧
      failure = scope.annotationFailure fault := by
  by_cases hsome : ∃ fault, scope.AnnotationFault workspace fault
  · obtain ⟨fault, hfault, hresult⟩ := exists_annotationFailure hsome
    exact ⟨fault, hfault, Except.error.inj (h.symm.trans hresult)⟩
  · obtain ⟨accessors, hresult, -⟩ := exists_accessors fun fault hfault => hsome ⟨fault, hfault⟩
    cases h.symm.trans hresult

/-- What leaves the reading of a container: a schema, or a failure. -/
structure ReadsAs (scope : Scope) (workspace : Workspace)
    (outcome : Except Failure (Snapshot ClassRef)) : Prop where
  /-- The entities of a schema are the classes of the registry in their order. -/
  entities : ∀ snapshot, outcome = .ok snapshot →
    ∃ refs, scope.Registers workspace refs ∧ snapshot.entities = refs.map .ofClass
  /-- Different classes and annotations that all come to types make a schema. -/
  read : ∀ refs, scope.Registers workspace refs → refs.Nodup →
    (∀ fault, ¬ scope.AnnotationFault (scope.entities workspace).workspace fault) →
    ∃ accessors, outcome = .ok ⟨refs.map .ofClass, accessors⟩ ∧
      scope.Lists (scope.entities workspace).workspace accessors
  /-- Other failures than those of the schema come from going through the registry, or from an
  annotation that fails with something else than a missing name. -/
  failures : ∀ failure, outcome = .error failure →
    (∃ fault, failure = .schema fault) ∨
    (∃ fault, failure = .registryFault fault ∧ (scope.registry workspace).isNull = false ∧
      (scope.passing workspace).result = .error fault) ∨
    ∃ refs fault, failure = .annotationFault fault ∧ scope.Registers workspace refs ∧
      scope.AnnotationFault (scope.entities workspace).workspace fault ∧
      fault.isNameFault = false
  /-- A container without a registry is answered for. -/
  missing : (scope.registry workspace).isNull = true →
    outcome = .error (.schema (.noRegistry scope.containerClass.name))
  /-- So is one whose registry holds something that is no class. -/
  mixed : (scope.registry workspace).isNull = false → ∀ (refs : List ClassRef) item back,
    (scope.passing workspace).result = .ok (refs.map .ofClass ++ item :: back) →
    item.class? = none → outcome = .error (.schema (.notClass item.display))
  /-- Going through the registry may fail with anything, and this is let through. -/
  refused : (scope.registry workspace).isNull = false → ∀ fault,
    (scope.passing workspace).result = .error fault → outcome = .error (.registryFault fault)
  /-- It does not fail where the items are all there, as those of a tuple, of a text and of a
  dictionary are. -/
  passed : ∀ items, (scope.registry workspace).items? = some items → ∀ fault,
    outcome ≠ .error (.registryFault fault)
  /-- It does where there are no items, as for a number, unless the registry is an iteration or a
  type in brackets, which give items one by one. -/
  unpassable : (scope.registry workspace).isNull = false →
    (scope.registry workspace).items? = none →
    (∀ kind number, scope.registry workspace ≠ .iterator kind number) →
    (∀ head arguments, scope.registry workspace ≠ .apply head arguments) →
    outcome = .error (.registryFault
      (.notPassedThrough ((scope.standing workspace).kindName (scope.registry workspace))))
  /-- A fault of an annotation is let through unless it is that of a missing name. -/
  annotated : ∀ refs, scope.Registers workspace refs →
    (∃ fault, scope.AnnotationFault (scope.entities workspace).workspace fault) →
    (∀ fault, scope.AnnotationFault (scope.entities workspace).workspace fault →
      fault.isNameFault = false) →
    ∃ fault, outcome = .error (.annotationFault fault)

/-- Neither a schema nor a failure of the schema comes of a number. -/
theorem ReadsAs.of_number {outcome : Except Failure (Snapshot ClassRef)}
    (h : scope.ReadsAs workspace outcome)
    (hnumber : (scope.registry workspace).integer?.isSome = true) :
    ∃ fault, outcome = .error (.registryFault fault) := by
  obtain ⟨c, hregistry, hpresent, hitems⟩ := Value.exists_constant_of_integer? hnumber
  refine ⟨_, h.unpassable hpresent hitems ?_ ?_⟩
  · rw [hregistry]
    exact nofun
  · rw [hregistry]
    exact nofun

/-- A failure of the entities is that of the schema. -/
theorem result_snapshot_of_entities_error {failure : Failure}
    (h : (scope.entities workspace).result = .error failure) :
    (scope.snapshot workspace).result = .error failure := by
  rw [result_snapshot, h]

/-- A failure of the accessors is that of the schema, if the registry lists classes. -/
theorem result_snapshot_of_accessors_error {refs : List ClassRef} {failure : Failure}
    (hrefs : scope.Registers workspace refs)
    (h : (scope.accessors (scope.entities workspace).workspace).result = .error failure) :
    (scope.snapshot workspace).result = .error failure := by
  rw [result_snapshot, entities_of_registers hrefs]
  simp only [h]

theorem snapshot_cases (scope : Scope) (workspace : Workspace) :
    (∃ refs accessors, scope.Registers workspace refs ∧
      (scope.snapshot workspace).result = .ok ⟨refs.map .ofClass, accessors⟩) ∨
    (∃ fault, (scope.snapshot workspace).result = .error (.schema fault)) ∨
    (∃ fault, (scope.snapshot workspace).result = .error (.registryFault fault) ∧
      (scope.registry workspace).isNull = false ∧
      (scope.passing workspace).result = .error fault) ∨
    ∃ refs fault, (scope.snapshot workspace).result = .error (.annotationFault fault) ∧
      scope.Registers workspace refs ∧
      scope.AnnotationFault (scope.entities workspace).workspace fault ∧
      fault.isNameFault = false := by
  rw [result_snapshot]
  have hentities := registryOutcome_entities scope workspace
  generalize (scope.entities workspace).result = entities at hentities ⊢
  cases hentities with
  | missing => exact .inr (.inl ⟨_, rfl⟩)
  | mixed => exact .inr (.inl ⟨_, rfl⟩)
  | refused hpresent hitems => exact .inr (.inr (.inl ⟨_, rfl, hpresent, hitems⟩))
  | @listed refs hrefs =>
    cases haccessors : (scope.accessors (scope.entities workspace).workspace).result with
    | error failure =>
      obtain ⟨fault, hfault, rfl⟩ := exists_of_accessors_error haccessors
      simp only [annotationFailure]
      split
      · exact .inr (.inl ⟨_, rfl⟩)
      · next hname =>
        exact .inr (.inr (.inr ⟨refs, fault, rfl, hrefs, hfault, Bool.not_eq_true _ ▸ hname⟩))
    | ok accessors =>
      simp only
      cases hdistinct : Snapshot.distinct (refs.map Entity.ofClass) accessors with
      | error fault => exact .inr (.inl ⟨fault, rfl⟩)
      | ok snapshot =>
        obtain ⟨-, rfl⟩ := Snapshot.distinct_eq_ok_iff.1 hdistinct
        exact .inl ⟨refs, accessors, hrefs, rfl⟩

theorem readsAs_snapshot (scope : Scope) (workspace : Workspace) :
    scope.ReadsAs workspace (scope.snapshot workspace).result := by
  have hcases := snapshot_cases scope workspace
  have hrefused : (scope.registry workspace).isNull = false → ∀ fault,
      (scope.passing workspace).result = .error fault →
      (scope.snapshot workspace).result = .error (.registryFault fault) := by
    intro hpresent fault hitems
    refine result_snapshot_of_entities_error ?_
    rw [result_entities, hpresent, hitems, if_neg Bool.false_ne_true]
  constructor
  case entities =>
    intro snapshot hsnapshot
    rw [hsnapshot] at hcases
    rcases hcases with
      ⟨refs, accessors, hrefs, hsame⟩ | ⟨_, hsame⟩ | ⟨_, hsame, -⟩ | ⟨_, _, hsame, -⟩
    · obtain rfl := Except.ok.inj hsame
      exact ⟨refs, hrefs, rfl⟩
    all_goals cases hsame
  case read =>
    intro refs hrefs hnodup hnone
    obtain ⟨accessors, haccessors, hlists⟩ := exists_accessors hnone
    refine ⟨accessors, ?_, hlists⟩
    have hshapes : ((refs.map Entity.ofClass).map Entity.shape).Nodup := by
      rwa [List.map_map, show Entity.shape ∘ Entity.ofClass = id from rfl, List.map_id]
    rw [result_snapshot, entities_of_registers hrefs]
    simp only [haccessors]
    rw [Snapshot.distinct_eq_ok_iff.2 ⟨hshapes, rfl⟩]
    rfl
  case failures =>
    intro failure hfailure
    rw [hfailure] at hcases
    rcases hcases with ⟨_, _, -, hsame⟩ | ⟨fault, hsame⟩ | ⟨fault, hsame, hitems⟩ |
      ⟨refs, fault, hsame, hannotation⟩
    · cases hsame
    · exact .inl ⟨fault, Except.error.inj hsame⟩
    · exact .inr (.inl ⟨fault, Except.error.inj hsame, hitems⟩)
    · exact .inr (.inr ⟨refs, fault, Except.error.inj hsame, hannotation⟩)
  case missing =>
    intro habsent
    refine result_snapshot_of_entities_error ?_
    rw [result_entities, habsent, if_pos rfl]
  case mixed =>
    intro hpresent refs item back hitems hitem
    refine result_snapshot_of_entities_error ?_
    rw [result_entities, hpresent, hitems, if_neg Bool.false_ne_true]
    simp only [Value.mapM_toEntity_of_notClass refs hitem back]
    rfl
  case refused => exact hrefused
  case passed =>
    intro items hitems fault hfault
    rw [hfault] at hcases
    rcases hcases with ⟨_, _, -, hsame⟩ | ⟨_, hsame⟩ | ⟨stop, -, -, hstop⟩ | ⟨_, _, hsame, -⟩
    · cases hsame
    · cases hsame
    · rw [result_passing_of_items? hitems] at hstop
      cases hstop
    · cases hsame
  case unpassable =>
    exact fun hpresent hitems hiterator happly =>
      hrefused hpresent _ (result_passing_of_items?_eq_none hitems hiterator happly)
  case annotated =>
    intro refs hrefs hsome hnone
    obtain ⟨fault, hfault, hresult⟩ := exists_annotationFailure hsome
    refine ⟨fault, result_snapshot_of_accessors_error hrefs ?_⟩
    rw [hresult, annotationFailure, hnone fault hfault, if_neg Bool.false_ne_true]

end Scope

/-- **What leaves the reading of a container**, whatever its registry and its annotations are. -/
theorem readScope_readsAs (schema : Option Text) (scope : Scope) (world : World) :
    scope.ReadsAs world.workspace ((readScope schema scope).run.run world).1 := by
  rw [Run.outcome_readScope]
  exact Scope.readsAs_snapshot scope world.workspace

namespace Sample

/-- The shop's module has a container with a number for a registry. -/
def numberWorld : World :=
  { tree :=
      { home := ["work"]
        entries := [(["work"], .directory),
          (["work", "shop.py"],
            .module [] [.declare
              { name := "Shop", bases := [], registry := some (.literal (.int 5)), annotations := []
                construction := some (silentConstructor [required "connection_string"])
                closer := none }])] }
    workspace := { modules := [], memory := {} }
    events := []
    log := [] }

end Sample

/-- Not every container is read as a schema or answered for. -/
theorem readScope_numberRegistry :
    ¬∀ (identity : SchemaIdentity) (number : Nat) (schema : Option Text) (world entered : World)
      (scope : Scope),
      (Run.ofTransition (Scope.enter world.tree number identity)).run.run world =
        (.ok scope, entered) →
      (∃ snapshot refs, ((readScope schema scope).run.run entered).1 = .ok snapshot ∧
        scope.Registers entered.workspace refs ∧ snapshot.entities = refs.map .ofClass) ∨
      ∃ fault, ((readScope schema scope).run.run entered).1 = .error (.schema fault) := by
  intro hall
  let entered := Scope.enter Sample.numberWorld.tree 0 Sample.shopIdentity
    Sample.numberWorld.workspace
  have hcheck : entered.result.toOption.any (fun scope =>
      (scope.registry entered.workspace).integer?.isSome) = true := by
    decide +kernel
  obtain ⟨scope, hscope, hinteger⟩ := (Option.any_eq_true _ _).1 hcheck
  have henter :
      (Run.ofTransition (Scope.enter Sample.numberWorld.tree 0 Sample.shopIdentity)).run.run
        Sample.numberWorld = (.ok scope, Sample.numberWorld.after entered) := by
    rw [Run.run_ofTransition]
    exact Prod.ext (eq_ok_of_toOption hscope) rfl
  obtain ⟨fault, houtcome⟩ := (Scope.readsAs_snapshot scope entered.workspace).of_number hinteger
  rcases hall _ 0 none _ _ scope henter with ⟨_, _, hread, -⟩ | ⟨_, hread⟩
  · rw [Run.outcome_readScope] at hread
    cases houtcome.symm.trans hread
  · rw [Run.outcome_readScope] at hread
    cases houtcome.symm.trans hread

end QueryScaffold
