import Mathlib.Data.List.Forall2
import QueryScaffold.Proofs.Container.Lifetime
import QueryScaffold.Proofs.Schema.Distinct

/-!
# What the schema of a container satisfies

The attributes of a container are collected class by class along its lineage, and an attribute that
is annotated again keeps its place. Whatever the classes inherit from each other, each name is there
once.

* `nodup_lastValues`: no name is repeated where only last values are kept;
* `mapM_except_cases`: checks of one value after the other;
* `Scope.result_withoutRemarks`: the types of attributes without remarks;
* `Scope.nodup_attributes`: **the attributes of a container have different names**;
* `Scope.nodup_accessors_of_snapshot`: so have the accessors of its schema;
* `Scope.distinct_of_snapshot`: and no two of its entities have one shape.
-/

namespace QueryScaffold

/-! ## Names that are kept once -/

section LastValues

variable {α : Type}

/-- A value that is put adds its name only if the name is new. -/
theorem map_fst_putNamed (name : Text) (value : α) (named : List (Text × α)) :
    (putNamed name value named).map Prod.fst =
      if name ∈ named.map Prod.fst then named.map Prod.fst else named.map Prod.fst ++ [name] := by
  induction named with
  | nil => rfl
  | cons entry rest ih =>
    obtain ⟨other, earlier⟩ := entry
    rw [putNamed]
    by_cases h : other = name
    · rw [if_pos h, if_pos (by simp [h]), List.map_cons, List.map_cons, h]
    · rw [if_neg h, List.map_cons, ih, List.map_cons]
      have hmem : name ∈ other :: rest.map Prod.fst ↔ name ∈ rest.map Prod.fst := by
        simp [Ne.symm h]
      simp only [hmem]
      split <;> rfl

theorem nodup_putNamed {named : List (Text × α)} (h : (named.map Prod.fst).Nodup) (name : Text)
    (value : α) : ((putNamed name value named).map Prod.fst).Nodup := by
  rw [map_fst_putNamed]
  split
  · exact h
  · next hnew => exact List.nodup_append_comm.1 (List.nodup_cons.2 ⟨hnew, h⟩)

/-- **No name is repeated** where only last values are kept. The induction is on the values that are
still to be put among those that were. -/
theorem nodup_lastValues (named : List (Text × α)) : ((lastValues named).map Prod.fst).Nodup := by
  have hdone : ∀ done : List (Text × α), (done.map Prod.fst).Nodup →
      ((named.foldl (fun done entry => putNamed entry.1 entry.2 done) done).map
        Prod.fst).Nodup := by
    induction named with
    | nil => exact fun done h => h
    | cons entry rest ih => exact fun done h => ih _ (nodup_putNamed h _ _)
  exact hdone [] List.nodup_nil

end LastValues

/-! ## One value after the other -/

namespace Eval

variable {α β : Type}

theorem outcome_mapM_cons (code : α → Eval β) (value : α) (rest : List α) (env : Environment) :
    (((value :: rest).mapM code).run.run env).1 =
      match (code value).run.run env with
      | (.ok given, after) => ((rest.mapM code).run.run after).1.map (given :: ·)
      | (.error fault, _) => .error fault := by
  rw [List.mapM_cons, run_bind]
  rcases (code value).run.run env with ⟨_ | given, after⟩
  · rfl
  · simp only
    rw [run_bind]
    rcases (rest.mapM code).run.run after with ⟨_ | _, _⟩ <;> rfl

/-- Code that leaves everything as it is gives for values what a check of them gives. -/
theorem outcome_mapM_of_pure {code : α → Eval β} {check : α → Except CodeFault β}
    {env : Environment} (h : ∀ value, (code value).run.run env = (check value, env))
    (values : List α) : ((values.mapM code).run.run env).1 = values.mapM check := by
  induction values with
  | nil => rfl
  | cons value rest ih =>
    rw [outcome_mapM_cons, h, List.mapM_cons]
    cases check value with
    | error fault => rfl
    | ok given =>
      simp only [ih]
      cases rest.mapM check <;> rfl

end Eval

/-- Checks of one value after the other all pass, or stop at the first that fails. -/
theorem mapM_except_cases {ε α β : Type} (check : α → Except ε β) (values : List α) :
    (∃ results, values.mapM check = .ok results ∧
      List.Forall₂ (fun value result => check value = .ok result) values results) ∨
    ∃ front value back results fault, values = front ++ value :: back ∧
      List.Forall₂ (fun value result => check value = .ok result) front results ∧
      check value = .error fault ∧ values.mapM check = .error fault := by
  induction values with
  | nil => exact .inl ⟨[], rfl, .nil⟩
  | cons value rest ih =>
    rw [List.mapM_cons]
    cases hvalue : check value with
    | error fault => exact .inr ⟨[], value, rest, [], fault, rfl, .nil, hvalue, rfl⟩
    | ok result =>
      rcases ih with ⟨results, hall, hresults⟩ | ⟨front, bad, back, results, fault, rfl, hfront,
        hbad, hall⟩
      · exact .inl ⟨result :: results, by rw [hall]; rfl, .cons hvalue hresults⟩
      · exact .inr ⟨value :: front, bad, back, result :: results, fault, rfl,
          .cons hvalue hfront, hbad, by rw [hall]; rfl⟩

/-- What an outcome gives, it has come to. -/
theorem eq_ok_of_toOption {ε α : Type} {outcome : Except ε α} {value : α}
    (h : outcome.toOption = some value) : outcome = .ok value := by
  cases outcome with
  | error fault => cases h
  | ok given => rw [Option.some.inj h]

/-! ## The schema of a container -/

namespace Scope

variable {scope : Scope} {workspace : Workspace}

/-- The type of an attribute without remarks. -/
def withoutRemark (env : Environment) (named : Text × Value) : Except CodeFault (Text × Value) :=
  (env.strip named.2).map (Prod.mk named.1)

theorem withoutRemark_eq_ok_iff {env : Environment} {name other : Text} {written type : Value} :
    withoutRemark env (name, written) = .ok (other, type) ↔
      name = other ∧ env.strip written = .ok type := by
  rw [withoutRemark]
  cases env.strip written with
  | ok stripped => simp [Except.map]
  | error fault => simp [Except.map]

theorem withoutRemark_eq_error_iff {env : Environment} {named : Text × Value} {fault : CodeFault} :
    withoutRemark env named = .error fault ↔ env.strip named.2 = .error fault := by
  rw [withoutRemark]
  cases env.strip named.2 with
  | ok stripped => simp [Except.map]
  | error other => simp [Except.map]

theorem map_fst_of_withoutRemark {env : Environment} {types attributes : List (Text × Value)}
    (h : List.Forall₂ (fun named result => withoutRemark env named = .ok result) types
      attributes) : attributes.map Prod.fst = types.map Prod.fst := by
  induction h with
  | nil => rfl
  | cons hnamed _ ih =>
    rw [List.map_cons, List.map_cons, ih, (withoutRemark_eq_ok_iff.1 hnamed).1]

/-- Remarks are left out of one type after the other, up to the first for which this fails. -/
theorem result_withoutRemarks (types : List (Text × Value)) (m : ContainerModule) :
    (workspace.run m (withoutRemarks types)).result =
      (lastValues types).mapM
        (withoutRemark ((workspace.current m).environment (workspace.memory.ofLoad m.number))) := by
  refine Eval.outcome_mapM_of_pure (fun named => ?_) (lastValues types)
  generalize (workspace.current m).environment (workspace.memory.ofLoad m.number) = env
  show (Eval.ofExcept (env.strip named.2) >>= fun value => pure (named.1, value)).run.run env = _
  rw [withoutRemark]
  cases env.strip named.2 <;> rfl

/-- Leaving remarks out of types keeps the names. -/
theorem map_fst_withoutRemarks {types attributes : List (Text × Value)} {m : ContainerModule}
    (h : (workspace.run m (withoutRemarks types)).result = .ok attributes) :
    attributes.map Prod.fst = (lastValues types).map Prod.fst := by
  rw [result_withoutRemarks] at h
  rcases mapM_except_cases (withoutRemark _) (lastValues types) with
    ⟨given, hall, hgiven⟩ | ⟨-, -, -, -, fault, -, -, -, hall⟩
  · obtain rfl := Except.ok.inj (hall.symm.trans h)
    exact map_fst_of_withoutRemark hgiven
  · cases hall.symm.trans h

/-- **The attributes of a container have different names**, whatever its classes inherit from each
other. -/
theorem nodup_attributes {attributes : List (Text × Value)}
    (h : (scope.attributes workspace).result = .ok attributes) :
    (attributes.map Prod.fst).Nodup := by
  revert h
  rw [Scope.attributes, Transition.andThen]
  cases (Transition.ofEffect scope.annotationFailure
      (Workspace.resolveAll scope.home workspace (scope.lineage workspace))).result with
  | error failure => intro h; cases h
  | ok types =>
    intro h
    simp only [Transition.ofEffect] at h
    generalize (Workspace.resolveAll scope.home workspace (scope.lineage workspace)).workspace =
      resolved at h
    cases hrun : (resolved.run scope.home (withoutRemarks types)).result with
    | error fault =>
      rw [hrun] at h
      cases h
    | ok stripped =>
      rw [hrun] at h
      obtain rfl : stripped = attributes := Except.ok.inj h
      rw [map_fst_withoutRemarks hrun]
      exact nodup_lastValues types

theorem name_of_ofNamedType? {named : Text × Value} {accessor : Accessor ClassRef}
    (h : Accessor.ofNamedType? named = some accessor) : accessor.name = named.1 := by
  rw [Accessor.ofNamedType?] at h
  split at h
  · cases h
  · obtain ⟨ref, -, rfl⟩ := Option.map_eq_some_iff.1 h
    rfl

/-- So have its accessors, which are some of the attributes. -/
theorem nodup_accessors {accessors : List (Accessor ClassRef)}
    (h : (scope.accessors workspace).result = .ok accessors) :
    (accessors.map Accessor.name).Nodup := by
  revert h
  rw [Scope.accessors, Transition.andCheck]
  cases hattributes : (scope.attributes workspace).result with
  | error failure => intro h; cases h
  | ok attributes =>
    intro h
    obtain rfl := Except.ok.inj h
    have hnames := nodup_attributes hattributes
    rw [List.Nodup, List.pairwise_map] at hnames ⊢
    rw [List.pairwise_filterMap]
    refine hnames.imp fun {first second} hne a ha b hb hsame => hne ?_
    rw [← name_of_ofNamedType? ha, ← name_of_ofNamedType? hb, hsame]

/-- A schema of a container has the accessors of the container, and it has passed the test for
repeated shapes. -/
theorem exists_of_snapshot {snapshot : Snapshot ClassRef}
    (h : (scope.snapshot workspace).result = .ok snapshot) :
    (∃ between, (scope.accessors between).result = .ok snapshot.accessors) ∧
      Snapshot.distinct snapshot.entities snapshot.accessors = .ok snapshot := by
  revert h
  rw [Scope.snapshot, Transition.andThen]
  cases (scope.entities workspace).result with
  | error failure => intro h; cases h
  | ok entities =>
    simp only [Transition.andCheck]
    cases haccessors : (scope.accessors (scope.entities workspace).workspace).result with
    | error failure => intro h; cases h
    | ok accessors =>
      show (Snapshot.distinct entities accessors).mapError Failure.schema = .ok snapshot → _
      cases hdistinct : Snapshot.distinct entities accessors with
      | error fault => intro h; cases h
      | ok tested =>
        intro h
        obtain rfl : tested = snapshot := Except.ok.inj h
        obtain ⟨-, rfl⟩ := Snapshot.distinct_eq_ok_iff.1 hdistinct
        exact ⟨⟨_, haccessors⟩, hdistinct⟩

/-- A container's schema has passed the test for repeated shapes. -/
theorem distinct_of_snapshot {snapshot : Snapshot ClassRef}
    (h : (scope.snapshot workspace).result = .ok snapshot) :
    Snapshot.distinct snapshot.entities snapshot.accessors = .ok snapshot :=
  (exists_of_snapshot h).2

/-- **The accessors of a container's schema have different names.** -/
theorem nodup_accessors_of_snapshot {snapshot : Snapshot ClassRef}
    (h : (scope.snapshot workspace).result = .ok snapshot) :
    (snapshot.accessors.map Accessor.name).Nodup := by
  obtain ⟨⟨between, haccessors⟩, -⟩ := exists_of_snapshot h
  exact nodup_accessors haccessors

end Scope

end QueryScaffold
