import QueryScaffold.Proofs.Container.Reading
import QueryScaffold.Proofs.Run.Acceptance
import QueryScaffold.Proofs.Run.Steps

/-!
# Methods of one name

Two methods get one name only if two entities take accessors of one name. In a schema that was read
no two entities have one shape, so these would be two accessors of one name with different shapes. A
description can hold such accessors; a container cannot.

* `exists_accessors_of_repeatedMethod`: what stands in the schema when a run finds a method repeated;
* `Snapshot.ToldApart`: what the shapes and names of a schema say about its methods;
* `readSchema_methodNames`: **every schema that was read tells its entities apart, and the methods for
  a container never clash**.
-/

namespace QueryScaffold

section Runs

variable {σ : Type} [DecidableEq σ] {settings : Settings} {snapshot : Snapshot σ} {world : World}
  {name : Text}

/-- A run that finds a method repeated has found it so in the file of the pairs. -/
theorem fault?_of_repeatedMethod
    (h : ((generateSource settings snapshot).run.run world).1 =
      .error (.synthesis (.repeatedMethod name))) :
    (SourceFile.ofMatches settings snapshot.matching.pairs).fault? =
      some (.repeatedMethod name) := by
  rw [run_generateSource, Generation.ofSnapshot, SourceFile.render] at h
  cases hfault : (SourceFile.ofMatches settings snapshot.matching.pairs).fault? with
  | none =>
    rw [hfault] at h
    cases h
  | some fault =>
    rw [hfault] at h
    have hsame : Failure.synthesis fault = .synthesis (.repeatedMethod name) := Except.error.inj h
    rw [Failure.synthesis.inj hsame]

/-- Two pairs stand behind a method that is found repeated, and they have one accessor name. -/
theorem exists_pairs_of_repeatedMethod
    (h : ((generateSource settings snapshot).run.run world).1 =
      .error (.synthesis (.repeatedMethod name))) :
    ∃ first second, [first, second].Sublist snapshot.matching.pairs ∧
      first.accessor = second.accessor ∧ name = methodName first.accessor := by
  obtain ⟨front, m, back, hmethods, hm, earlier, hearlier, hname⟩ :=
    SourceFile.exists_of_repeatedMethod (fault?_of_repeatedMethod h)
  have hpairs : snapshot.matching.pairs.map (QueryMethod.ofMatch settings) = front ++ m :: back :=
    hmethods
  obtain ⟨before, rest, hsplit, rfl, hrest⟩ := List.map_eq_append_iff.1 hpairs
  obtain ⟨second, behind, rfl, rfl, -⟩ := List.map_eq_cons_iff.1 hrest
  obtain ⟨first, hfirst, rfl⟩ := List.mem_map.1 hearlier
  refine ⟨first, second, ?_, methodName_injective (hname.trans hm.symm), hname.symm⟩
  rw [hsplit]
  exact (List.singleton_sublist.2 hfirst).append (List.Sublist.cons_cons _ (List.nil_sublist _))

/-- **What stands in the schema when a run finds a method repeated**: two accessors of one name and
of different shapes, each the first one for an entity. -/
theorem exists_accessors_of_repeatedMethod (hshapes : (snapshot.entities.map Entity.shape).Nodup)
    (h : ((generateSource settings snapshot).run.run world).1 =
      .error (.synthesis (.repeatedMethod name))) :
    ∃ first ∈ snapshot.entities, ∃ second ∈ snapshot.entities, first ≠ second ∧
      ∃ a ∈ snapshot.accessors, ∃ b ∈ snapshot.accessors,
        snapshot.firstAccessor? first.shape = some a ∧
        snapshot.firstAccessor? second.shape = some b ∧
        a.name = b.name ∧ a.elementShape ≠ b.elementShape ∧ name = methodName a.name := by
  obtain ⟨first, second, hsublist, hsame, hname⟩ := exists_pairs_of_repeatedMethod h
  have hpair := (Snapshot.pairwise_pairs hshapes).sublist hsublist
  have hdifferent : first.entity.shape ≠ second.entity.shape :=
    List.rel_of_pairwise_cons hpair (List.mem_singleton_self second)
  obtain ⟨hfirst, a, ha, haname⟩ := Snapshot.mem_pairs_iff.1 (hsublist.subset (by simp : first ∈ _))
  obtain ⟨hsecond, b, hb, hbname⟩ :=
    Snapshot.mem_pairs_iff.1 (hsublist.subset (by simp : second ∈ _))
  obtain ⟨hamem, hashape⟩ := Snapshot.firstAccessor?_eq_some ha
  obtain ⟨hbmem, hbshape⟩ := Snapshot.firstAccessor?_eq_some hb
  refine ⟨first.entity, hfirst, second.entity, hsecond, fun he => hdifferent (he ▸ rfl), a, hamem,
    b, hbmem, ha, hb, ?_, ?_, ?_⟩
  · rw [haname, hbname, hsame]
  · rwa [hashape, hbshape]
  · rw [haname, hname]

end Runs

/-! ## Schemas that were read -/

/-- What the shapes and the names of a schema say about its entities and their methods. -/
structure Snapshot.ToldApart {σ : Type} [DecidableEq σ] (snapshot : Snapshot σ) : Prop where
  nodup_shapes : (snapshot.entities.map Entity.shape).Nodup
  /-- An accessor is a candidate of one entity at most. -/
  candidate : ∀ accessor ∈ snapshot.accessors,
    (snapshot.entities.filter (·.shape = accessor.elementShape)).length ≤ 1
  /-- Accessors of different names are taken once each, and make methods of different names. -/
  taken : (snapshot.accessors.map Accessor.name).Nodup →
    (snapshot.matching.pairs.map Match.accessor).Nodup ∧
      ∀ (settings : Settings) (world : World) (name : Text),
        ((generateSource settings snapshot).run.run world).1 ≠
          .error (.synthesis (.repeatedMethod name))
  /-- A method is found repeated only if two accessors of its name and of different shapes are the
  first ones of two entities. -/
  repeated : ∀ (settings : Settings) (world : World) (name : Text),
    ((generateSource settings snapshot).run.run world).1 =
      .error (.synthesis (.repeatedMethod name)) →
    ∃ first ∈ snapshot.entities, ∃ second ∈ snapshot.entities, first ≠ second ∧
      ∃ a ∈ snapshot.accessors, ∃ b ∈ snapshot.accessors,
        snapshot.firstAccessor? first.shape = some a ∧
        snapshot.firstAccessor? second.shape = some b ∧
        a.name = b.name ∧ a.elementShape ≠ b.elementShape ∧ name = methodName a.name

/-- Different shapes are all that it takes. -/
theorem Snapshot.toldApart_of_nodup {σ : Type} [DecidableEq σ] {snapshot : Snapshot σ}
    (h : (snapshot.entities.map Entity.shape).Nodup) : snapshot.ToldApart where
  nodup_shapes := h
  candidate := fun accessor _ => length_filter_shape_le_one h accessor.elementShape
  taken := by
    refine fun hnames => ⟨nodup_accessor_pairs h hnames, fun settings world name hrepeated => ?_⟩
    obtain ⟨_, -, _, -, -, a, ha, b, hb, -, -, hname, hshape, -⟩ :=
      exists_accessors_of_repeatedMethod h hrepeated
    exact hshape (congrArg Accessor.elementShape (List.inj_on_of_nodup_map hnames ha hb hname))
  repeated := fun _ _ _ => exists_accessors_of_repeatedMethod h

/-- A schema that passes the check of shapes has different shapes. -/
theorem Snapshot.toldApart_of_distinct {σ : Type} [DecidableEq σ] {entities : List (Entity σ)}
    {accessors : List (Accessor σ)} {snapshot : Snapshot σ}
    (h : Snapshot.distinct entities accessors = .ok snapshot) : snapshot.ToldApart := by
  obtain ⟨hshapes, rfl⟩ := Snapshot.distinct_eq_ok_iff.1 h
  exact toldApart_of_nodup hshapes

/-- A container that has a schema is read as that schema. -/
theorem Run.run_readScope_of_toOption (schema : Option Text) {scope : Scope} {world : World}
    {snapshot : Snapshot ClassRef}
    (h : (scope.snapshot world.workspace).result.toOption = some snapshot) :
    (readScope schema scope).run.run world =
      (.ok snapshot, ((readScope schema scope).run.run world).2) := by
  refine Prod.ext ?_ rfl
  rw [Run.outcome_readScope]
  exact eq_ok_of_toOption h

/-- The entities of a description that was read have different shapes. -/
theorem nodup_shapes_of_readDescription {schema : Option Text} {description : Description}
    {world after : World} {snapshot : Snapshot Text}
    (h : (readDescription schema description).run.run world = (.ok snapshot, after)) :
    (snapshot.entities.map Entity.shape).Nodup := by
  have houtcome := Run.outcome_readDescription schema description world
  rw [h] at houtcome
  cases hsnapshot : description.snapshot with
  | error fault =>
    rw [hsnapshot] at houtcome
    cases houtcome
  | ok described =>
    rw [hsnapshot] at houtcome
    obtain rfl : snapshot = described := Except.ok.inj houtcome
    exact Description.nodup_shapes_of_snapshot hsnapshot

/-- **Every schema that was read tells its entities apart, and the methods for a container never
clash.** The first of these holds for any source that passes the check of shapes, and so for a
description. The accessors of a container have different names, whatever its classes inherit from
each other. -/
theorem readSchema_methodNames :
    (∀ (σ : Type) [DecidableEq σ] (entities : List (Entity σ)) (accessors : List (Accessor σ))
        (snapshot : Snapshot σ),
      Snapshot.distinct entities accessors = .ok snapshot → snapshot.ToldApart) ∧
    (∀ (schema : Option Text) (description : Description) (world after : World)
        (snapshot : Snapshot Text),
      (readDescription schema description).run.run world = (.ok snapshot, after) →
      snapshot.ToldApart) ∧
    (∀ (schema : Option Text) (scope : Scope) (world after : World)
        (snapshot : Snapshot ClassRef),
      (readScope schema scope).run.run world = (.ok snapshot, after) →
      snapshot.ToldApart ∧
      (snapshot.accessors.map Accessor.name).Nodup ∧
      (snapshot.matching.pairs.map Match.accessor).Nodup ∧
      ∀ (settings : Settings) (start : World) (name : Text),
        ((generateSource settings snapshot).run.run start).1 ≠
          .error (.synthesis (.repeatedMethod name))) := by
  refine ⟨?_, ?_, ?_⟩
  · intro σ _ entities accessors snapshot hdistinct
    exact Snapshot.toldApart_of_distinct hdistinct
  · intro schema description world after snapshot hread
    exact Snapshot.toldApart_of_nodup (nodup_shapes_of_readDescription hread)
  · intro schema scope world after snapshot hread
    have hsnapshot : (scope.snapshot world.workspace).result = .ok snapshot := by
      rw [← Run.outcome_readScope schema, hread]
    have hnames := Scope.nodup_accessors_of_snapshot hsnapshot
    have htold := Snapshot.toldApart_of_distinct (Scope.distinct_of_snapshot hsnapshot)
    exact ⟨htold, hnames, htold.taken hnames⟩

namespace Sample

/-- The identity of a container. -/
def heirIdentity : SchemaIdentity :=
  { schemaName := "Shop"
    connectionString := "Data Source=shop.db"
    moduleLocation := "shop.py"
    containerNamespace := "Shop.Models" }

/-- Settings for that container. -/
def heirSettings : Settings :=
  { acceptedSettings with
    codeNamespace := "Shop", schemaIdentity := heirIdentity, usings := [] }

/-- A description of two entities whose accessors have one name. -/
def sameNames : Description :=
  ⟨[("entities", .array [.object [("name", .string "Order")], .object [("name", .string "Shift")]]),
    ("accessors", .array
      [.object [("name", .string "Rows"), ("elementType", .string "Order")],
        .object [("name", .string "Rows"), ("elementType", .string "Shift")]])]⟩

/-- The schema that it describes. -/
def sameNamesSnapshot : Snapshot Text :=
  { entities := [⟨"Order", "Order"⟩, ⟨"Shift", "Shift"⟩]
    accessors := [⟨"Rows", "Order"⟩, ⟨"Rows", "Shift"⟩] }

/-- A container whose class annotates an attribute again that a class annotates that it inherits
from. -/
def heirModule : List Statement :=
  [rowClass "Customer" [],
    .declare
      { name := "Store", bases := [], registry := none
        annotations := [("Customers", "list[Customer]"), ("Guests", "list[int]")]
        construction := some (silentConstructor [required "connection_string"]), closer := none },
    .declare
      { name := "Shop", bases := [.name "Store"]
        registry := some (.members [.reference (.name "Customer")])
        annotations := [("Guests", "list[Customer]")]
        construction := none, closer := none }]

/-- The container's module is in the working directory. -/
def heirWorld : World :=
  { tree :=
      { home := ["work"]
        entries := [(["work"], .directory), (["work", "shop.py"], .module [] heirModule)] }
    workspace := { modules := [], memory := {} }
    events := []
    log := [] }

/-- The scope of the container with the state that entering it has left. -/
def heirScope? : Option (Scope × World) :=
  let entered := Scope.enter heirWorld.tree 0 heirIdentity heirWorld.workspace
  entered.result.toOption.map fun scope => (scope, heirWorld.after entered)

/-- The schema of the container. -/
def heirSnapshot? : Option (Snapshot ClassRef) :=
  heirScope?.bind fun entered => (entered.1.snapshot entered.2.workspace).result.toOption

end Sample

/-- Accessors of one name are found in a description, and not in a container. -/
theorem readSchema_methodNames_rows :
    Sample.sameNamesSnapshot.ToldApart ∧
    (∃ after a b,
      (readDescription none Sample.sameNames).run.run Sample.emptyWorld =
        (.ok Sample.sameNamesSnapshot, after) ∧
      ((generateSource Sample.heirSettings Sample.sameNamesSnapshot).run.run
        Sample.emptyWorld).1 = .error (.synthesis (.repeatedMethod "GetRows")) ∧
      a ∈ Sample.sameNamesSnapshot.accessors ∧ b ∈ Sample.sameNamesSnapshot.accessors ∧
      a.name = b.name ∧ a.elementShape ≠ b.elementShape) ∧
    ∃ scope world snapshot after,
      (readScope none scope).run.run world = (.ok snapshot, after) ∧
      snapshot.accessors.map Accessor.name = ["Customers", "Guests"] ∧
      (snapshot.matching.pairs.map Match.accessor).Nodup := by
  have hdistinct : Snapshot.distinct Sample.sameNamesSnapshot.entities
      Sample.sameNamesSnapshot.accessors = .ok Sample.sameNamesSnapshot := rfl
  refine ⟨readSchema_methodNames.1 Text _ _ _ hdistinct, ?_, ?_⟩
  · have hread : (readDescription none Sample.sameNames).run.run Sample.emptyWorld =
        (.ok Sample.sameNamesSnapshot, _) := rfl
    have hfault : (SourceFile.ofMatches Sample.heirSettings
        Sample.sameNamesSnapshot.matching.pairs).fault? =
        some (.repeatedMethod "GetRows") := by decide +kernel
    have hrepeated : ((generateSource Sample.heirSettings Sample.sameNamesSnapshot).run.run
        Sample.emptyWorld).1 = .error (.synthesis (.repeatedMethod "GetRows")) := by
      rw [run_generateSource, Generation.ofSnapshot, SourceFile.render, hfault]
      rfl
    obtain ⟨_, -, _, -, -, a, ha, b, hb, -, -, hname, hshape, -⟩ :=
      (readSchema_methodNames.2.1 none Sample.sameNames _ _ _ hread).repeated _ _ _ hrepeated
    exact ⟨_, a, b, hread, hrepeated, ha, hb, hname, hshape⟩
  · have hcheck : Sample.heirSnapshot?.any (fun snapshot => decide
        (snapshot.accessors.map Accessor.name = (["Customers", "Guests"] : List Text))) = true := by
      decide +kernel
    obtain ⟨snapshot, hsnapshot, hnames⟩ := (Option.any_eq_true _ _).1 hcheck
    obtain ⟨⟨scope, world⟩, -, hresult⟩ := Option.bind_eq_some_iff.1 hsnapshot
    have hread := Run.run_readScope_of_toOption none hresult
    exact ⟨scope, world, snapshot, _, hread, of_decide_eq_true hnames,
      (readSchema_methodNames.2.2 none scope world _ snapshot hread).2.2.1⟩

end QueryScaffold
