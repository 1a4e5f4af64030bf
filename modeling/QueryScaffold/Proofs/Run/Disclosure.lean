import QueryScaffold.Proofs.Run.GeneratedMethods

/-!
# What a run discloses of the container

How to reach the container is part of the settings, and may hold a password. With a description in
place of the container no part of a run makes use of it: settings without it lead to the same text,
failure, log and files. The namespace of the container shows only where it is the one of the entity
types.

* `Settings.withoutConnection`: the settings without the way to the container;
* `Settings.imports_withoutConnection`, …, `run_withoutConnection`: each part of a run does the same
  for them;
* `Settings.SameButForConnection`: settings that differ in nothing else;
* `run_of_sameButForConnection`: **no run from a description tells such settings apart**.
-/

namespace QueryScaffold

namespace Settings

/-- The settings without the way to the container. Its namespace stays if the entity types are in
it. -/
def withoutConnection (settings : Settings) : Settings :=
  { settings with
    schemaIdentity :=
      { schemaName := settings.schemaIdentity.schemaName
        connectionString := []
        moduleLocation := []
        containerNamespace :=
          if settings.modelNamespace = none then settings.schemaIdentity.containerNamespace
          else [] } }

/-- Settings that are the same but for the way to the container. The namespace of the container may
differ as well if the settings name another one for the entity types. -/
structure SameButForConnection (first second : Settings) : Prop where
  others : { first with schemaIdentity := second.schemaIdentity } = second
  schemaName : first.schemaIdentity.schemaName = second.schemaIdentity.schemaName
  containerNamespace : first.modelNamespace = none →
    first.schemaIdentity.containerNamespace = second.schemaIdentity.containerNamespace

theorem SameButForConnection.withoutConnection_eq {first second : Settings}
    (h : first.SameButForConnection second) :
    first.withoutConnection = second.withoutConnection := by
  have hnamespace :
      (if first.modelNamespace = none then first.schemaIdentity.containerNamespace else []) =
        if first.modelNamespace = none then second.schemaIdentity.containerNamespace else [] := by
    split
    · next hnone => exact h.containerNamespace hnone
    · rfl
  rw [withoutConnection, h.schemaName, hnamespace, ← h.others]
  rfl

variable (settings : Settings)

@[simp]
theorem entityNamespace_withoutConnection :
    settings.withoutConnection.entityNamespace = settings.entityNamespace := by
  show settings.modelNamespace.getD (if settings.modelNamespace = none then _ else _) = _
  rw [entityNamespace]
  cases settings.modelNamespace <;> rfl

@[simp]
theorem imports_withoutConnection :
    settings.withoutConnection.imports = settings.imports := by
  rw [imports, entityNamespace_withoutConnection, imports]
  rfl

end Settings

variable {σ : Type} (settings : Settings)

@[simp]
theorem SourceFile.ofMatches_withoutConnection (pairs : List (Match σ)) :
    ofMatches settings.withoutConnection pairs = ofMatches settings pairs := by
  rw [ofMatches, ofMethods, Settings.imports_withoutConnection]
  rfl

@[simp]
theorem Generation.ofSnapshot_withoutConnection [DecidableEq σ] (snapshot : Snapshot σ) :
    ofSnapshot settings.withoutConnection snapshot = ofSnapshot settings snapshot := by
  rw [ofSnapshot, SourceFile.ofMatches_withoutConnection, ofSnapshot]

@[simp]
theorem generateSource_withoutConnection [DecidableEq σ] (snapshot : Snapshot σ) :
    generateSource settings.withoutConnection snapshot = generateSource settings snapshot := by
  rw [generateSource, Generation.ofSnapshot_withoutConnection, generateSource]
  rfl

/-- A description is read without the way to the container. -/
@[simp]
theorem readSource_withoutConnection (description : Description) :
    readSource settings.withoutConnection (some description) =
      readSource settings (some description) := rfl

@[simp]
theorem generate_withoutConnection (description : Description) :
    generate settings.withoutConnection (some description) =
      generate settings (some description) := by
  rw [generate, readSource_withoutConnection, generate]
  simp only [generateSource_withoutConnection]
  rfl

@[simp]
theorem run_withoutConnection (description : Description) :
    run settings.withoutConnection (some description) = run settings (some description) := by
  rw [run, generate_withoutConnection, run]
  rfl

/-- **No run from a description tells settings apart that differ in the way to the container only.**
What it gives or fails with, its log, its files and everything else in the state of the run are the
same. -/
theorem run_of_sameButForConnection {first second : Settings}
    (h : first.SameButForConnection second) (description : Description) (world : World) :
    (run first (some description)).run.run world =
      (run second (some description)).run.run world := by
  rw [← run_withoutConnection first, h.withoutConnection_eq, run_withoutConnection]

namespace Sample

/-- Settings that name a namespace for the entity types, with a way to the container. -/
def reachedBy (connectionString moduleLocation containerNamespace : Text) : Settings :=
  { acceptedSettings with
    codeNamespace := "Shop"
    schemaIdentity :=
      { schemaName := "Shop", connectionString, moduleLocation, containerNamespace }
    usings := []
    modelNamespace := some "Shop.Data" }

/-- The container is reached without a password. -/
def openSettings : Settings := reachedBy "Server=localhost" "schema/local.py" "Local.Models"

/-- The container is reached with a password. -/
def secretSettings : Settings :=
  reachedBy "Server=live;Password=secret" "schema/live.py" "Live.Models"

/-- A description of one entity with its accessor. -/
def describedOrders : Description :=
  ⟨[("entities", .array [.object [("name", .string "Order")]]),
    ("accessors", .array
      [.object [("name", .string "Orders"), ("elementType", .string "Order")]])]⟩

/-- A working directory with nothing in it. -/
def workWorld : World :=
  { emptyWorld with tree := { home := ["work"], entries := [(["work"], .directory)] } }

end Sample

/-- A password in the settings changes nothing in a run that writes its file. -/
theorem run_of_sameButForConnection_orders :
    Sample.openSettings.SameButForConnection Sample.secretSettings ∧
      Sample.openSettings.schemaIdentity.connectionString ≠
        Sample.secretSettings.schemaIdentity.connectionString ∧
      Sample.openSettings.schemaIdentity.containerNamespace ≠
        Sample.secretSettings.schemaIdentity.containerNamespace ∧
      (∃ g after, g.outputPath = some (Path.ofText "generated/Query.cs") ∧
        (run Sample.openSettings (some Sample.describedOrders)).run.run Sample.workWorld =
          (.ok g, after)) ∧
      (run Sample.openSettings (some Sample.describedOrders)).run.run Sample.workWorld =
        (run Sample.secretSettings (some Sample.describedOrders)).run.run Sample.workWorld := by
  have hsame : Sample.openSettings.SameButForConnection Sample.secretSettings :=
    ⟨rfl, rfl, fun h => nomatch h⟩
  have hwritten : ((run Sample.openSettings (some Sample.describedOrders)).run.run
      Sample.workWorld).1.toOption.bind Generation.outputPath =
        some (Path.ofText "generated/Query.cs") := by decide +kernel
  refine ⟨hsame, by decide, by decide, ?_, run_of_sameButForConnection hsame _ _⟩
  obtain ⟨g, hg, hpath⟩ := Option.bind_eq_some_iff.1 hwritten
  cases hrun : (run Sample.openSettings (some Sample.describedOrders)).run.run Sample.workWorld with
  | mk outcome after =>
    rw [hrun] at hg
    cases outcome with
    | error failure => cases hg
    | ok generation =>
      obtain rfl : generation = g := Option.some.inj hg
      exact ⟨generation, after, hpath, rfl⟩

end QueryScaffold
