import QueryScaffold.Proofs.Run.Inputs
import QueryScaffold.Proofs.Settings.Overriding
import QueryScaffold.Proofs.Settings.Reading

/-!
# Settings with overrides

Settings that are read from a file are those of its object with the overrides in it.

* `loadSettings_overridden`: **overrides take the place of what the file says of their fields**, in
  either spelling, but for those that the file masks with a published name.
-/

namespace QueryScaffold

variable {path : Path} {world : World} {entries overrides : Entries}

open Settings

/-- **Overrides take the place of what the file says of their fields**, but for masked ones: an
override by a plain name is lost exactly if the file has the field under its published name. The
settings that are read show the value of each override that is not lost, and for one that is lost the
value in the file. -/
theorem loadSettings_overridden {given : Option Path}
    (hpath : given.getD world.tree.defaultSettingsPath = path)
    (hoverrides : overrides.get? pathKey = none)
    (honce : ∀ field : Field, (field.key.standing overrides).length ≤ 1)
    (hfile : world.tree.isFile path = .ok true)
    (hread : Json.ofBytes (world.tree.content path) = .ok (.object entries)) :
    (loadSettings given overrides).run.run world =
      (validate (.object (replaced entries (unmasked entries overrides))), world) ∧
    ((∀ override ∈ overrides, isMasked entries override.1 = false) →
      (loadSettings given overrides).run.run world =
        (validate (.object (replaced entries overrides)), world)) ∧
    ∀ settings, ((loadSettings given overrides).run.run world).1 = .ok settings →
      ∀ (field : Field), ∀ override ∈ overrides, field.key.isName override.1 →
        (isMasked entries override.1 = false → settings.Shows field override.2) ∧
        ∀ value, isMasked entries override.1 = true →
          entries.get? field.key.published = some value → settings.Shows field value := by
  have hjson : world.tree.readJson path = .ok (.object entries) := by
    rw [Tree.readJson, hread]
    rfl
  have hrun : (loadSettings given overrides).run.run world =
      (validate (.object (replaced entries (unmasked entries overrides))), world) := by
    rw [run_loadSettings hpath hoverrides hfile, hjson, ← validate_update honce]
  refine ⟨hrun, fun hnone => ?_, fun settings hok field override hmem hname => ?_⟩
  · have hunmasked : unmasked entries overrides = overrides :=
      List.filter_eq_self.2 fun override hm => by rw [hnone override hm]; rfl
    rw [hrun, hunmasked]
  · rw [hrun] at hok
    have hholds := (validate_eq_ok_iff.1 hok).2
    refine ⟨fun hmasked => ?_, fun value hmasked hvalue => ?_⟩
    · exact hholds.shows (value?_of_not_isMasked hmem hname (honce field) hmasked)
    · exact hholds.shows (value?_of_isMasked hmem hname (honce field) hmasked hvalue)

namespace Sample

/-- Settings with a class name under its published name. -/
def publishedEntries : Entries :=
  [("ClassName", .string "FromFile"),
    ("Schema", .object [("SchemaName", .string "Shop"), ("ConnectionString", .string "x"),
      ("ModuleLocation", .string "shop.py"), ("ContainerNamespace", .string "Shop.Models")])]

/-- A working directory with a file of these settings. -/
def publishedWorld : World :=
  fileWorld "a.json" (utf8BytesOf (Json.object publishedEntries).compact.chars)

/-- The file gives a class name under the published name, and no name of a file. -/
def plainOverrides : Entries :=
  [("class_name", .string "Root"), ("file_name", .string " Root.cs ")]

/-- The settings that are read. -/
def publishedSettings : Settings where
  codeNamespace := "GraphQL"
  className := "FromFile"
  baseTypeName := "QueryBase"
  schemaIdentity := ⟨"Shop", "x", "shop.py", "Shop.Models"⟩
  usings := []
  modelNamespace := none
  queryCapabilities := Capability.all
  contextVariablePrefix := "dbContext"
  queryHelperName := "ApplyQueryBehaviors"
  directoryName := "generated"
  fileName := "Root.cs"

end Sample

theorem plain_publishedEntries : (Json.object Sample.publishedEntries).Plain := by
  refine .object (by decide) (by decide) ?_
  simp only [Sample.publishedEntries, List.forall_mem_cons]
  refine ⟨.string (by decide), .object (by decide) (by decide) ?_, by simp⟩
  simp only [List.forall_mem_cons]
  exact ⟨.string (by decide), .string (by decide), .string (by decide), .string (by decide), by simp⟩

theorem ofBytes_publishedWorld :
    Json.ofBytes (Sample.publishedWorld.tree.content (Sample.filePath "a.json")) =
      .ok (.object Sample.publishedEntries) :=
  Json.ofBytes_of_isWritten plain_publishedEntries (Json.isWritten_compact _)

theorem standing_plainOverrides (field : Field) :
    (field.key.standing Sample.plainOverrides).length ≤ 1 := by
  cases field <;> decide

theorem isFile_publishedWorld :
    Sample.publishedWorld.tree.isFile (Sample.filePath "a.json") = .ok true := rfl

theorem getD_publishedWorld :
    (some (Sample.filePath "a.json")).getD Sample.publishedWorld.tree.defaultSettingsPath =
      Sample.filePath "a.json" := rfl

theorem validate_publishedEntries :
    validate (.object (replaced Sample.publishedEntries
      (unmasked Sample.publishedEntries Sample.plainOverrides))) =
        .ok Sample.publishedSettings := rfl

theorem loadSettings_overridden_plain :
    (loadSettings (some (Sample.filePath "a.json")) Sample.plainOverrides).run.run
      Sample.publishedWorld = (.ok Sample.publishedSettings, Sample.publishedWorld) ∧
    Sample.publishedSettings.Shows .className (.string "FromFile") ∧
    Sample.publishedSettings.Shows .fileName (.string " Root.cs ") := by
  have hoverrides : Sample.plainOverrides.get? pathKey = none := rfl
  obtain ⟨hrun, -, hshows⟩ := loadSettings_overridden getD_publishedWorld hoverrides
    standing_plainOverrides isFile_publishedWorld ofBytes_publishedWorld
  rw [validate_publishedEntries] at hrun
  have hok := congrArg Prod.fst hrun
  refine ⟨hrun, ?_, ?_⟩
  · exact (hshows _ hok .className ("class_name", .string "Root") (by simp [Sample.plainOverrides])
      rfl).2 _ rfl rfl
  · exact (hshows _ hok .fileName ("file_name", .string " Root.cs ") (by simp [Sample.plainOverrides])
      rfl).1 rfl

/-- **An override can be lost**: the settings have the class name of the file, where the object with
the overrides in place of all that it says of their fields has another one. -/
theorem override_lost :
    (loadSettings (some (Sample.filePath "a.json")) Sample.plainOverrides).run.run
      Sample.publishedWorld = (.ok Sample.publishedSettings, Sample.publishedWorld) ∧
    validate (.object (replaced Sample.publishedEntries Sample.plainOverrides)) =
      .ok { Sample.publishedSettings with className := "Root" } ∧
    Sample.publishedSettings.className ≠ ("Root" : Text) := by
  have hoverrides : Sample.plainOverrides.get? pathKey = none := rfl
  have hjson : Sample.publishedWorld.tree.readJson (Sample.filePath "a.json") =
      .ok (.object Sample.publishedEntries) := by
    rw [Tree.readJson, ofBytes_publishedWorld]
    rfl
  have hvalid : validate (.object (Sample.publishedEntries.update Sample.plainOverrides)) =
      .ok Sample.publishedSettings := rfl
  refine ⟨?_, rfl, by decide⟩
  rw [run_loadSettings getD_publishedWorld hoverrides isFile_publishedWorld, hjson]
  simp only [hvalid]

end QueryScaffold
