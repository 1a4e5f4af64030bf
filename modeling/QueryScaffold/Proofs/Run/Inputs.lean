import QueryScaffold.Proofs.Json.Faults
import QueryScaffold.Proofs.Json.RoundTrip
import QueryScaffold.Proofs.Run.Steps
import QueryScaffold.Run.Inputs

/-!
# Reading the inputs

A run reads its settings and a schema file as JSON, and leaves everything as it is. What is wrong with
a file is a fault of the configuration, with two exceptions: bytes that are not UTF-8, and an integer
with too many digits, are let through.

* `run_loadDescription`, `run_loadSettings`: what reading a file gives, as equations;
* `loadDescription_of_isWritten`: **a description is read back from its JSON text**, with any white
  space between the tokens;
* `LetThrough`: the failures that are let through, with what the file then holds;
* `inputFile_failures`: **how reading a file fails**, for all contents.
-/

namespace QueryScaffold

variable {path : Path} {world : World}

/-! ## What reading a file gives -/

theorem run_loadDescription (path : Path) (world : World) :
    (loadDescription path).run.run world =
      ((world.tree.readObject path).map Description.mk, world) := by
  show (Run.check (world.tree.readObject path) >>= fun entries =>
    (pure ⟨entries⟩ : Run Description)).run.run world = _
  rw [Run.run_bind, Run.run_check]
  cases world.tree.readObject path <;> rfl

/-- The path is the one that is given or that of the working directory, and the overrides do not name
it a second time. -/
theorem run_loadSettings {given : Option Path} {overrides : Entries}
    (hpath : given.getD world.tree.defaultSettingsPath = path)
    (hoverrides : overrides.get? pathKey = none) (hfile : world.tree.isFile path = .ok true) :
    (loadSettings given overrides).run.run world =
      (match world.tree.readJson path with
        | .error failure => .error failure
        | .ok (.object entries) => Settings.validate (.object (Entries.update entries overrides))
        | .ok _ => .error (.configuration (.notObject path.text)), world) := by
  subst hpath
  unfold loadSettings
  rw [hoverrides]
  show (Run.check (Settings.entriesAt? world.tree (given.getD world.tree.defaultSettingsPath)) >>=
    _).run.run world = _
  rw [Run.run_bind, Run.run_check, Settings.entriesAt?, hfile]
  cases world.tree.readJson (given.getD world.tree.defaultSettingsPath) with
  | error failure => rfl
  | ok value =>
    cases value
    case object entries => exact Run.run_check _ world
    all_goals rfl

theorem Tree.readObject_of_isFile {tree : Tree} (hfile : tree.isFile path = .ok true) :
    tree.readObject path =
      match tree.readJson path with
      | .error failure => .error failure
      | .ok (.object entries) => .ok entries
      | .ok _ => .error (.resolution (.schemaFileNotObject path.text)) := by
  cases hread : tree.readJson path with
  | error failure => simp only [readObject, hfile, hread]
  | ok value => cases value <;> simp only [readObject, hfile, hread]

/-! ## Reading back what was written -/

/-- **A description is read back from its JSON text**, with any white space between the tokens, line
endings of any kind among it. -/
theorem loadDescription_of_isWritten {entries : Entries} (h : (Json.object entries).Plain)
    {text : List Char} (htext : (Json.object entries).IsWritten text)
    (hfile : world.tree.isFile path = .ok true)
    (hcontent : world.tree.content path = utf8BytesOf text) :
    (loadDescription path).run.run world = (.ok ⟨entries⟩, world) := by
  have hread : world.tree.readJson path = .ok (.object entries) := by
    rw [Tree.readJson, hcontent, Json.ofBytes_of_isWritten h htext]
    rfl
  rw [run_loadDescription, Tree.readObject_of_isFile hfile, hread]
  rfl

namespace Sample

/-- A working directory with one file. -/
def fileWorld (name : Text) (content : List UInt8) : World :=
  { tree := ⟨["work"], [(["work"], .directory), (["work", name], .file content)]⟩
    workspace := .initial
    events := []
    log := [] }

/-- A path that consists of one name. -/
def filePath (name : Text) : Path :=
  ⟨.relative, [name]⟩

/-- Entries with characters that are escaped. -/
def plainEntries : Entries :=
  [("café", .int (-12)), ("😀\n", .array [.null, .bool true])]

/-- The entries in writing, with white space of every kind. -/
def plainText : List Char :=
  "\x7b\r\n\"caf\\u00e9\":\t-12\r, \"\\ud83d\\ude00\\n\":[null,true]\x7d\n".toList

end Sample

theorem plain_plainEntries : (Json.object Sample.plainEntries).Plain := by
  refine .object (by decide) (by decide) ?_
  simp only [Sample.plainEntries, List.forall_mem_cons]
  refine ⟨.int (by decide), .array ?_, by simp⟩
  simp only [List.forall_mem_cons]
  exact ⟨.null, .bool true, by simp⟩

theorem isWritten_plainText : (Json.object Sample.plainEntries).IsWritten Sample.plainText := by
  have hnone : Json.IsGap [] := Json.isGap_nil
  have hreturn : Json.IsGap ['\r'] := hnone.cons rfl
  have hfeed : Json.IsGap ['\n'] := hnone.cons rfl
  have htab : Json.IsGap ['\t'] := hnone.cons rfl
  have hspace : Json.IsGap [' '] := hnone.cons rfl
  have hcrlf : Json.IsGap ['\r', '\n'] := hfeed.cons rfl
  exact ⟨[], _, hnone, .cons hcrlf (.cons hnone (.cons htab (.cons hreturn (.cons hspace (.cons hnone
    (.cons hnone (.cons hnone (.cons hnone (.cons hnone (.cons hnone (.cons hnone (.cons hfeed
      .nil)))))))))))), by decide +kernel⟩

theorem loadDescription_of_isWritten_plainEntries :
    (loadDescription (Sample.filePath "s.json")).run.run
        (Sample.fileWorld "s.json" (utf8BytesOf Sample.plainText)) =
      (.ok ⟨Sample.plainEntries⟩, Sample.fileWorld "s.json" (utf8BytesOf Sample.plainText)) :=
  loadDescription_of_isWritten plain_plainEntries isWritten_plainText rfl rfl

/-! ## Files at fault -/

/-- The failures that are let through, with what the file then holds. -/
inductive LetThrough (content : List UInt8) : Failure → Prop
  | undecodable {fault : Utf8Fault} : (∀ t : Text, t.utf8? ≠ some content) →
      LetThrough content (.undecodable fault)
  | numberTooLong {n : Nat} {t : Text} : t.utf8? = some content → Json.maxDigits < n →
      Json.HasDigits n t.chars → LetThrough content (.numberTooLong n)

theorem Tree.readJson_error {tree : Tree} {failure : Failure}
    (h : tree.readJson path = .error failure) :
    (∃ fault, failure = .configuration fault) ∨ LetThrough (tree.content path) failure := by
  rw [readJson] at h
  cases hread : Json.ofBytes (tree.content path) with
  | ok value =>
    rw [hread] at h
    cases h
  | error fault =>
    rw [hread] at h
    obtain rfl := Except.error.inj h
    obtain ⟨reason, rfl, hnone⟩ | ⟨reason, place, rfl, -⟩ | ⟨n, rfl, hlong, t, ht, hdigits⟩ :=
      Json.ofBytes_error hread
    · exact .inr (.undecodable hnone)
    · exact .inl ⟨_, rfl⟩
    · exact .inr (.numberTooLong ht hlong hdigits)

theorem exists_undecodable {tree : Tree} (h : ∀ t : Text, t.utf8? ≠ some (tree.content path)) :
    ∃ fault, tree.readJson path = .error (.undecodable fault) := by
  obtain ⟨reason, hreason⟩ := Json.exists_encoding h
  exact ⟨reason, by rw [Tree.readJson, hreason]; rfl⟩

theorem loadSettings_error {overrides : Entries} (hoverrides : overrides.get? pathKey = none)
    (hfile : world.tree.isFile path = .ok true) {failure : Failure}
    (h : ((loadSettings (some path) overrides).run.run world).1 = .error failure) :
    (∃ fault, failure = .configuration fault) ∨ LetThrough (world.tree.content path) failure := by
  have hpath : (some path).getD world.tree.defaultSettingsPath = path := rfl
  rw [run_loadSettings hpath hoverrides hfile] at h
  cases hread : world.tree.readJson path with
  | error other =>
    rw [hread] at h
    obtain rfl := Except.error.inj h
    exact Tree.readJson_error hread
  | ok value =>
    rw [hread] at h
    cases value
    case object entries =>
      simp only [Settings.validate] at h
      split at h
      · cases h
      · exact .inl ⟨_, (Except.error.inj h).symm⟩
    all_goals exact .inl ⟨_, (Except.error.inj h).symm⟩

theorem loadDescription_error (hfile : world.tree.isFile path = .ok true) {failure : Failure}
    (h : ((loadDescription path).run.run world).1 = .error failure) :
    (∃ fault, failure = .configuration fault) ∨
      failure = .resolution (.schemaFileNotObject path.text) ∨
      LetThrough (world.tree.content path) failure := by
  rw [run_loadDescription, Tree.readObject_of_isFile hfile] at h
  cases hread : world.tree.readJson path with
  | error other =>
    rw [hread] at h
    obtain rfl := Except.error.inj h
    exact (Tree.readJson_error hread).imp_right .inr
  | ok value =>
    rw [hread] at h
    cases value
    case object entries => cases h
    all_goals exact .inr (.inl (Except.error.inj h).symm)

/-- **How reading a file fails**, for all contents. The settings and a schema file are refused with a
fault of the configuration, or for not holding an object, or with one of the failures that are let
through; and a failure to decode is let through exactly if no text has the bytes. -/
theorem inputFile_failures {overrides : Entries} (hoverrides : overrides.get? pathKey = none)
    (hfile : world.tree.isFile path = .ok true) :
    (∀ failure, ((loadSettings (some path) overrides).run.run world).1 = .error failure →
      (∃ fault, failure = .configuration fault) ∨ LetThrough (world.tree.content path) failure) ∧
    (∀ failure, ((loadDescription path).run.run world).1 = .error failure →
      (∃ fault, failure = .configuration fault) ∨
        failure = .resolution (.schemaFileNotObject path.text) ∨
        LetThrough (world.tree.content path) failure) ∧
    ((∀ t : Text, t.utf8? ≠ some (world.tree.content path)) →
      ∃ fault, ((loadSettings (some path) overrides).run.run world).1 =
          .error (.undecodable fault) ∧
        ((loadDescription path).run.run world).1 = .error (.undecodable fault)) := by
  have hpath : (some path).getD world.tree.defaultSettingsPath = path := rfl
  refine ⟨fun failure => loadSettings_error hoverrides hfile, fun failure =>
    loadDescription_error hfile, fun hnone => ?_⟩
  obtain ⟨fault, hfault⟩ := exists_undecodable hnone
  refine ⟨fault, ?_, ?_⟩
  · rw [run_loadSettings hpath hoverrides hfile, hfault]
  · rw [run_loadDescription, Tree.readObject_of_isFile hfile, hfault]
    rfl

/-- A byte with which no character starts. -/
theorem inputFile_failures_badStart :
    ∃ fault,
      ((loadSettings (some (Sample.filePath "a.json")) []).run.run
        (Sample.fileWorld "a.json" [0xFF])).1 = .error (.undecodable fault) ∧
      ((loadDescription (Sample.filePath "a.json")).run.run
        (Sample.fileWorld "a.json" [0xFF])).1 = .error (.undecodable fault) := by
  have hoverrides : Entries.get? pathKey [] = none := rfl
  have hfile : (Sample.fileWorld "a.json" [0xFF]).tree.isFile (Sample.filePath "a.json") =
      .ok true := rfl
  have hnone : ∀ t : Text, t.utf8? ≠ some [0xFF] := decodeUtf8_eq_error_iff.1 ⟨_, rfl⟩
  exact (inputFile_failures hoverrides hfile).2.2 hnone

/-- Neither function answers for the byte: the failure is no fault of the configuration. -/
theorem undecodable_badStart :
    ((loadSettings (some (Sample.filePath "a.json")) []).run.run
      (Sample.fileWorld "a.json" [0xFF])).1 = .error (.undecodable ⟨0xFF, 0, 1, .badStart⟩) ∧
    ((loadDescription (Sample.filePath "a.json")).run.run
      (Sample.fileWorld "a.json" [0xFF])).1 = .error (.undecodable ⟨0xFF, 0, 1, .badStart⟩) ∧
    (Failure.undecodable ⟨0xFF, 0, 1, .badStart⟩).isHandled = false :=
  ⟨rfl, rfl, rfl⟩

end QueryScaffold
