import QueryScaffold.Proofs.Run.Steps
import QueryScaffold.Proofs.Schema.Description

/-!
# Reading a value as a schema

A JSON value may be malformed at any depth and in several places at once. Whatever it is, reading it
as the description of a schema gives the schema or refuses the value, with the first of its faults.

* `readValue`: the schema that a value describes;
* `outcome_readValue`: **a value is read exactly if it describes a schema, and any other one is
  refused with its first fault**.
-/

namespace QueryScaffold

/-- Takes a value as the description of a schema and reads it. -/
def readValue (schema : Option Text) (value : Json) : Run (Snapshot Text) := do
  let description ← Run.check ((Description.ofJson value).mapError .schema)
  readDescription schema description

theorem run_readValue (schema : Option Text) (value : Json) (world : World) :
    ((readValue schema value).run.run world).1 = (Description.read value).mapError .schema := by
  rw [readValue, Run.run_bind, Run.run_check, Description.read]
  cases Description.ofJson value with
  | error fault => rfl
  | ok description => exact Run.outcome_readDescription schema description world

/-- **Descriptions are accepted exactly.** A value is read as a schema if and only if it describes
this schema, and there is no way to fail but the first fault of the value, which the message
names. -/
theorem outcome_readValue (schema : Option Text) (value : Json) (world : World) :
    (∀ snapshot, ((readValue schema value).run.run world).1 = .ok snapshot ↔
      Description.Describes value snapshot) ∧
    ∀ failure, ((readValue schema value).run.run world).1 = .error failure ↔
      ∃ fault, Description.FirstFault value fault ∧ failure = .schema fault ∧
        fault.subject <+: failure.message := by
  rw [run_readValue]
  refine ⟨fun snapshot => ?_, fun failure => ?_⟩
  · rw [← Description.read_eq_ok_iff]
    cases Description.read value with
    | ok read => simp [Except.mapError]
    | error fault => simp [Except.mapError]
  · simp only [← Description.read_eq_error_iff]
    cases Description.read value with
    | ok read => simp [Except.mapError]
    | error fault =>
      constructor
      · rintro ⟨⟩
        exact ⟨fault, rfl, rfl, fault.subject_isPrefix_message⟩
      · rintro ⟨_, ⟨⟩, rfl, -⟩
        rfl

-- Of an entity without a name, an accessor that is no object and two equal shapes, the name is
-- missed first.
example :
    Description.read (.object
      [("accessors", .array [.null]),
        ("entities", .array
          [.object [("name", .string "Order")], .object [("name", .string "Order")],
            .object [("name", .string " ")]])]) = .error (.missingName .entities 2) := rfl

end QueryScaffold
