import Mathlib.Data.Set.Function
import QueryScaffold.Proofs.Schema.Matching
import QueryScaffold.Report.Notice
import QueryScaffold.Schema.Description

/-!
# Schemas with other shapes

A schema says of its shapes only which of them are the same. If different shapes get different
names, nothing that is done with a schema can tell the names from the shapes: the test for repeated
shapes, the matching and its warnings all come out alike. The names can be written down in a
description, which is then read as the schema with these names.

* `Snapshot.shapes`: the shapes of a schema, on which a relabelling has to be injective;
* `Snapshot.distinct_map`: **the test for repeated shapes comes out alike**;
* `Snapshot.matching_map`: **the matching is the same one with other shapes**;
* `Snapshot.warnings_map`: and so are the warnings;
* `Snapshot.describe`, `Snapshot.snapshot_describe`: **a description is read as what it describes**.
-/

namespace QueryScaffold

variable {σ τ : Type}

namespace Snapshot

/-- The shapes of a schema. -/
def shapes (snapshot : Snapshot σ) : List σ :=
  snapshot.entities.map Entity.shape ++ snapshot.accessors.map Accessor.elementShape

theorem shape_mem_shapes {snapshot : Snapshot σ} {entity : Entity σ}
    (h : entity ∈ snapshot.entities) : entity.shape ∈ snapshot.shapes :=
  List.mem_append_left _ (List.mem_map_of_mem h)

theorem elementShape_mem_shapes {snapshot : Snapshot σ} {accessor : Accessor σ}
    (h : accessor ∈ snapshot.accessors) : accessor.elementShape ∈ snapshot.shapes :=
  List.mem_append_right _ (List.mem_map_of_mem h)

end Snapshot

/-! ## What depends on shapes -/

section Relabelling

variable [DecidableEq σ] [DecidableEq τ] {f : σ → τ}

namespace Snapshot

/-- The search goes through the same entities, by induction on those that are still to be seen. -/
theorem repeatedAfter_map (seen rest : List (Entity σ))
    (hf : Set.InjOn f {shape | shape ∈ (seen ++ rest).map Entity.shape}) :
    repeatedAfter (seen.map (Entity.map f)) (rest.map (Entity.map f)) =
      (repeatedAfter seen rest).map (Prod.map (Entity.map f) (Entity.map f)) := by
  induction rest generalizing seen with
  | nil => rfl
  | cons entity rest ih =>
    have hentity : entity.shape ∈ (seen ++ entity :: rest).map Entity.shape :=
      List.mem_map_of_mem (by simp)
    have hfind : (seen.map (Entity.map f)).find? (·.shape = (entity.map f).shape) =
        (seen.find? (·.shape = entity.shape)).map (Entity.map f) := by
      rw [List.find?_map, ← List.head?_filter, ← List.head?_filter]
      congr 2
      refine List.filter_congr fun other hother => decide_eq_decide.2 ?_
      have hshape : other.shape ∈ (seen ++ entity :: rest).map Entity.shape :=
        List.mem_map_of_mem (List.mem_append_left _ hother)
      exact hf.eq_iff hshape hentity
    rw [List.map_cons, repeatedAfter, repeatedAfter, hfind]
    cases seen.find? (·.shape = entity.shape) with
    | some earlier => rfl
    | none =>
      have hnext : seen.map (Entity.map f) ++ [entity.map f] =
          (seen ++ [entity]).map (Entity.map f) := by simp
      rw [Option.map_none, hnext]
      exact ih _ (by simpa using hf)

/-- **The test for repeated shapes comes out alike.** -/
theorem distinct_map {entities : List (Entity σ)} {accessors : List (Accessor σ)}
    (hf : Set.InjOn f {shape | shape ∈ (Snapshot.mk entities accessors).shapes}) :
    distinct (entities.map (Entity.map f)) (accessors.map (Accessor.map f)) =
      (distinct entities accessors).map (Snapshot.map f) := by
  have hentities : Set.InjOn f
      {shape | shape ∈ (([] : List (Entity σ)) ++ entities).map Entity.shape} :=
    hf.mono fun shape hshape => List.mem_append_left _ hshape
  have hrepeated : repeated? (entities.map (Entity.map f)) =
      (repeated? entities).map (Prod.map (Entity.map f) (Entity.map f)) :=
    repeatedAfter_map [] entities hentities
  rw [distinct, distinct, hrepeated]
  cases repeated? entities <;> rfl

/-- A shape has the same accessors under its other name. -/
theorem candidates_map {accessors : List (Accessor σ)} {shape : σ}
    (h : ∀ accessor ∈ accessors,
      f accessor.elementShape = f shape ↔ accessor.elementShape = shape) :
    candidates (accessors.map (Accessor.map f)) (f shape) = candidates accessors shape := by
  rw [candidates, candidates, List.filter_map, List.map_map]
  have hfilter : accessors.filter ((fun accessor => decide (accessor.elementShape = f shape)) ∘
      Accessor.map f) = accessors.filter (·.elementShape = shape) :=
    List.filter_congr fun accessor haccessor => decide_eq_decide.2 (h accessor haccessor)
  rw [hfilter]
  rfl

theorem exposures_map {snapshot : Snapshot σ}
    (hf : Set.InjOn f {shape | shape ∈ snapshot.shapes}) :
    (snapshot.map f).exposures = snapshot.exposures.map (Exposure.map f) := by
  show (snapshot.entities.map (Entity.map f)).map _ = (snapshot.entities.map _).map _
  rw [List.map_map, List.map_map]
  refine List.map_congr_left fun entity hentity => ?_
  show Exposure.mk (entity.map f)
      (candidates (snapshot.accessors.map (Accessor.map f)) (f entity.shape)) =
    ⟨entity.map f, candidates snapshot.accessors entity.shape⟩
  rw [candidates_map]
  exact fun accessor haccessor =>
    hf.eq_iff (elementShape_mem_shapes haccessor) (shape_mem_shapes hentity)

end Snapshot

omit [DecidableEq σ] [DecidableEq τ] in
/-- What becomes of an entity depends on its candidates, not on its shape. -/
theorem Matching.ofExposures_map (exposures : List (Exposure σ)) :
    Matching.ofExposures (exposures.map (Exposure.map f)) =
      (Matching.ofExposures exposures).map f := by
  have hpairs : (exposures.map (Exposure.map f)).filterMap Exposure.match? =
      (exposures.filterMap Exposure.match?).map (Match.map f) := by
    rw [List.filterMap_map, List.map_filterMap]
    refine List.filterMap_congr fun exposure _ => ?_
    show exposure.candidates.head?.map _ = (exposure.candidates.head?.map _).map _
    rw [Option.map_map]
    rfl
  have hfilter : ∀ keep : List Text → Bool,
      (exposures.map (Exposure.map f)).filter (fun exposure => keep exposure.candidates) =
        (exposures.filter fun exposure => keep exposure.candidates).map (Exposure.map f) :=
    fun keep => List.filter_map
  have hunmatched : ((exposures.map (Exposure.map f)).filter Exposure.isUnmatched).map
      Exposure.entity =
      ((exposures.filter Exposure.isUnmatched).map Exposure.entity).map (Entity.map f) := by
    have hkeep := hfilter List.isEmpty
    show (List.filter (fun exposure : Exposure τ => exposure.candidates.isEmpty) _).map _ = _
    rw [hkeep, List.map_map, List.map_map]
    rfl
  rw [ofExposures, ofExposures, map, hpairs, hunmatched]
  congr 1
  exact hfilter fun candidates => decide (1 < candidates.length)

namespace Snapshot

variable {snapshot : Snapshot σ}

/-- **The matching is the same one with other shapes.** -/
theorem matching_map (hf : Set.InjOn f {shape | shape ∈ snapshot.shapes}) :
    (snapshot.map f).matching = snapshot.matching.map f := by
  rw [matching, exposures_map hf, Matching.ofExposures_map]
  rfl

/-- So are the warnings on it. -/
theorem warnings_map (hf : Set.InjOn f {shape | shape ∈ snapshot.shapes}) :
    (snapshot.map f).warnings = snapshot.warnings := by
  rw [warnings, warnings, exposures_map hf, List.filterMap_map]
  rfl

end Snapshot

end Relabelling

/-! ## Descriptions -/

namespace Description

/-- A reader that can read every item reads the whole list. -/
theorem readFrom_map {α β : Type} {read : Nat → Json → Except SchemaFault β} {write : α → Json}
    {value : α → β} {items : List α}
    (h : ∀ index, ∀ item ∈ items, read index (write item) = .ok (value item)) (index : Nat) :
    readFrom read index (items.map write) = .ok (items.map value) := by
  induction items generalizing index with
  | nil => rfl
  | cons item rest ih =>
    have hrest := ih (fun index other hother => h index other (List.mem_cons_of_mem _ hother))
      (index + 1)
    rw [List.map_cons, readFrom, h index item List.mem_cons_self]
    simp only [hrest, List.map_cons]

end Description

/-- The entity as an item of a description, with a name for its shape. -/
def Entity.describe (f : σ → Text) (entity : Entity σ) : Json :=
  .object [("name", .string entity.name), ("type", .string (f entity.shape))]

/-- The accessor as an item of a description, with a name for its shape. -/
def Accessor.describe (f : σ → Text) (accessor : Accessor σ) : Json :=
  .object [("name", .string accessor.name), ("elementType", .string (f accessor.elementShape))]

/-- The description of a schema, with names for its shapes. -/
def Snapshot.describe (f : σ → Text) (snapshot : Snapshot σ) : Json :=
  .object
    [("entities", .array (snapshot.entities.map (Entity.describe f))),
      ("accessors", .array (snapshot.accessors.map (Accessor.describe f)))]

namespace Description

variable {f : σ → Text}

theorem entity_describe (index : Nat) {entity : Entity σ} (hname : entity.name.isBlank = false)
    (hshape : (f entity.shape).isBlank = false) :
    Description.entity index (entity.describe f) = .ok (entity.map f) := by
  have hnamed : named .entities index (entity.describe f) =
      .ok ([("name", .string entity.name), ("type", .string (f entity.shape))], entity.name) := by
    show (if entity.name.isBlank then _ else _) = _
    rw [hname]
    rfl
  rw [Description.entity, hnamed]
  show (if (f entity.shape).isBlank then _ else _) = _
  rw [hshape]
  rfl

theorem accessor_describe (index : Nat) {accessor : Accessor σ}
    (hname : accessor.name.isBlank = false) (hshape : (f accessor.elementShape).isBlank = false) :
    Description.accessor index (accessor.describe f) = .ok (accessor.map f) := by
  have hnamed : named .accessors index (accessor.describe f) =
      .ok ([("name", .string accessor.name), ("elementType", .string (f accessor.elementShape))],
        accessor.name) := by
    show (if accessor.name.isBlank then _ else _) = _
    rw [hname]
    rfl
  rw [Description.accessor, hnamed]
  show (if (f accessor.elementShape).isBlank then _ else _) = _
  rw [hshape]
  rfl

end Description

/-- The names of entities and accessors, and those of their shapes, are more than white space. -/
structure Snapshot.Describable (f : σ → Text) (snapshot : Snapshot σ) : Prop where
  entities : ∀ entity ∈ snapshot.entities, entity.name.isBlank = false
  accessors : ∀ accessor ∈ snapshot.accessors, accessor.name.isBlank = false
  shapes : ∀ shape ∈ snapshot.shapes, (f shape).isBlank = false

/-- **A description is read as what it describes**, if no two entities have one shape. -/
theorem Snapshot.snapshot_describe [DecidableEq σ] {f : σ → Text} {snapshot : Snapshot σ}
    (hdescribable : snapshot.Describable f)
    (hf : Set.InjOn f {shape | shape ∈ snapshot.shapes})
    (hdistinct : distinct snapshot.entities snapshot.accessors = .ok snapshot) :
    ∃ description, Description.ofJson (snapshot.describe f) = .ok description ∧
      description.snapshot = .ok (snapshot.map f) := by
  let entries : Entries :=
    [("entities", .array (snapshot.entities.map (Entity.describe f))),
      ("accessors", .array (snapshot.accessors.map (Accessor.describe f)))]
  refine ⟨⟨entries⟩, rfl, ?_⟩
  have hentities : Description.entities ⟨entries⟩ = .ok (snapshot.entities.map (Entity.map f)) := by
    show Description.readFrom Description.entity 0 _ = _
    exact Description.readFrom_map (fun index entity hentity =>
      Description.entity_describe index (hdescribable.entities entity hentity)
        (hdescribable.shapes _ (shape_mem_shapes hentity))) 0
  have haccessors : Description.accessors ⟨entries⟩ =
      .ok (snapshot.accessors.map (Accessor.map f)) := by
    show Description.readFrom Description.accessor 0 _ = _
    exact Description.readFrom_map (fun index accessor haccessor =>
      Description.accessor_describe index (hdescribable.accessors accessor haccessor)
        (hdescribable.shapes _ (elementShape_mem_shapes haccessor))) 0
  rw [Description.snapshot, hentities, haccessors]
  simp only
  rw [distinct_map hf, hdistinct]
  rfl

end QueryScaffold
