import QueryScaffold.Proofs.Name.TypeName
import QueryScaffold.Source.Rendering

/-!
# What a valid source file satisfies

The check of a source file walks through a list of requirements and stops at the first that is not
met. Here the list is read as one statement on the file: every name fits its place, no two methods
have one name, and there is a parameter for the factory of contexts.

* `Requirement.Met`: what a requirement asks for;
* `QueryMethod.WellFormed`, `SourceFile.WellFormed`: the statements on a method and on a file;
* `SourceFile.fault?_eq_none_iff`: **a file has no fault exactly if it is well-formed**;
* `SourceFile.exists_of_repeatedMethod`: a name is found repeated only if two methods have it.
-/

namespace QueryScaffold

/-! ## Single requirements -/

namespace Requirement

/-- What a requirement asks for. -/
def Met : Requirement → Prop
  | .fits role value => role.admits value = true
  | .isNew name earlier => name ∉ earlier
  | .hasParameter parameters => parameters ≠ []

theorem fault?_eq_none_iff (r : Requirement) : r.fault? = none ↔ r.Met := by
  cases r with
  | fits role value => simp [fault?, Met]
  | isNew name earlier => simp [fault?, Met]
  | hasParameter parameters => simp [fault?, Met]

end Requirement

theorem Role.isOneLine_iff {t : Text} :
    Role.isOneLine t = true ↔ CodePoint.ofChar '\n' ∉ t := by
  simp [isOneLine]

/-! ## Methods -/

/-- Every name of a method fits its place. -/
structure QueryMethod.WellFormed (m : QueryMethod) : Prop where
  name : m.name.isIdentifier = true
  returnType : TypeName m.returnType
  accessorName : m.body.accessorName.isIdentifier = true
  entityName : TypeName m.body.entityName
  contextVariable : m.body.contextVariable.isIdentifier = true
  factoryField : m.body.factoryField.isIdentifier = true
  helperName : m.body.helperName.isIdentifier = true
  annotations : ∀ a ∈ m.annotations, a.isQualifiedName = true
  summary : CodePoint.ofChar '\n' ∉ m.summary

namespace QueryMethod

theorem requirements_met_iff {m : QueryMethod} {earlier : List Text} :
    (∀ r ∈ m.requirements earlier, r.Met) ↔ m.WellFormed ∧ m.name ∉ earlier := by
  simp only [requirements, List.cons_append, List.nil_append, List.forall_mem_cons,
    List.forall_mem_append, List.forall_mem_map, List.not_mem_nil, false_imp_iff, implies_true,
    and_true, Requirement.Met, Role.admits, Role.isOneLine_iff, Text.isTypeName_iff]
  constructor
  · rintro ⟨hn, hnew, hr, ha, he, hv, hf, hh, hann, hs⟩
    exact ⟨⟨hn, hr, ha, he, hv, hf, hh, hann, hs⟩, hnew⟩
  · rintro ⟨h, hnew⟩
    exact ⟨h.name, hnew, h.returnType, h.accessorName, h.entityName, h.contextVariable,
      h.factoryField, h.helperName, h.annotations, h.summary⟩

/-- Every method of a list is well-formed, and its name is none of those before it. -/
theorem listRequirements_met_iff {methods : List QueryMethod} {earlier : List Text} :
    (∀ r ∈ listRequirements earlier methods, r.Met) ↔
      (∀ m ∈ methods, m.WellFormed) ∧ (methods.map QueryMethod.name).Nodup ∧
        ∀ m ∈ methods, m.name ∉ earlier := by
  induction methods generalizing earlier with
  | nil => simp [listRequirements]
  | cons m rest ih =>
    rw [listRequirements, List.forall_mem_append, requirements_met_iff, ih]
    simp only [List.forall_mem_cons, List.map_cons, List.nodup_cons, List.mem_append,
      List.mem_singleton, not_or, List.mem_map, not_exists, not_and]
    constructor
    · rintro ⟨⟨hm, hnew⟩, hrest, hnodup, hearlier⟩
      exact ⟨⟨hm, hrest⟩, ⟨fun other ho he => (hearlier other ho).2 he, hnodup⟩, hnew,
        fun other ho => (hearlier other ho).1⟩
    · rintro ⟨⟨hm, hrest⟩, ⟨hne, hnodup⟩, hnew, hearlier⟩
      exact ⟨⟨hm, hnew⟩, hrest, hnodup, fun other ho => ⟨hearlier other ho, hne other ho⟩⟩

/-- A name has to be new for a method of this name, and it may be none of those before that one. -/
theorem exists_of_mem_listRequirements {name : Text} {before earlier : List Text}
    {methods : List QueryMethod} (h : .isNew name before ∈ listRequirements earlier methods) :
    ∃ front m back, methods = front ++ m :: back ∧ m.name = name ∧
      before = earlier ++ front.map QueryMethod.name := by
  induction methods generalizing earlier with
  | nil => cases h
  | cons m rest ih =>
    rw [listRequirements, List.mem_append] at h
    rcases h with h | h
    · have hnew : name = m.name ∧ before = earlier := by simpa [requirements] using h
      exact ⟨[], m, rest, rfl, hnew.1.symm, by simpa using hnew.2⟩
    · obtain ⟨front, found, back, rfl, hname, hbefore⟩ := ih h
      exact ⟨m :: front, found, back, rfl, hname, by simpa using hbefore⟩

end QueryMethod

/-! ## Files -/

/-- Every name of a source file fits its place, and the class has methods of different names. -/
structure SourceFile.WellFormed (file : SourceFile) : Prop where
  provenance : CodePoint.ofChar '\n' ∉ file.provenance
  codeNamespace : file.codeNamespace.isQualifiedName = true
  imports : ∀ name ∈ file.imports, name.isQualifiedName = true
  className : file.queryClass.typeName.isIdentifier = true
  baseTypeName : TypeName file.queryClass.baseTypeName
  fieldType : TypeName file.queryClass.factoryField.type
  fieldName : file.queryClass.factoryField.identifier.isIdentifier = true
  parameters_ne_nil : file.queryClass.parameters ≠ []
  parameters : ∀ p ∈ file.queryClass.parameters,
    TypeName p.type ∧ p.identifier.isIdentifier = true
  methods : ∀ m ∈ file.queryClass.methods, m.WellFormed
  nodup_methods : (file.queryClass.methods.map QueryMethod.name).Nodup

theorem Variable.parameterRequirements_met_iff {parameters : List Variable} :
    (∀ r ∈ parameters.flatMap Variable.parameterRequirements, r.Met) ↔
      ∀ p ∈ parameters, TypeName p.type ∧ p.identifier.isIdentifier = true := by
  induction parameters with
  | nil => simp
  | cons p rest ih =>
    rw [List.flatMap_cons, List.forall_mem_append, ih, List.forall_mem_cons]
    simp [parameterRequirements, Requirement.Met, Role.admits, Text.isTypeName_iff]

namespace SourceFile

theorem fault?_eq_none_iff_met {file : SourceFile} :
    file.fault? = none ↔ ∀ r ∈ file.requirements, r.Met := by
  rw [fault?, List.findSome?_eq_none_iff]
  exact forall₂_congr fun r _ => r.fault?_eq_none_iff

/-- **A file has no fault exactly if it is well-formed.** -/
theorem fault?_eq_none_iff {file : SourceFile} : file.fault? = none ↔ file.WellFormed := by
  rw [fault?_eq_none_iff_met]
  simp only [requirements, QueryClass.requirements, List.cons_append, List.nil_append,
    List.forall_mem_cons, List.forall_mem_append, List.forall_mem_map,
    Variable.parameterRequirements_met_iff, QueryMethod.listRequirements_met_iff]
  simp only [Requirement.Met, Role.admits, Role.isOneLine_iff, Text.isTypeName_iff,
    List.not_mem_nil, not_false_iff, implies_true, and_true]
  constructor
  · rintro ⟨hp, hn, hi, hc, hb, hft, hfn, hne, hps, hms, hnodup⟩
    exact ⟨hp, hn, hi, hc, hb, hft, hfn, hne, hps, hms, hnodup⟩
  · intro h
    exact ⟨h.provenance, h.codeNamespace, h.imports, h.className, h.baseTypeName, h.fieldType,
      h.fieldName, h.parameters_ne_nil, h.parameters, h.methods, h.nodup_methods⟩

/-- A file is rendered exactly if it is well-formed, and then its text is that of its lines. -/
theorem render_eq_ok_iff {file : SourceFile} {text : Text} :
    file.render = .ok text ↔ file.WellFormed ∧ file.text = text := by
  rw [render, ← fault?_eq_none_iff]
  cases file.fault? with
  | none => simp
  | some fault => simp

/-- **A name is found repeated** only if two methods have it. -/
theorem exists_of_repeatedMethod {file : SourceFile} {name : Text}
    (h : file.fault? = some (.repeatedMethod name)) :
    ∃ front m back, file.queryClass.methods = front ++ m :: back ∧ m.name = name ∧
      ∃ earlier ∈ front, earlier.name = name := by
  obtain ⟨r, hr, hfault⟩ := List.exists_of_findSome?_eq_some h
  cases r with
  | fits role value =>
    simp only [Requirement.fault?] at hfault
    split at hfault <;> cases hfault
  | hasParameter parameters =>
    simp only [Requirement.fault?] at hfault
    split at hfault <;> cases hfault
  | isNew new before =>
    simp only [Requirement.fault?, Option.ite_none_right_eq_some, Option.some.injEq,
      SynthesisFault.repeatedMethod.injEq] at hfault
    obtain ⟨hmem, rfl⟩ := hfault
    have hlist : .isNew new before ∈
        QueryMethod.listRequirements [] file.queryClass.methods := by
      simpa [requirements, QueryClass.requirements, Variable.parameterRequirements] using hr
    obtain ⟨front, m, back, hmethods, hname, rfl⟩ :=
      QueryMethod.exists_of_mem_listRequirements hlist
    exact ⟨front, m, back, hmethods, hname, List.mem_map.1 hmem⟩

end SourceFile

end QueryScaffold
