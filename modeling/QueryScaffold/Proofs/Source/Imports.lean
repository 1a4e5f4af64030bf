import Mathlib.Data.List.Lex
import Mathlib.Data.List.Sort
import Mathlib.Data.Prod.Lex
import QueryScaffold.Source.Imports

/-!
# What is imported

Sorting the imports drops repetitions and changes the order, and nothing else. The order is that of
a key: the group of the name, then the numbers of its code points. Names have different keys, so that
the names to be imported determine the list.

* `mem_insertImport`: an insertion adds the name, unless it is there;
* `mem_sortImports`: **the sorted names are the given ones**;
* `Settings.mem_imports`: what a file imports;
* `ImportPrecedes`: the order of imports, and `importPrecedes_iff`: it is that of their keys;
* `pairwise_sortImports`: **the sorted names stand in this order, once each**;
* `sortImports_congr`: the order and the repetitions of the given names do not matter;
* `Settings.imports_canonical`: **the imports of a file are a canonical list of its namespaces**.
-/

namespace QueryScaffold

theorem mem_insertImport {name other : Text} {names : List Text} :
    other ∈ insertImport name names ↔ other = name ∨ other ∈ names := by
  induction names with
  | nil => simp [insertImport]
  | cons first rest ih =>
    rw [insertImport]
    split
    · next he => simp [he]
    · split
      · exact List.mem_cons
      · rw [List.mem_cons, List.mem_cons, ih]
        exact or_left_comm

/-- **The sorted names are the given ones.** -/
theorem mem_sortImports {names : List Text} {other : Text} :
    other ∈ sortImports names ↔ other ∈ names := by
  induction names with
  | nil => rfl
  | cons name rest ih =>
    show other ∈ insertImport name (sortImports rest) ↔ _
    rw [mem_insertImport, ih, List.mem_cons]

/-- A file imports the data access library, the namespace of the entities and the configured
namespaces. -/
theorem Settings.mem_imports {settings : Settings} {name : Text} :
    name ∈ settings.imports ↔
      name = dataAccessNamespace ∨ name = settings.entityNamespace ∨ name ∈ settings.usings := by
  rw [imports, mem_sortImports, List.mem_cons, List.mem_cons]

/-! ## The order of imports -/

/-- The numbers of the code points of a text. -/
def Text.numbers (t : Text) : List Nat :=
  t.map CodePoint.value

theorem Text.numbers_injective : Function.Injective numbers :=
  List.map_injective_iff.2 fun _ _ => CodePoint.ext_value

/-- The order of texts is that of the numbers of their code points. -/
theorem Text.le_iff {a b : Text} : Text.le a b ↔ a.numbers ≤ b.numbers := by
  rw [← not_lt]
  induction a generalizing b with
  | nil => exact iff_of_true rfl (List.not_lt_nil _)
  | cons c s ih =>
    cases b with
    | nil => exact iff_of_false nofun (not_not_intro (List.nil_lt_cons _ _))
    | cons d t =>
      have hcons : (numbers (d :: t) < numbers (c :: s)) ↔
          d.value < c.value ∨ d.value = c.value ∧ numbers t < numbers s := List.cons_lt_cons_iff
      rw [hcons, Text.le, Bool.or_eq_true, Bool.and_eq_true, ih, decide_eq_true_iff, beq_iff_eq]
      rcases lt_trichotomy c.value d.value with h | h | h
      · simp [h, h.ne', h.not_gt]
      · simp [h]
      · simp [h, h.ne', h.not_gt]

/-- The name is `System`, or begins with it and a point. -/
def IsSystem (name : Text) : Prop :=
  name = "System" ∨ ("System." : Text) <+: name

theorem isSystemNamespace_iff {name : Text} : isSystemNamespace name ↔ IsSystem name := by
  simp [isSystemNamespace, IsSystem]

/-- A name stands before another one: system names before all others, and in each group by code
point. -/
def ImportPrecedes (a b : Text) : Prop :=
  (IsSystem a ∧ ¬IsSystem b) ∨ ((IsSystem a ↔ IsSystem b) ∧ a.numbers < b.numbers)

/-- What imports are sorted by. -/
def importKey (name : Text) : Nat ×ₗ List Nat :=
  toLex (if isSystemNamespace name then 0 else 1, name.numbers)

theorem importKey_injective : Function.Injective importKey := by
  intro a b h
  exact Text.numbers_injective (congrArg (fun key => (ofLex key).2) h)

theorem importPrecedes_iff {a b : Text} : ImportPrecedes a b ↔ importKey a < importKey b := by
  rw [ImportPrecedes, ← isSystemNamespace_iff, ← isSystemNamespace_iff, importKey, importKey,
    Prod.Lex.toLex_lt_toLex]
  cases isSystemNamespace a <;> cases isSystemNamespace b <;> simp

theorem importLe_iff {a b : Text} : importLe a b ↔ importKey a ≤ importKey b := by
  rw [importLe, importKey, importKey, Prod.Lex.toLex_le_toLex, ← Text.le_iff]
  cases isSystemNamespace a <;> cases isSystemNamespace b <;> simp

/-- An insertion keeps the order. -/
theorem pairwise_insertImport {name : Text} {names : List Text}
    (h : names.Pairwise ImportPrecedes) : (insertImport name names).Pairwise ImportPrecedes := by
  induction names with
  | nil => exact List.pairwise_singleton _ _
  | cons first rest ih =>
    obtain ⟨hfirst, hrest⟩ := List.pairwise_cons.1 h
    rw [insertImport]
    split
    · exact h
    · next hne =>
      have hkey : importKey name ≠ importKey first := fun hkey => hne (importKey_injective hkey)
      split
      · next hle =>
        have hbefore : ImportPrecedes name first :=
          importPrecedes_iff.2 (lt_of_le_of_ne (importLe_iff.1 hle) hkey)
        refine List.pairwise_cons.2 ⟨fun other hother => ?_, h⟩
        rcases List.mem_cons.1 hother with rfl | hother
        · exact hbefore
        · exact importPrecedes_iff.2
            ((importPrecedes_iff.1 hbefore).trans (importPrecedes_iff.1 (hfirst other hother)))
      · next hle =>
        have hbehind : ImportPrecedes first name :=
          importPrecedes_iff.2 (not_le.1 fun h => hle (importLe_iff.2 h))
        refine List.pairwise_cons.2 ⟨fun other hother => ?_, ih hrest⟩
        rcases mem_insertImport.1 hother with rfl | hother
        · exact hbehind
        · exact hfirst other hother

/-- **The sorted names stand in the order of imports.** -/
theorem pairwise_sortImports (names : List Text) : (sortImports names).Pairwise ImportPrecedes := by
  induction names with
  | nil => exact .nil
  | cons name rest ih => exact pairwise_insertImport ih

theorem nodup_sortImports (names : List Text) : (sortImports names).Nodup := by
  refine (pairwise_sortImports names).imp fun hprecedes heq => ?_
  exact lt_irrefl _ (heq ▸ importPrecedes_iff.1 hprecedes)

/-- The order and the repetitions of the given names do not matter. -/
theorem sortImports_congr {names names' : List Text} (h : ∀ name, name ∈ names ↔ name ∈ names') :
    sortImports names = sortImports names' := by
  have hkeys (names : List Text) : ((sortImports names).map importKey).Pairwise (· < ·) :=
    List.pairwise_map.2 ((pairwise_sortImports names).imp importPrecedes_iff.1)
  refine List.map_injective_iff.2 importKey_injective
    ((hkeys names).eq_of_mem_iff (hkeys names') fun key => ?_)
  simp only [List.mem_map, mem_sortImports, h]

/-- **The imports of a file are a canonical list of its namespaces**: each of them once, in the order
of imports, and the same however the configured ones are ordered and repeated. A file that is
configured with its own imports has the same ones. -/
theorem Settings.imports_canonical (settings : Settings) :
    settings.imports.Nodup ∧
    (∀ name, name ∈ settings.imports ↔ name = "Microsoft.EntityFrameworkCore" ∨
      name = settings.modelNamespace.getD settings.schemaIdentity.containerNamespace ∨
      name ∈ settings.usings) ∧
    settings.imports.Pairwise ImportPrecedes ∧
    (∀ usings : List Text, (∀ name, name ∈ usings ↔ name ∈ settings.usings) →
      { settings with usings := usings }.imports = settings.imports) ∧
    { settings with usings := settings.imports }.imports = settings.imports := by
  refine ⟨nodup_sortImports _, fun name => mem_imports, pairwise_sortImports _,
    fun usings h => ?_, ?_⟩
  · refine sortImports_congr fun name => ?_
    simp only [List.mem_cons, h, entityNamespace]
  · refine sortImports_congr fun name => ?_
    simp only [List.mem_cons, mem_imports, entityNamespace]
    tauto

/-- Settings with a name that only begins like a system one, and with names that are imported
anyway. -/
def Settings.systematic : Settings where
  codeNamespace := "GraphQL"
  className := "Query"
  baseTypeName := "QueryBase"
  schemaIdentity := ⟨"Shop", "x", "shop.py", "Shop.Models"⟩
  usings := ["Systematic", "System.Linq", "Shop.Models", "System", "Systematic"]
  modelNamespace := none
  queryCapabilities := []
  contextVariablePrefix := "db"
  queryHelperName := "Apply"
  directoryName := "generated"
  fileName := "Query.cs"

/-- The configured names in another order, one of them once more, give the same imports. -/
theorem Settings.imports_canonical_systematic :
    systematic.imports =
      ["System", "System.Linq", "Microsoft.EntityFrameworkCore", "Shop.Models", "Systematic"] ∧
    (∀ name, name ∈ ("System" : Text) :: systematic.usings.reverse ↔ name ∈ systematic.usings) ∧
    { systematic with usings := ("System" : Text) :: systematic.usings.reverse }.imports =
      systematic.imports := by
  have hsame (name : Text) :
      name ∈ ("System" : Text) :: systematic.usings.reverse ↔ name ∈ systematic.usings := by
    rw [List.mem_cons, List.mem_reverse]
    refine or_iff_right_of_imp ?_
    rintro rfl
    decide
  exact ⟨by decide, hsame, systematic.imports_canonical.2.2.2.1 _ hsame⟩

end QueryScaffold
