import QueryScaffold.Proofs.Run.Generation
import QueryScaffold.Proofs.Run.Scopes

/-!
# Imports that stop

The module of a container stands in the registry before its statements run, and a statement may fail
with any exception. What is then left in the registry depends on the kind of the exception: one that
ends the program leaves the module where it was put.

* `Scope.importFault?`: the fault at which the statements of a module stop;
* `Scope.result_enter_of_importFault`: the failure that it is for the scope;
* `ImportStopped`: what the fault leaves in the registry;
* `importStopped`: **the registry after an import that stops**, whether a scope was to be entered or
  a run was to generate its text;
* `registry_keeps_stopped_module`: the registry is not always as it was before.
-/

namespace QueryScaffold

namespace Scope

/-- The fault at which the statements of an identity's module stop while it is imported as the load
of a number. -/
def importFault? (tree : Tree) (number : Nat) (identity : SchemaIdentity) (workspace : Workspace) :
    Option CodeFault :=
  match statements? tree identity workspace.modules with
  | .error _ => none
  | .ok statements =>
    let file := (tree.absolute (Path.ofText identity.moduleLocation)).text
    match (ContainerModule.load number identity.containerNamespace file
      (workspace.memory.ofLoad number) statements).outcome with
    | .error fault => some fault
    | .ok () => none

variable {tree : Tree} {number : Nat} {identity : SchemaIdentity} {workspace : Workspace}
  {fault : CodeFault}

theorem importEndsProgram_of_importFault
    (h : importFault? tree number identity workspace = some fault) :
    importEndsProgram tree number identity workspace = fault.toRaised.endsProgram := by
  revert h
  rw [importFault?, importEndsProgram]
  cases statements? tree identity workspace.modules with
  | error failure => intro h; cases h
  | ok statements =>
    simp only
    cases (ContainerModule.load number identity.containerNamespace
      (tree.absolute (Path.ofText identity.moduleLocation)).text
      (workspace.memory.ofLoad number) statements).outcome with
    | error other => intro h; rw [Option.some.inj h]
    | ok => intro h; cases h

/-- A scope whose module stops is not entered. -/
theorem result_enter_of_importFault
    (h : importFault? tree number identity workspace = some fault) :
    (enter tree number identity workspace).result = .error (importFailure identity fault) := by
  revert h
  rw [importFault?, enter]
  cases statements? tree identity workspace.modules with
  | error failure => intro h; cases h
  | ok statements =>
    simp only
    cases (ContainerModule.load number identity.containerNamespace
      (tree.absolute (Path.ofText identity.moduleLocation)).text
      (workspace.memory.ofLoad number) statements).outcome with
    | error other => intro h; rw [Option.some.inj h]
    | ok => intro h; cases h

end Scope

/-- What an import leaves in the registry that has stopped at a fault. -/
structure ImportStopped (identity : SchemaIdentity) (fault : CodeFault) (before after : World) :
    Prop where
  /-- The module had a name of its own. -/
  free : before.workspace.modules.loads identity.containerNamespace = none
  /-- An exception that does not end the program takes the module with it. -/
  removed : fault.toRaised.endsProgram = false →
    after.workspace.modules = before.workspace.modules
  /-- An exception that ends the program leaves the module behind, and nothing else. -/
  remains : fault.toRaised.endsProgram = true → ∃ m,
    after.workspace.modules =
      before.workspace.modules.add identity.containerNamespace (.container m)

theorem importStopped_enter {identity : SchemaIdentity} {number : Nat} {world : World}
    {fault : CodeFault}
    (h : Scope.importFault? world.tree number identity world.workspace = some fault) :
    ImportStopped identity fault world
      (world.after (Scope.enter world.tree number identity world.workspace)) where
  free := by
    revert h
    rw [Scope.importFault?]
    cases hs : Scope.statements? world.tree identity world.workspace.modules with
    | error failure => intro h; cases h
    | ok statements => exact fun _ => Scope.loads_eq_none_of_statements? hs
  removed := fun hend => by
    rw [← Scope.importEndsProgram_of_importFault h] at hend
    exact Scope.modules_enter_of_error hend (Scope.result_enter_of_importFault h)
  remains := fun hend => by
    rw [← Scope.importEndsProgram_of_importFault h] at hend
    obtain ⟨-, m, -, hmodules⟩ := Scope.modules_enter_of_endsProgram hend
    exact ⟨m, hmodules⟩

/-- **The registry after an import that stops.** Entering the scope fails, and so do generating and
running without a description; all three leave the same behind. -/
theorem importStopped (settings : Settings) (number : Nat) (world : World) (fault : CodeFault)
    (h : Scope.importFault? world.tree number settings.schemaIdentity world.workspace =
      some fault) :
    ∃ after,
      (Run.ofTransition (Scope.enter world.tree number settings.schemaIdentity)).run.run world =
        (.error (Scope.importFailure settings.schemaIdentity fault), after) ∧
      ImportStopped settings.schemaIdentity fault world after ∧
      (number = 0 →
        (generate settings none).run.run world =
          (.error (Scope.importFailure settings.schemaIdentity fault), after) ∧
        (run settings none).run.run world =
          (.error (Scope.importFailure settings.schemaIdentity fault), after)) := by
  have hresult := Scope.result_enter_of_importFault h
  refine ⟨world.after (Scope.enter world.tree number settings.schemaIdentity world.workspace), ?_,
    importStopped_enter h, ?_⟩
  · rw [Run.run_ofTransition, hresult]
  · rintro rfl
    have hgenerate := run_generate_of_refused (run_readContainer_of_refused hresult)
    exact ⟨hgenerate, run_run_of_refused hgenerate⟩

namespace Sample

/-- The shop's module fails with an exception of a kind. -/
def stopWorld (kind : Text) : World :=
  { tree :=
      { home := ["work"]
        entries := [(["work"], .directory),
          (["work", "shop.py"],
            .module [] [.fail { kind := .name kind, message := "closed today" }])] }
    workspace := { modules := [], memory := {} }
    events := []
    log := [] }

/-- The settings of the sample, for a shop. -/
def shopSettings : Settings := { acceptedSettings with schemaIdentity := shopIdentity }

end Sample

/-- An exception of an ordinary kind takes the module with it. -/
theorem importStopped_ordinary :
    ∃ fault after, fault.toRaised.endsProgram = false ∧
      Scope.importFault? (Sample.stopWorld "ValueError").tree 0 Sample.shopSettings.schemaIdentity
        (Sample.stopWorld "ValueError").workspace = some fault ∧
      (generate Sample.shopSettings none).run.run (Sample.stopWorld "ValueError") =
        (.error (Scope.importFailure Sample.shopIdentity fault), after) ∧
      after.workspace.modules = [] := by
  have hkind : (Scope.importFault? (Sample.stopWorld "ValueError").tree 0
      Sample.shopSettings.schemaIdentity (Sample.stopWorld "ValueError").workspace).map
        (fun fault => fault.toRaised.endsProgram) = some false := by decide +kernel
  obtain ⟨fault, hfault, hend⟩ := Option.map_eq_some_iff.1 hkind
  obtain ⟨after, -, hstopped, hgenerate⟩ := importStopped _ 0 _ fault hfault
  exact ⟨fault, after, hend, hfault, (hgenerate rfl).1, hstopped.removed hend⟩

/-- An exception that ends the program stops the import as well, and the registry is not what it was
before. -/
theorem registry_keeps_stopped_module :
    ¬∀ (identity : SchemaIdentity) (number : Nat) (world after : World) (fault : CodeFault)
      (failure : Failure),
      Scope.importFault? world.tree number identity world.workspace = some fault →
      (Run.ofTransition (Scope.enter world.tree number identity)).run.run world =
        (.error failure, after) →
      after.workspace.modules = world.workspace.modules := by
  intro hall
  have hkind : (Scope.importFault? (Sample.stopWorld "SystemExit").tree 0 Sample.shopIdentity
      (Sample.stopWorld "SystemExit").workspace).map
        (fun fault => fault.toRaised.endsProgram) = some true := by decide +kernel
  obtain ⟨fault, hfault, hend⟩ := Option.map_eq_some_iff.1 hkind
  have hrun := Run.run_ofTransition (Scope.enter (Sample.stopWorld "SystemExit").tree 0
    Sample.shopIdentity) (Sample.stopWorld "SystemExit")
  rw [Scope.result_enter_of_importFault hfault] at hrun
  have hsame := hall _ _ _ _ fault _ hfault hrun
  obtain ⟨m, hmodules⟩ := (importStopped_enter hfault).remains hend
  rw [hsame] at hmodules
  cases hmodules

end QueryScaffold
