/-
Surrogates.Proofs.CommandLine.Loading — what a command loads.

A command merges the catalogs and joins the configurations that it reads, and puts its
own suffixes in place of others. It gives them only if no name is refused in the end:
`of_load`.
-/
import Surrogates.CommandLine.Input
import Surrogates.Proofs.Catalog.Loaded
import Surrogates.Proofs.Configuration.Loaded
import Surrogates.Proofs.Files.Writing

namespace Surrogates.CommandLine

variable {α β : Type} {P : α → Prop} {Q : β → Prop}

/-! ## §1 What commands give -/

/-- A command that gives no value without a property, whatever is on the disk. -/
def Gives (P : α → Prop) (command : ExceptT Failure (StateM Disk) α) : Prop :=
  ∀ disk value, (Disk.run disk command.run).1 = .ok value → P value

theorem gives_true (command : ExceptT Failure (StateM Disk) α) : Gives (fun _ => True) command :=
  fun _ _ _ => trivial

theorem gives_pure {a : α} (h : P a) : Gives P (pure a) := by
  intro disk value hvalue
  cases hvalue
  exact h

theorem gives_throw (failure : Failure) : Gives P (throw failure) := by
  intro disk value hvalue
  cases hvalue

theorem gives_bind {command : ExceptT Failure (StateM Disk) α}
    {next : α → ExceptT Failure (StateM Disk) β} (h : Gives P command)
    (hnext : ∀ a, P a → Gives Q (next a)) : Gives Q (command >>= next) := by
  intro disk value hvalue
  rw [ExceptT.run_bind, Disk.run_bind] at hvalue
  cases hresult : (Disk.run disk command.run).1 with
  | error failure =>
    rw [hresult] at hvalue
    cases hvalue
  | ok a =>
    rw [hresult] at hvalue
    exact hnext a (h disk a hresult) _ value hvalue

/-! ## §2 Inputs -/

theorem gives_readCatalog (path : String) : Gives Catalog.Loaded (readCatalog path) := by
  refine gives_bind (gives_true _) fun text _ => ?_
  split
  · exact gives_throw _
  · next catalog hread => exact gives_pure (.read hread)

theorem gives_readConfiguration (path : String) :
    Gives Configuration.Loaded (readConfiguration path) := by
  refine gives_bind (gives_true _) fun text _ => ?_
  split
  · exact gives_throw _
  · exact gives_throw _
  · next configuration hread => exact gives_pure (.read hread)

theorem gives_mergeCatalogs (paths : List String) {catalog : Catalog} (h : catalog.Loaded) :
    Gives Catalog.Loaded (mergeCatalogs catalog paths) := by
  induction paths generalizing catalog with
  | nil => exact gives_pure h
  | cons path rest ih =>
    exact gives_bind (gives_readCatalog path) fun other hother => ih (h.merge hother)

theorem gives_extendConfiguration (paths : List String) {configuration : Configuration}
    (h : configuration.Loaded) :
    Gives Configuration.Loaded (extendConfiguration configuration paths) := by
  induction paths generalizing configuration with
  | nil => exact gives_pure h
  | cons path rest ih =>
    exact gives_bind (gives_readConfiguration path) fun other hother => ih (h.extend hother)

theorem gives_joinConfigurations (paths : List String) :
    Gives Configuration.Loaded (joinConfigurations paths) := by
  cases paths with
  | nil => exact gives_pure .empty
  | cons path rest =>
    exact gives_bind (gives_readConfiguration path) fun configuration h =>
      gives_extendConfiguration rest h

/-- What a command loads is loaded from documents, and no name of it is refused. -/
theorem of_load (command : Command) : Gives (fun (catalog, configuration) =>
    catalog.Loaded ∧ configuration.Loaded ∧ configuration.check? = none) (load command) := by
  refine gives_bind (gives_true _) fun catalogs _ => ?_
  refine gives_bind (gives_mergeCatalogs catalogs .empty) fun catalog hcatalog => ?_
  refine gives_bind (gives_true _) fun configurations _ => ?_
  refine gives_bind (gives_joinConfigurations configurations) fun joined hjoined => ?_
  dsimp only
  split
  · exact gives_throw _
  · next hnone => exact gives_pure ⟨hcatalog, hjoined.withOptions _, hnone⟩

end Surrogates.CommandLine
