/-
Surrogates.Proofs.Configuration.Checked — configurations whose names are names.

A configuration is checked if its own names are identifiers and its targets
are paths. It passes if its options and all its entries do: `check?_eq_none`.
-/
import Surrogates.Configuration.Basic

namespace Surrogates

/-! ## §1 Names that pass -/

theorem checkIdentifier?_eq_none {kind : NameKind} {text : String} :
    checkIdentifier? kind text = none ↔ isIdentifier text = true := by
  simp [checkIdentifier?]

/-- Options pass if their suffixes are identifiers. -/
theorem Options.check?_eq_none {options : Options} :
    options.check? = none ↔ isIdentifier options.surrogateSuffix = true ∧
      isIdentifier options.serializerSuffix = true ∧
      isIdentifier options.moduleSuffix = true := by
  simp [Options.check?, checkIdentifier?_eq_none]

theorem Entry.isIdentifier_of_check? {entry : Entry} (h : entry.check? = none) :
    isIdentifier entry.name = true := by
  simp only [Entry.check?, Option.orElse_eq_orElse, Option.orElse_eq_or, Option.or_eq_none_iff] at h
  exact checkIdentifier?_eq_none.mp h.1

namespace Configuration

/-- A configuration of which no name is refused. The targets, which are names of
types already, are paths. -/
structure Checked (configuration : Configuration) : Prop where
  names : configuration.check? = none
  targets : ∀ entry ∈ configuration.entries, ∀ target ∈ entry.targets,
    TypeName.isPath target.text.toList = true

variable {configuration : Configuration}

/-- A configuration passes if its options and all entries do. -/
theorem check?_eq_none : configuration.check? = none ↔
    configuration.options.check? = none ∧
      ∀ entry ∈ configuration.entries, entry.check? = none := by
  simp [check?]

theorem Checked.surrogateSuffix (h : configuration.Checked) :
    isIdentifier configuration.options.surrogateSuffix = true :=
  (Options.check?_eq_none.mp (check?_eq_none.mp h.names).1).1

theorem Checked.moduleSuffix (h : configuration.Checked) :
    isIdentifier configuration.options.moduleSuffix = true :=
  (Options.check?_eq_none.mp (check?_eq_none.mp h.names).1).2.2

theorem Checked.entryName (h : configuration.Checked) {entry : Entry}
    (hentry : entry ∈ configuration.entries) : isIdentifier entry.name = true :=
  Entry.isIdentifier_of_check? ((check?_eq_none.mp h.names).2 entry hentry)

end Configuration

end Surrogates
