/-
Surrogates.Source.Aliases — the names by which a file knows serializers.

A file imports serializers under their simple names. A simple name that is
taken, by the surrogate, by the file's own serializer or by an import before
it, gets the first number from 2 on that makes it free. There is always one
among as many candidates as names are taken, and one more.
-/
import Surrogates.Table.Basic
import Surrogates.TypeExpr.Basic
import Surrogates.Unit.Basic

namespace Surrogates.Source

/-! ## §1 Free names -/

/-- A simple name, alone and with the numbers from 2 on; `n + 1` of them. -/
def candidates (simple : String) (n : Nat) : List String :=
  simple :: (List.range n).map fun i => simple ++ toString (i + 2)

/-- The first candidate that is not taken. -/
def freeName (simple : String) (taken : List String) : String :=
  ((candidates simple taken.length).find? (!taken.contains ·)).getD simple

/-! ## §2 Aliases -/

/-- Names of serializers and the names a file has for them. -/
abbrev Aliases := Table TypeName String

namespace Aliases

/-- Gives names to the serializers that have none, one after another. -/
def addAll : List String → Aliases → List TypeName → Aliases
  | _, aliases, [] => aliases
  | taken, aliases, name :: rest =>
    if aliases.contains name then addAll taken aliases rest
    else
      let free := freeName name.simple taken
      addAll (taken ++ [free]) (aliases.insert name free) rest

/-- The aliases of a unit's file. -/
def ofUnit (unit : SurrogateUnit) : Aliases :=
  let own := unit.serializer.name
  addAll [unit.surrogate.name.simple, own.simple] ((∅ : Aliases).insert own own.simple)
    (unit.serializer.imports.map (·.name))

/-- The name a file has for a serializer: its alias, or its whole name. -/
def nameOf (aliases : Aliases) (serializer : TypeName) : String :=
  (aliases.get? serializer).getD serializer.text

end Aliases

/-! ## §3 Imports -/

/-- An import of a serializer under a name. -/
structure Use where
  path : TypeName
  name : String
  deriving DecidableEq, Repr

/-- The import that a file needs for a serializer. A name without a qualifier
that stays as it is needs none. -/
def Use.of? (aliases : Aliases) (serializer : TypeName) : Option Use :=
  match aliases.get? serializer with
  | none => none
  | some name =>
    if serializer.qualifier?.isNone && name == serializer.text then none
    else some ⟨serializer, name⟩

/-- The line of an import. -/
def Use.render (use : Use) : String :=
  if use.name = use.path.simple then "use " ++ use.path.text ++ ";"
  else "use " ++ use.path.text ++ " as " ++ use.name ++ ";"

/-! ## §4 Plans -/

mutual

/-- A plan as the type that names its serializers. -/
def renderPlan (aliases : Aliases) : Plan → String
  | .native => "_"
  | .use serializer => aliases.nameOf serializer.name
  | .nullable inner => "Option<" ++ renderPlan aliases inner ++ ">"
  | .generic head args => TypeExpr.renderApplied head.text (renderPlans aliases args)

/-- A list of plans as types. -/
def renderPlans (aliases : Aliases) : List Plan → List String
  | [] => []
  | plan :: rest => renderPlan aliases plan :: renderPlans aliases rest

end

end Surrogates.Source
