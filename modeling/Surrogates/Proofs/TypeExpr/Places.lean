/-
Surrogates.Proofs.TypeExpr.Places — the places of nodes, and texts put there.

A place tells a node by the arguments that lead to it from the root, so that
equal nodes are told apart. `places` lists the places of an expression, and they
are those where a node is found: `mem_places_iff`. The text of an expression may
have other texts in some places, for a node without its nullability, or `_` for
the whole node; `renderCovered` stops there, and without covers it is the text of
the expression (`renderCovered_eq_render`).
-/
import Surrogates.TypeExpr.Basic

namespace Surrogates.TypeExpr

/-! ## §1 Places -/

/-- The node at a place. -/
def nodeAt? (type : TypeExpr) : List Nat → Option TypeExpr
  | [] => some type
  | i :: place => type.args[i]?.bind fun arg => arg.nodeAt? place

mutual

/-- The places of an expression, each before those below it. -/
def places : TypeExpr → List (List Nat)
  | node _ args _ => [] :: (placesOfArgs args).zipIdx.flatMap fun (below, i) => below.map (i :: ·)

/-- The places of every expression of a list. -/
def placesOfArgs : List TypeExpr → List (List (List Nat))
  | [] => []
  | arg :: rest => arg.places :: placesOfArgs rest

end

theorem placesOfArgs_eq_map (args : List TypeExpr) : placesOfArgs args = args.map places := by
  induction args with
  | nil => rfl
  | cons arg rest ih => rw [placesOfArgs, ih, List.map_cons]

theorem cons_mem_places {type : TypeExpr} {i : Nat} {place : List Nat} :
    i :: place ∈ type.places ↔ ∃ arg, type.args[i]? = some arg ∧ place ∈ arg.places := by
  obtain ⟨head, args, nullable⟩ := type
  simp only [places, placesOfArgs_eq_map, List.mem_cons, reduceCtorEq, false_or, List.mem_flatMap,
    Prod.exists, List.mem_zipIdx_iff_getElem?, List.getElem?_map, List.mem_map]
  constructor
  · rintro ⟨below, j, hbelow, place', hplace, heq⟩
    cases heq
    obtain ⟨arg, harg, rfl⟩ := Option.map_eq_some_iff.mp hbelow
    exact ⟨arg, harg, hplace⟩
  · rintro ⟨arg, harg, hplace⟩
    exact ⟨arg.places, i, Option.map_eq_some_iff.mpr ⟨arg, harg, rfl⟩, place, hplace, rfl⟩

/-- The places are those where a node is found. -/
theorem mem_places_iff {type : TypeExpr} {place : List Nat} :
    place ∈ type.places ↔ (type.nodeAt? place).isSome = true := by
  induction place generalizing type with
  | nil =>
    cases type
    simp [places, nodeAt?]
  | cons i place ih =>
    rw [cons_mem_places, nodeAt?]
    cases type.args[i]? with
    | none => simp
    | some arg => simpa using ih

/-! ## §2 Texts in places -/

/-- What stands in a text for a node. -/
inductive Cover where
  /-- A text for the node without its nullability. -/
  | core (text : String)
  /-- `_` for all of it. -/
  | whole
  deriving DecidableEq, Repr

mutual

/-- The text of an expression down to the places that are covered. -/
def renderCovered (cover : List Nat → Option Cover) : TypeExpr → String
  | node head args nullable =>
    match cover [] with
    | some (.core text) => renderNullable nullable text
    | some .whole => "_"
    | none =>
      renderNullable nullable
        (renderApplied head.text (renderCoveredArgs (fun i place => cover (i :: place)) args))

/-- The texts of a list of expressions, each down to the places that are covered
in it. -/
def renderCoveredArgs (cover : Nat → List Nat → Option Cover) : List TypeExpr → List String
  | [] => []
  | arg :: rest =>
    renderCovered (cover 0) arg :: renderCoveredArgs (fun i => cover (i + 1)) rest

end

mutual

/-- Where nothing is covered, the text is that of the expression. -/
theorem renderCovered_eq_render :
    ∀ type : TypeExpr, renderCovered (fun _ => none) type = type.render
  | node head args nullable => by
    show renderNullable nullable (renderApplied head.text (renderCoveredArgs _ args)) =
      renderNullable nullable (renderApplied head.text (renderArgs args))
    rw [renderCoveredArgs_eq_renderArgs args]

theorem renderCoveredArgs_eq_renderArgs :
    ∀ args : List TypeExpr, renderCoveredArgs (fun _ _ => none) args = renderArgs args
  | [] => rfl
  | arg :: rest => by
    rw [renderCoveredArgs, renderArgs, renderCovered_eq_render arg,
      renderCoveredArgs_eq_renderArgs rest]

end

end Surrogates.TypeExpr
