/-
Surrogates.Proofs.Source.SerializedAs — the type that names the serializers of a
field.

A field whose plan is not native is given the text of its plan in place of its
type. The text is that of the field's type in which a named node shows the name of
its serializer, still within an option if it may be null, and `_` stands for each
node in which none is named (`coverAt?`): `serialized_as_type`.
-/
import Surrogates.Proofs.Plan.Named
import Surrogates.Source.Aliases

namespace Surrogates

/-! ## §1 What stands for a node -/

namespace Context

/-- The serializers named at a place or below it. -/
def namedFrom (ctx : Context) (attached : Option Serializer) (type : TypeExpr)
    (place : List Nat) : List Serializer :=
  ((type.nodeAt? place).elim [] (·.places)).filterMap fun below =>
    ctx.namedAt? attached type (place ++ below)

end Context

namespace Source

open TypeExpr (Cover renderNullable renderCovered renderCoveredArgs)

variable {ctx : Context} {aliases : Aliases} {attached : Option Serializer}

/-- What stands for the node at a place in the type that names a field's
serializers: the name of the node's serializer, or `_` if none is named in it. -/
def coverAt? (ctx : Context) (aliases : Aliases) (attached : Option Serializer) (type : TypeExpr)
    (place : List Nat) : Option Cover :=
  match ctx.namedAt? attached type place with
  | some s => some (.core (aliases.nameOf s.name))
  | none => if ctx.namedFrom attached type place = [] then some .whole else none

theorem coverAt?_cons {type arg : TypeExpr} {i : Nat}
    (hgoes : Context.goesOn attached type.head = true) (harg : type.args[i]? = some arg)
    (place : List Nat) :
    coverAt? ctx aliases attached type (i :: place) =
      coverAt? ctx aliases (ctx.resolve arg) arg place := by
  have hnamed : ∀ place, ctx.namedAt? attached type (i :: place) =
      ctx.namedAt? (ctx.resolve arg) arg place := by
    intro place
    rw [Context.namedAt?_cons, if_pos hgoes, harg]
    rfl
  have hfrom : ctx.namedFrom attached type (i :: place) =
      ctx.namedFrom (ctx.resolve arg) arg place := by
    rw [Context.namedFrom, Context.namedFrom, TypeExpr.nodeAt?, harg]
    simp only [List.cons_append, hnamed]
    rfl
  rw [coverAt?, coverAt?, hnamed, hfrom]

theorem namedFrom_nil_eq_nil_iff {type : TypeExpr} :
    ctx.namedFrom attached type [] = [] ↔ (ctx.planField type attached).isNative = true := by
  rw [Context.isNative_planField_iff, Context.namedFrom]
  simp only [TypeExpr.nodeAt?, Option.elim_some, List.nil_append, List.filterMap_eq_nil_iff]
  constructor
  · intro h place
    cases hnamed : ctx.namedAt? attached type place with
    | none => rfl
    | some s => exact hnamed ▸ h place (Context.mem_places_of_namedAt? hnamed)
  · exact fun h place _ => h place

/-! ## §2 The text of a plan -/

theorem renderPlan_withNull {plan : Plan} (h : plan.isNative = false) (nullable : Bool) :
    renderPlan aliases (plan.withNull nullable) =
      renderNullable nullable (renderPlan aliases plan) := by
  cases nullable with
  | false => rfl
  | true =>
    rw [Plan.withNull, h]
    simp [renderPlan, renderNullable]

mutual

theorem renderPlan_planField (ctx : Context) (aliases : Aliases) :
    ∀ (type : TypeExpr) (attached : Option Serializer),
      renderPlan aliases (ctx.planField type attached) =
        renderCovered (coverAt? ctx aliases attached type) type
  | .node head args nullable, some s => by
    rw [Context.planField_attached, renderPlan_withNull rfl, renderCovered, coverAt?,
      Context.namedAt?_nil]
    rfl
  | .node head args nullable, none => by
    have hplan : ctx.planField (.node head args nullable) none =
        (Context.planContainer head (ctx.planArgs args)).withNull nullable := rfl
    rw [renderCovered, coverAt?, Context.namedAt?_nil]
    dsimp only
    cases hnative : (ctx.planField (.node head args nullable) none).isNative with
    | true =>
      rw [if_pos (namedFrom_nil_eq_nil_iff.mpr hnative), Plan.isNative_iff.mp hnative]
      rfl
    | false =>
      have hsome : ctx.namedFrom none (.node head args nullable) [] ≠ [] := fun hnil => by
        simp [namedFrom_nil_eq_nil_iff.mp hnil] at hnative
      rw [hplan, Context.isNative_withNull] at hnative
      obtain ⟨hgoes, hcontainer⟩ := Context.planContainer_of_not_isNative hnative
      rw [if_neg hsome, hplan, renderPlan_withNull hnative, hcontainer, renderPlan]
      rw [renderPlans_planArgs ctx aliases args _ fun i arg harg => ?_]
      exact funext fun place => coverAt?_cons hgoes harg place

theorem renderPlans_planArgs (ctx : Context) (aliases : Aliases) :
    ∀ (types : List TypeExpr) (cover : Nat → List Nat → Option Cover),
      (∀ (i : Nat) arg, types[i]? = some arg →
        cover i = coverAt? ctx aliases (ctx.resolve arg) arg) →
      renderPlans aliases (ctx.planArgs types) = renderCoveredArgs cover types
  | [], _, _ => rfl
  | arg :: rest, cover, hcover => by
    rw [Context.planArgs, renderPlans, renderCoveredArgs, Context.planNested_eq,
      renderPlan_planField ctx aliases arg, hcover 0 arg rfl,
      renderPlans_planArgs ctx aliases rest (fun i => cover (i + 1))
        fun i other hother => hcover (i + 1) other hother]

end

/-- **The text of a plan mirrors the type.** It is the text of the field's type down
to the nodes that are named and those in which none is; where nothing is covered,
that is the type's own text. The plan is native exactly if no serializer is
attached and no node below the root is named. -/
theorem serialized_as_type (ctx : Context) (aliases : Aliases) (type : TypeExpr)
    (attached : Option Serializer) :
    (ctx.planField type attached = .native ↔
      attached = none ∧ ∀ i place, ctx.namedAt? none type (i :: place) = none) ∧
    renderPlan aliases (ctx.planField type attached) =
      renderCovered (coverAt? ctx aliases attached type) type ∧
    renderCovered (fun _ => none) type = type.render := by
  refine ⟨?_, renderPlan_planField ctx aliases type attached, type.renderCovered_eq_render⟩
  rw [← Plan.isNative_iff, Context.isNative_planField_iff]
  constructor
  · intro h
    have hroot : attached = none := Context.namedAt?_nil.symm.trans (h [])
    subst hroot
    exact ⟨rfl, fun i place => h (i :: place)⟩
  · rintro ⟨rfl, hbelow⟩ place
    cases place with
    | nil => exact Context.namedAt?_nil
    | cons i place => exact hbelow i place

/-- Of a pair that may be null, the optional members are named and the bytes are
not. -/
example :
    let ctx : Context := ⟨.ofList [⟨⟨"Member"⟩, false, []⟩], .ofOptions .standard, .empty⟩
    let member : TypeExpr := .node ⟨"Member"⟩ [] true
    let bytes : TypeExpr := .node ⟨"Vec"⟩ [.node ⟨"u8"⟩ [] false] false
    let pair : TypeExpr := .node ⟨"()"⟩ [.node ⟨"[]"⟩ [member] false, bytes] true
    pair.render = "Option<([Option<Member>], Vec<u8>)>" ∧
      renderPlan ∅ (ctx.planField pair none) = "Option<([Option<MemberSerializer>], _)>" := by
  decide

end Source

end Surrogates
