/-
Surrogates.Proofs.Source.Hygiene — whether the paths in a unit's file denote
what they are meant to.

A file binds names: its surrogate, its serializer and what it imports. A path
that starts with a bound name denotes what the name is bound to, whatever it was
meant for. `hygienic_iff` says of every unit that is synthesized which paths can
be caught that way. What plans print is safe if the types of fields are: the
containers in a plan stand in the type of its field, and serializers are printed
under names of their own. What is left are the paths that come from outside: the
types of fields, the target, and the serializers of overrides. `string_captured`
has a unit in which one is caught.
-/
import Surrogates.Proofs.Configuration.Checked
import Surrogates.Proofs.Generation.Pass
import Surrogates.Proofs.Plan.Serializers
import Surrogates.Proofs.Source.Imports
import Surrogates.Proofs.TypeName.Simple

namespace Surrogates

/-! ## §1 Paths in types and plans -/

/-- The path that a head is printed as; tuples, slices and arrays are none. -/
def TypeName.headPaths (head : TypeName) : List String :=
  if head.text = "()" ∨ head.text.toList.head? = some '[' then [] else [head.text]

namespace TypeExpr

/-- The paths of a node alone: `Option` if it is nullable, and its head. -/
def nodePaths (node : TypeExpr) : List String :=
  (if node.nullable then ["Option"] else []) ++ node.head.headPaths

/-- The paths in the text of a type. -/
def paths (type : TypeExpr) : List String :=
  type.nodes.flatMap nodePaths

theorem mem_paths_of_mem_args {head : TypeName} {args : List TypeExpr} {nullable : Bool}
    {path : String} (h : ∃ node ∈ nodesOfArgs args, path ∈ nodePaths node) :
    path ∈ (node head args nullable).paths := by
  obtain ⟨part, hpart, hpath⟩ := h
  exact List.mem_flatMap.mpr ⟨part, List.mem_cons_of_mem _ hpart, hpath⟩

theorem mem_paths_of_mem_nodePaths {type : TypeExpr} {path : String}
    (h : path ∈ type.nodePaths) : path ∈ type.paths := by
  cases type with
  | node head args nullable => exact List.mem_flatMap.mpr ⟨_, List.mem_cons_self, h⟩

end TypeExpr

namespace Plan

mutual

/-- The containers in the text of a plan. -/
def heads : Plan → List String
  | native => []
  | use _ => []
  | nullable inner => "Option" :: inner.heads
  | generic head args => head.headPaths ++ headsOfArgs args

/-- The containers in the texts of a list of plans. -/
def headsOfArgs : List Plan → List String
  | [] => []
  | plan :: rest => plan.heads ++ headsOfArgs rest

end

theorem mem_heads_withNull {nullable : Bool} {plan : Plan} {path : String}
    (h : path ∈ (plan.withNull nullable).heads) :
    path ∈ plan.heads ∨ nullable = true ∧ path = "Option" := by
  unfold withNull at h
  split at h
  · next hnull =>
    rcases List.mem_cons.mp h with rfl | h
    · exact .inr ⟨((Bool.and_eq_true ..).mp hnull).1, rfl⟩
    · exact .inl h
  · exact .inl h

end Plan

namespace Context

variable {ctx : Context} {path : String}

theorem mem_heads_planContainer {head : TypeName} {args : List Plan}
    (h : path ∈ (planContainer head args).heads) :
    path ∈ head.headPaths ∨ path ∈ Plan.headsOfArgs args := by
  unfold planContainer at h
  split at h
  · cases h
  · exact List.mem_append.mp h

mutual

/-- The containers in a plan stand in the type that it is made for. -/
theorem mem_paths_of_mem_heads_planNested :
    ∀ type : TypeExpr, path ∈ (ctx.planNested type).heads → path ∈ type.paths
  | .node head args nullable, h => by
    rw [planNested] at h
    rcases Plan.mem_heads_withNull h with h | ⟨rfl, rfl⟩
    · cases hresolve : ctx.resolveHead head with
      | some s =>
        rw [hresolve] at h
        cases h
      | none =>
        rw [hresolve] at h
        rcases mem_heads_planContainer h with hhead | hargs
        · exact TypeExpr.mem_paths_of_mem_nodePaths (List.mem_append_right _ hhead)
        · exact TypeExpr.mem_paths_of_mem_args (mem_paths_of_mem_heads_planArgs args hargs)
    · exact TypeExpr.mem_paths_of_mem_nodePaths (List.mem_append_left _ List.mem_cons_self)

theorem mem_paths_of_mem_heads_planArgs :
    ∀ types : List TypeExpr, path ∈ Plan.headsOfArgs (ctx.planArgs types) →
      ∃ node ∈ TypeExpr.nodesOfArgs types, path ∈ node.nodePaths
  | [], h => nomatch h
  | arg :: rest, h => by
    rw [TypeExpr.nodesOfArgs]
    rcases List.mem_append.mp h with hfirst | hrest
    · obtain ⟨node, hnode, hpath⟩ :=
        List.mem_flatMap.mp (mem_paths_of_mem_heads_planNested arg hfirst)
      exact ⟨node, List.mem_append_left _ hnode, hpath⟩
    · obtain ⟨node, hnode, hpath⟩ := mem_paths_of_mem_heads_planArgs rest hrest
      exact ⟨node, List.mem_append_right _ hnode, hpath⟩

end

/-- The containers in the plan of a field stand in the field's type. -/
theorem mem_paths_of_mem_heads_planField {type : TypeExpr} {attached : Option Serializer}
    (h : path ∈ (ctx.planField type attached).heads) : path ∈ type.paths := by
  cases type with
  | node head args nullable =>
    rcases Plan.mem_heads_withNull h with h | ⟨hnull, rfl⟩
    · cases attached with
      | some s => cases h
      | none =>
        rcases mem_heads_planContainer h with hhead | hargs
        · exact TypeExpr.mem_paths_of_mem_nodePaths (List.mem_append_right _ hhead)
        · exact TypeExpr.mem_paths_of_mem_args (mem_paths_of_mem_heads_planArgs args hargs)
    · obtain rfl : nullable = true := hnull
      exact TypeExpr.mem_paths_of_mem_nodePaths (List.mem_append_left _ List.mem_cons_self)

end Context

namespace Source

/-! ## §2 What a file binds and what it mentions -/

/-- The first word of a path; a path from the top, which starts with a separator,
has none. -/
def root? (path : String) : Option String :=
  match path.toList with
  | ':' :: ':' :: _ => none
  | cs => (TypeName.pieces cs).head?.map String.ofList

/-- What a path may stand for. -/
inductive Item where
  /-- The type that a path leads to where nothing is bound. -/
  | outside (path : String)
  /-- The file's own surrogate. -/
  | surrogate
  /-- The file's own serializer. -/
  | serializer
  deriving DecidableEq, Repr

namespace UnitFile

/-- The names that a unit's file binds at its top level. -/
inductive Bound (unit : SurrogateUnit) : String → Item → Prop where
  | surrogate : Bound unit (of unit).surrogate .surrogate
  | serializer : Bound unit (of unit).serializer .serializer
  | use {use : Use} : use ∈ (of unit).attached ++ (of unit).inner →
      Bound unit use.name (.outside use.path.text)

/-- What a unit means by the name of a serializer. -/
def meaning (unit : SurrogateUnit) (name : TypeName) : Item :=
  if name = unit.serializer.name then .serializer else .outside name.text

/-- The paths that a unit's file prints, with what they are meant for. -/
inductive Mentions (unit : SurrogateUnit) : String → Item → Prop where
  | surrogate : Mentions unit (of unit).surrogate .surrogate
  | serializer : Mentions unit (of unit).serializer .serializer
  | target : Mentions unit (of unit).target.text (.outside (of unit).target.text)
  /-- A path in the type of a field. -/
  | fieldType {field : SurrogateField} {path : String} : field ∈ unit.surrogate.fields →
      path ∈ field.type.paths → Mentions unit path (.outside path)
  /-- A container in the attribute of a field. -/
  | planHead {field : SurrogateField} {path : String} : field ∈ unit.surrogate.fields →
      path ∈ field.plan.heads → Mentions unit path (.outside path)
  /-- A serializer in the attribute of a field. -/
  | planSerializer {field : SurrogateField} {s : Serializer} : field ∈ unit.surrogate.fields →
      s ∈ field.plan.serializers →
      Mentions unit ((Aliases.ofUnit unit).nameOf s.name) (meaning unit s.name)
  /-- A path that is imported. -/
  | use {use : Use} : use ∈ (of unit).attached ++ (of unit).inner →
      Mentions unit use.path.text (.outside use.path.text)

/-- No path in the file of a unit starts with a name that is bound to something
else than the path is meant for. -/
def Hygienic (unit : SurrogateUnit) : Prop :=
  ∀ name item, Bound unit name item → ∀ path meant, Mentions unit path meant →
    root? path = some name → item = meant

/-- The paths that come from outside: the target, those in the types of fields, and
those of the serializers in plans but for the unit's own. -/
def outsidePaths (unit : SurrogateUnit) : List String :=
  unit.target.text :: unit.surrogate.fields.flatMap fun field =>
    field.type.paths ++
      (field.plan.serializers.filter (·.name ≠ unit.serializer.name)).map (·.name.text)

theorem mem_outsidePaths {unit : SurrogateUnit} {path : String} :
    path ∈ outsidePaths unit ↔ path = unit.target.text ∨ ∃ field ∈ unit.surrogate.fields,
      path ∈ field.type.paths ∨ ∃ s ∈ field.plan.serializers,
        s.name ≠ unit.serializer.name ∧ s.name.text = path := by
  simp only [outsidePaths, List.mem_cons, List.mem_flatMap, List.mem_append, List.mem_map,
    List.mem_filter, decide_eq_true_eq, and_assoc]

end UnitFile

/-! ## §3 Names are words -/

theorem root?_of_cutLast_eq_none {name : String} (h : TypeName.cutLast name.toList = none) :
    root? name = some name := by
  unfold root?
  split
  · next heq => exact absurd (heq ▸ h) (TypeName.cutLast_separator_ne_none _)
  · simp [TypeName.pieces_of_cutLast_eq_none h]

theorem root?_simple (name : TypeName) : root? name.simple = some name.simple :=
  root?_of_cutLast_eq_none name.cutLast_simple

/-- A simple name with a number behind it is one word too. -/
theorem root?_candidate (name : TypeName) (k : Nat) :
    root? (candidate name.simple k) = some (candidate name.simple k) := by
  cases k with
  | zero => exact root?_simple name
  | succ i =>
    refine root?_of_cutLast_eq_none ?_
    have hcolon : ':' ∉ (toString (i + 2)).toList :=
      fun h => absurd (Text.isDigit_of_mem_toString h) (by decide)
    rw [candidate, String.toList_append, TypeName.cutLast_append hcolon, name.cutLast_simple]
    rfl

namespace Aliases

/-- Each serializer has its simple name, perhaps with a number. -/
theorem exists_candidate_of_addAll {taken : List String} {aliases : Aliases}
    (h : ∀ {name given}, aliases.get? name = some given →
      ∃ k, given = candidate name.simple k) (names : List TypeName) {name : TypeName}
    {given : String} (hget : (addAll taken aliases names).get? name = some given) :
    ∃ k, given = candidate name.simple k := by
  induction names generalizing taken aliases with
  | nil => exact h hget
  | cons first rest ih =>
    rw [addAll] at hget
    split at hget
    · exact ih h hget
    · refine ih (fun {other found} hfound => ?_) hget
      rw [Table.get?_insert] at hfound
      split at hfound
      · next heq =>
        subst heq
        obtain ⟨k, -, hk, -⟩ := freeName_eq other.simple taken
        exact ⟨k, (Option.some.inj hfound).symm.trans hk⟩
      · exact h hfound

theorem root?_of_get?_ofUnit {unit : SurrogateUnit} {name : TypeName} {given : String}
    (h : (ofUnit unit).get? name = some given) : root? given = some given := by
  have hown : ∀ {name given}, ((∅ : Aliases).insert unit.serializer.name
      unit.serializer.name.simple).get? name = some given →
        ∃ k, given = candidate name.simple k := by
    intro name given hget
    rw [Table.get?_insert, Table.get?_empty] at hget
    split at hget
    · next heq => exact ⟨0, by rw [heq]; exact (Option.some.inj hget).symm⟩
    · cases hget
  obtain ⟨k, rfl⟩ := exists_candidate_of_addAll hown _ h
  exact root?_candidate name k

end Aliases

/-! ## §4 What can be caught -/

namespace UnitFile

variable {ctx : Context} {target : TypeName} {decls : List FieldDecl} {unit : SurrogateUnit}

/-- Every serializer that a plan uses has a name in the file. -/
theorem get?_of_mem_plan (h : ctx.synthesize? target decls = some unit) {field : SurrogateField}
    (hfield : field ∈ unit.surrogate.fields) {s : Serializer} (hs : s ∈ field.plan.serializers) :
    (Aliases.ofUnit unit).get? s.name = some ((Aliases.ofUnit unit).nameOf s.name) := by
  obtain ⟨given, hget⟩ :=
    Aliases.exists_get?_ofUnit (Context.mem_imports_of_mem_serializers h hfield hs)
  rw [Aliases.nameOf, hget, Option.getD_some]

/-- The containers in plans stand in the types of fields. -/
theorem mem_paths_of_mem_heads (h : ctx.synthesize? target decls = some unit)
    {field : SurrogateField} (hfield : field ∈ unit.surrogate.fields) {path : String}
    (hpath : path ∈ field.plan.heads) : path ∈ field.type.paths := by
  obtain ⟨decl, -, rfl⟩ := Context.exists_decl_of_mem_fields h hfield
  exact Context.mem_paths_of_mem_heads_planField hpath

/-- What is imported is a serializer of a plan, but not the unit's own. -/
theorem exists_plan_of_mem_uses (h : ctx.synthesize? target decls = some unit) {use : Use}
    (huse : use ∈ (of unit).attached ++ (of unit).inner) :
    ∃ field ∈ unit.surrogate.fields, ∃ s ∈ field.plan.serializers,
      s.name = use.path ∧ s.name ≠ unit.serializer.name := by
  obtain ⟨⟨field, hfield, hplan⟩, hown, -⟩ := (mem_paths_iff h).mp (List.mem_map_of_mem huse)
  obtain ⟨s, hs, hname⟩ := List.mem_map.mp hplan
  exact ⟨field, hfield, s, hs, hname, hname ▸ hown⟩

/-- A path from outside is printed as it is: in the place it comes from, or where it
is imported. -/
theorem mentions_of_outside (h : ctx.synthesize? target decls = some unit) {path : String}
    (hpath : path ∈ outsidePaths unit) : Mentions unit path (.outside path) := by
  rcases mem_outsidePaths.mp hpath with rfl | ⟨field, hfield, htype | ⟨s, hs, hown, rfl⟩⟩
  · exact .target
  · exact .fieldType hfield htype
  · by_cases hplain : s.name.qualifier? = none ∧ (Aliases.ofUnit unit).nameOf s.name = s.name.text
    · have hmentions := Mentions.planSerializer hfield hs
      rwa [hplain.2, meaning, if_neg hown] at hmentions
    · have hmem := (mem_paths_iff h).mpr
        ⟨⟨field, hfield, List.mem_map_of_mem (f := (·.name)) hs⟩, hown, hplain⟩
      obtain ⟨use, huse, hname⟩ := List.mem_map.mp hmem
      exact hname ▸ .use huse

/-- An imported name is none of the file's own. -/
theorem name_ne_of_mem_uses (h : ctx.synthesize? target decls = some unit) {use : Use}
    (huse : use ∈ (of unit).attached ++ (of unit).inner) :
    use.name ≠ (of unit).surrogate ∧ use.name ≠ (of unit).serializer := by
  obtain ⟨taken, hassigned⟩ := Aliases.assigned_ofUnit unit
  obtain ⟨-, -, s, -, hname, hown⟩ := exists_plan_of_mem_uses h huse
  have hreserved := hassigned.not_reserved (hname ▸ hown) (get?_path huse)
  exact ⟨fun heq => hreserved (heq ▸ List.mem_cons_self),
    fun heq => hreserved (heq ▸ List.mem_cons_of_mem _ List.mem_cons_self)⟩

theorem item_eq_surrogate (h : ctx.synthesize? target decls = some unit)
    (happart : (of unit).surrogate ≠ (of unit).serializer) {item : Item}
    (hbound : Bound unit (of unit).surrogate item) : item = .surrogate := by
  generalize hname : (of unit).surrogate = name at hbound
  cases hbound with
  | surrogate => rfl
  | serializer => exact absurd hname happart
  | use huse => exact absurd hname.symm (name_ne_of_mem_uses h huse).1

/-- A name that a serializer has in the file is bound to that serializer only, if
surrogate and serializer are named apart. -/
theorem item_eq_meaning (h : ctx.synthesize? target decls = some unit)
    (happart : (of unit).surrogate ≠ (of unit).serializer) {name : TypeName} {given : String}
    (hget : (Aliases.ofUnit unit).get? name = some given) {item : Item}
    (hbound : Bound unit given item) : item = meaning unit name := by
  obtain ⟨taken, hassigned⟩ := Aliases.assigned_ofUnit unit
  have hown : name = unit.serializer.name ↔ given = (of unit).serializer := by
    constructor
    · rintro rfl
      exact Option.some.inj (hget.symm.trans hassigned.own_simple)
    · rintro rfl
      exact hassigned.injective hget hassigned.own_simple
  generalize hgiven : given = bound at hbound
  cases hbound with
  | surrogate =>
    -- No serializer but the file's own has a name of the file.
    have hne : name ≠ unit.serializer.name :=
      fun heq => happart (hgiven.symm.trans (hown.mp heq))
    exact absurd (hgiven ▸ List.mem_cons_self) (hassigned.not_reserved hne hget)
  | serializer => rw [meaning, if_pos (hown.mpr hgiven)]
  | @use use huse =>
    subst hgiven
    obtain rfl := hassigned.injective hget (get?_path huse)
    rw [meaning, if_neg fun heq => (name_ne_of_mem_uses h huse).2 (hown.mp heq)]

/-- **What can be caught in a file.** In a unit's file every path denotes what it is
meant for exactly if the surrogate and the serializer are named apart and none of
the paths from outside, which are the target, those in the types of fields and
those of other serializers, starts with either of these names or with a name under
which something else is imported. -/
theorem hygienic_iff (h : ctx.synthesize? target decls = some unit) :
    let file := of unit
    Hygienic unit ↔ file.surrogate ≠ file.serializer ∧
      ∀ path ∈ outsidePaths unit,
        root? path ≠ some file.surrogate ∧ root? path ≠ some file.serializer ∧
        ∀ use ∈ file.attached ++ file.inner, root? path = some use.name →
          use.path.text = path := by
  intro file
  have hsurrogate : root? file.surrogate = some file.surrogate := root?_simple _
  constructor
  · intro hygienic
    refine ⟨fun heq => ?_, fun path hpath => ?_⟩
    · exact nomatch hygienic _ _ .serializer _ _ .surrogate (heq ▸ hsurrogate)
    · have hmentions := mentions_of_outside h hpath
      refine ⟨fun hroot => ?_, fun hroot => ?_, fun use huse hroot => ?_⟩
      · exact nomatch hygienic _ _ .surrogate _ _ hmentions hroot
      · exact nomatch hygienic _ _ .serializer _ _ hmentions hroot
      · exact Item.outside.inj (hygienic _ _ (.use huse) _ _ hmentions hroot)
  · rintro ⟨happart, houtside⟩ name item hbound path meant hmentions hroot
    have hcaught : ∀ path ∈ outsidePaths unit, root? path = some name → item = .outside path := by
      intro path hpath hroot
      obtain ⟨hsurrogate, hserializer, huses⟩ := houtside path hpath
      cases hbound with
      | surrogate => exact absurd hroot hsurrogate
      | serializer => exact absurd hroot hserializer
      | use huse => rw [huses _ huse hroot]
    cases hmentions with
    | surrogate =>
      obtain rfl := Option.some.inj (hsurrogate.symm.trans hroot)
      exact item_eq_surrogate h happart hbound
    | serializer =>
      obtain ⟨taken, hassigned⟩ := Aliases.assigned_ofUnit unit
      obtain rfl := Option.some.inj ((root?_simple unit.serializer.name).symm.trans hroot)
      rw [item_eq_meaning h happart hassigned.own_simple hbound, meaning, if_pos rfl]
    | target => exact hcaught _ (mem_outsidePaths.mpr (.inl rfl)) hroot
    | fieldType hfield hpath =>
      exact hcaught _ (mem_outsidePaths.mpr (.inr ⟨_, hfield, .inl hpath⟩)) hroot
    | planHead hfield hpath =>
      have htype := mem_paths_of_mem_heads h hfield hpath
      exact hcaught _ (mem_outsidePaths.mpr (.inr ⟨_, hfield, .inl htype⟩)) hroot
    | @planSerializer field s hfield hs =>
      have hget := get?_of_mem_plan h hfield hs
      obtain rfl := Option.some.inj ((Aliases.root?_of_get?_ofUnit hget).symm.trans hroot)
      exact item_eq_meaning h happart hget hbound
    | @use use huse =>
      obtain ⟨field, hfield, s, hs, hname, hown⟩ := exists_plan_of_mem_uses h huse
      have hserializer : ∃ s ∈ field.plan.serializers, s.name ≠ unit.serializer.name ∧
          s.name.text = use.path.text := ⟨s, hs, hown, congrArg TypeName.text hname⟩
      exact hcaught _ (mem_outsidePaths.mpr (.inr ⟨field, hfield, .inr hserializer⟩)) hroot

/-! ## §5 A name of a type and of an override -/

/-- Positions have titles and levels. -/
def levelFields : List FieldDecl :=
  [⟨"title", .node ⟨"String"⟩ [] false, .exported⟩, ⟨"level", .node ⟨"i32"⟩ [] false, .exported⟩]

def levelCatalog : Catalog := .ofList [⟨⟨"crate::hr::Position"⟩, false, levelFields⟩]

/-- A serializer of the given name is used for numbers. -/
def levelConfiguration (serializer : TypeName) : Configuration :=
  ⟨.standard,
    [((Entry.named "Hr").target ⟨"crate::hr::Position"⟩).overrideClass ⟨"i32"⟩ serializer]⟩

/-- The context in which the unit of positions is made. -/
def levelContext (serializer : TypeName) : Context where
  catalog := levelCatalog
  naming := .ofOptions .standard
  overrides :=
    { types := (∅ : Table TypeName Serializer).insert ⟨"i32"⟩ (.explicit serializer)
      fields := ∅ }

/-- The unit of positions. -/
def levelUnit (serializer : TypeName) : SurrogateUnit :=
  ((levelContext serializer).synthesize? ⟨"crate::hr::Position"⟩ levelFields).getD default

/-- Where numbers are padded, every path denotes what it is meant for. -/
theorem hygienic_padded :
    (levelContext ⟨"crate::ser::Padded"⟩).synthesize? ⟨"crate::hr::Position"⟩ levelFields =
        some (levelUnit ⟨"crate::ser::Padded"⟩) ∧
      Hygienic (levelUnit ⟨"crate::ser::Padded"⟩) := by
  have h : (levelContext ⟨"crate::ser::Padded"⟩).synthesize? ⟨"crate::hr::Position"⟩ levelFields =
    some (levelUnit ⟨"crate::ser::Padded"⟩) := rfl
  exact ⟨h, (hygienic_iff h).mpr (by decide)⟩

/-- A serializer that is imported as `String` catches the type of the title. -/
theorem string_captured :
    let configuration := levelConfiguration ⟨"crate::ser::String"⟩
    configuration.Checked ∧ ∃ unit ∈
      ((Generator.ofOptions configuration.options).run levelCatalog configuration.entries).1.units,
        (of unit).lines.filter isUse = ["use crate::ser::String;"] ∧
        "    pub title: String," ∈ (of unit).lines ∧ ¬Hygienic unit := by
  refine ⟨⟨by decide, by decide⟩, levelUnit ⟨"crate::ser::String"⟩,
    List.mem_of_getElem? (i := 0) rfl, ?_, by decide +kernel, fun hygienic => ?_⟩
  · rw [lines_filter_isUse]
    rfl
  · have htitle : Mentions (levelUnit ⟨"crate::ser::String"⟩) "String" (.outside "String") :=
      .fieldType List.mem_cons_self (by decide)
    have huse : (⟨⟨"crate::ser::String"⟩, "String"⟩ : Use) ∈
        (of (levelUnit ⟨"crate::ser::String"⟩)).attached ++
          (of (levelUnit ⟨"crate::ser::String"⟩)).inner := by decide
    exact absurd (hygienic _ _ (.use huse) _ _ htitle (by decide)) (by decide)

end UnitFile

end Source

end Surrogates
