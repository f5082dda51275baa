/-
Surrogates.Proofs.Source.Imports — the imports of a unit's file are those that
the types in its attributes need.

`lines_filter_isUse` reads the imports off the lines of a file.
`imports_of_synthesized` is about every unit that is synthesized: one way of
printing serializers serves all attributes of the file, and it tells the
imported serializers apart and keeps clear of what the file declares; the
serializers that the plans of fields use are imported, but for the unit's own
and for those that need no import, each under the name that is printed.
-/
import Surrogates.Proofs.Source.Aliases
import Surrogates.Proofs.Unit.Synthesis
import Surrogates.Source.UnitFile

namespace Surrogates

/-! ## §1 Plans as they are written -/

mutual

/-- A plan as the type that names its serializers, by a way to print them. -/
def Plan.written (printed : TypeName → String) : Plan → String
  | .native => "_"
  | .use serializer => printed serializer.name
  | .nullable inner => "Option<" ++ inner.written printed ++ ">"
  | .generic head args => TypeExpr.renderApplied head.text (Plan.writtenArgs printed args)

/-- A list of plans as types. -/
def Plan.writtenArgs (printed : TypeName → String) : List Plan → List String
  | [] => []
  | plan :: rest => plan.written printed :: Plan.writtenArgs printed rest

end

namespace Source

mutual

theorem renderPlan_eq (aliases : Aliases) :
    ∀ plan : Plan, renderPlan aliases plan = plan.written aliases.nameOf
  | .native => rfl
  | .use _ => rfl
  | .nullable inner => by rw [renderPlan, Plan.written, renderPlan_eq aliases inner]
  | .generic _ args => by rw [renderPlan, Plan.written, renderPlans_eq aliases args]

theorem renderPlans_eq (aliases : Aliases) :
    ∀ plans : List Plan, renderPlans aliases plans = Plan.writtenArgs aliases.nameOf plans
  | [] => rfl
  | plan :: rest => by
    rw [renderPlans, Plan.writtenArgs, renderPlan_eq aliases plan, renderPlans_eq aliases rest]

end

/-! ## §2 Lines that import -/

/-- Whether a line is an import. -/
def isUse (line : String) : Bool :=
  "use ".toList.isPrefixOf line.toList

/-- A line imports what stands at a path, under its simple name or under one
that the line gives, and so binds the name in the file. -/
inductive Binds (path : TypeName) : String → String → Prop where
  | simple : Binds path path.simple ("use " ++ path.text ++ ";")
  | renamed (name : String) : Binds path name ("use " ++ path.text ++ " as " ++ name ++ ";")

theorem Use.binds_render (use : Use) : Binds use.path use.name use.render := by
  unfold Use.render
  split
  · next h =>
    rw [h]
    exact .simple
  · exact .renamed use.name

/-- A serializer needs an import if it has a name in the file that is not its
whole text. -/
theorem Use.of?_eq_some {aliases : Aliases} {serializer : TypeName} {use : Use} :
    Use.of? aliases serializer = some use ↔
      use.path = serializer ∧ aliases.get? serializer = some use.name ∧
        ¬(serializer.qualifier? = none ∧ use.name = serializer.text) := by
  unfold Use.of?
  cases aliases.get? serializer with
  | none => simp
  | some name =>
    have hplain : (serializer.qualifier?.isNone && name == serializer.text) = true ↔
        serializer.qualifier? = none ∧ name = serializer.text := by simp
    dsimp only
    split
    · next hc =>
      constructor
      · intro h
        cases h
      · rintro ⟨-, hname, hneeded⟩
        cases hname
        exact absurd (hplain.mp hc) hneeded
    · next hc =>
      constructor
      · intro h
        cases h
        exact ⟨rfl, rfl, fun hp => hc (hplain.mpr hp)⟩
      · rintro ⟨rfl, hname, -⟩
        cases hname
        rfl

theorem line_zero (text : String) : line 0 text = text := by
  unfold line
  split
  · next h => exact (String.isEmpty_iff.mp h).symm
  · simp

/-- Nothing that is indented is an import. -/
theorem isUse_line_succ (depth : Nat) (text : String) : isUse (line (depth + 1) text) = false := by
  unfold line
  split
  · rfl
  · simp [isUse, List.isPrefixOf, Nat.mul_succ, List.replicate_succ]

theorem isUse_render (use : Use) : isUse use.render = true := by
  unfold Use.render
  split <;> simp [isUse, List.isPrefixOf]

/-- Lines within the braces of a heading hold no import if neither the heading
nor the lines are imports. -/
theorem filter_isUse_braced {heading : String} {body : List String}
    (hheading : isUse (heading ++ " \x7b") = false) (hbody : ∀ text ∈ body, isUse text = false) :
    (braced 0 heading body).filter isUse = [] := by
  refine List.filter_eq_nil_iff.mpr fun text htext => ?_
  simp only [braced, line_zero, List.mem_append, List.mem_cons, List.not_mem_nil, or_false]
    at htext
  rcases htext with (rfl | hmem) | rfl
  · simp [hheading]
  · simp [hbody text hmem]
  · decide

theorem isUse_of_mem_braced_succ {depth : Nat} {heading : String} {body : List String}
    (hbody : ∀ text ∈ body, isUse text = false) :
    ∀ text ∈ braced (depth + 1) heading body, isUse text = false := by
  intro text htext
  simp only [braced, List.mem_append, List.mem_cons, List.not_mem_nil, or_false] at htext
  rcases htext with (rfl | hmem) | rfl
  · exact isUse_line_succ ..
  · exact hbody text hmem
  · exact isUse_line_succ ..

namespace UnitFile

theorem filter_isUse_useLines (file : UnitFile) :
    file.useLines.filter isUse = (file.attached ++ file.inner).map Use.render := by
  have hkept : ∀ uses : List Use,
      (uses.map fun use => line 0 use.render).filter isUse = uses.map Use.render := by
    intro uses
    simp only [line_zero]
    refine List.filter_eq_self.mpr fun text htext => ?_
    obtain ⟨use, -, rfl⟩ := List.mem_map.mp htext
    exact isUse_render use
  have hblock : ∀ (before : List String) (uses : List Use), before.filter isUse = [] →
      (if uses.isEmpty then [] else before ++ uses.map fun use => line 0 use.render).filter isUse =
        uses.map Use.render := by
    intro before uses hbefore
    split
    · next h => rw [List.isEmpty_iff.mp h]; rfl
    · rw [List.filter_append, hbefore, hkept, List.nil_append]
  rw [useLines, List.filter_append, List.map_append]
  exact congrArg₂ (· ++ ·) (hblock [""] file.attached rfl)
    (hblock ["", "// used inside generic arguments only"] file.inner (by decide))

theorem isUse_of_mem_fieldLines {field : FileField} {text : String}
    (h : text ∈ fieldLines field) : isUse text = false := by
  rw [fieldLines, List.mem_append, List.mem_singleton, Option.mem_toList,
    Option.map_eq_some_iff] at h
  rcases h with ⟨type, -, rfl⟩ | rfl
  · exact isUse_line_succ ..
  · exact isUse_line_succ ..

theorem filter_isUse_surrogateLines (file : UnitFile) : file.surrogateLines.filter isUse = [] := by
  rw [surrogateLines, List.filter_append, filter_isUse_braced]
  · simp [isUse, line_zero, List.isPrefixOf]
  · simp [isUse, List.isPrefixOf]
  · intro text htext
    obtain ⟨field, -, hmem⟩ := List.mem_flatMap.mp htext
    exact isUse_of_mem_fieldLines hmem

theorem filter_isUse_conversionLines (source destination : String) (fields : List String) :
    (conversionLines source destination fields).filter isUse = [] := by
  refine filter_isUse_braced (by simp [isUse, List.isPrefixOf])
    (isUse_of_mem_braced_succ (isUse_of_mem_braced_succ fun text htext => ?_))
  obtain ⟨field, -, rfl⟩ := List.mem_map.mp htext
  exact isUse_line_succ ..

theorem filter_isUse_serializeLines (file : UnitFile) :
    file.serializeLines.filter isUse = [] :=
  filter_isUse_braced (by simp [isUse, List.isPrefixOf]) (by simp [isUse_line_succ])

theorem filter_isUse_deserializeLines (file : UnitFile) :
    file.deserializeLines.filter isUse = [] :=
  filter_isUse_braced (by simp [isUse, List.isPrefixOf]) (by simp [isUse_line_succ])

/-- The imports among the lines of a file are those attached to fields, and
then those inside types. -/
theorem lines_filter_isUse (file : UnitFile) :
    file.lines.filter isUse = (file.attached ++ file.inner).map Use.render := by
  have htitle : isUse (line 0 ("// @generated by surrogate-gen from `" ++ file.target.text
      ++ "`. Do not edit.")) = false := by
    simp [isUse, line_zero, List.isPrefixOf]
  have hstruct : isUse (line 0 ("pub struct " ++ file.serializer ++ ";")) = false := by
    simp [isUse, line_zero, List.isPrefixOf]
  have hblank : isUse "" = false := rfl
  simp only [lines, List.cons_append, List.filter_append, List.filter_cons, htitle, hstruct, hblank,
    filter_isUse_useLines, filter_isUse_surrogateLines, copyLines, restoreLines,
    filter_isUse_conversionLines, filter_isUse_serializeLines, filter_isUse_deserializeLines,
    Bool.false_eq_true, if_false, List.append_nil]

/-! ## §3 The imports of a unit -/

variable {ctx : Context} {target : TypeName} {decls : List FieldDecl} {unit : SurrogateUnit}

theorem isWanted_iff {serializer : Serializer} :
    isWanted unit serializer = true ↔ serializer.name ≠ unit.serializer.name ∧
      ∃ field ∈ unit.surrogate.fields, serializer.name ∈ field.plan.serializers.map (·.name) := by
  simp only [isWanted, Bool.and_eq_true, bne_iff_ne, List.any_eq_true, beq_iff_eq, List.mem_map]

theorem mem_uses {aliases : Aliases} {serializers : List Serializer} {use : Use} :
    use ∈ uses unit aliases serializers ↔ ∃ serializer ∈ serializers,
      isWanted unit serializer = true ∧ Use.of? aliases serializer.name = some use := by
  simp only [uses, List.mem_filterMap, List.mem_filter, and_assoc]

/-- The two blocks of imports hold what is needed of all serializers that the
unit imports. -/
theorem attached_append_inner (h : ctx.synthesize? target decls = some unit) :
    (of unit).attached ++ (of unit).inner =
      uses unit (Aliases.ofUnit unit) unit.serializer.imports := by
  have hattached : (of unit).attached =
      uses unit (Aliases.ofUnit unit) (Context.attachedTo unit.surrogate.fields) :=
    congrArg (uses unit (Aliases.ofUnit unit)) (Context.filter_imports_eq h)
  have hinner : (of unit).inner =
      uses unit (Aliases.ofUnit unit) unit.surrogate.fileScope := rfl
  rw [hattached, hinner, Context.imports_eq h]
  simp only [uses, List.filter_append, List.filterMap_append]

/-- The imports are those of the names in plans, but for the unit's own and
for names without a qualifier that are printed as they are. -/
theorem mem_paths_iff (h : ctx.synthesize? target decls = some unit) {name : TypeName} :
    name ∈ ((of unit).attached ++ (of unit).inner).map (·.path) ↔
      (∃ field ∈ unit.surrogate.fields, name ∈ field.plan.serializers.map (·.name)) ∧
        name ≠ unit.serializer.name ∧
          ¬(name.qualifier? = none ∧ (Aliases.ofUnit unit).nameOf name = name.text) := by
  rw [attached_append_inner h, List.mem_map]
  constructor
  · rintro ⟨use, huse, rfl⟩
    obtain ⟨s, -, hwanted, hof⟩ := mem_uses.mp huse
    obtain ⟨hpath, hget, hneeded⟩ := Use.of?_eq_some.mp hof
    obtain ⟨hown, hplan⟩ := isWanted_iff.mp hwanted
    rw [hpath, Aliases.nameOf, hget]
    exact ⟨hplan, hown, hneeded⟩
  · rintro ⟨⟨field, hfield, hplan⟩, hown, hneeded⟩
    obtain ⟨s, hs, rfl⟩ := List.mem_map.mp hplan
    have himport := Context.mem_imports_of_mem_serializers h hfield hs
    obtain ⟨given, hget⟩ := Aliases.exists_get?_ofUnit himport
    rw [Aliases.nameOf, hget] at hneeded
    exact ⟨⟨s.name, given⟩, mem_uses.mpr ⟨s, himport,
      isWanted_iff.mpr ⟨hown, field, hfield, hplan⟩,
      Use.of?_eq_some.mpr ⟨rfl, hget, hneeded⟩⟩, rfl⟩

/-- An import is under the name that the file has for the serializer. -/
theorem get?_path {use : Use} (h : use ∈ (of unit).attached ++ (of unit).inner) :
    (Aliases.ofUnit unit).get? use.path = some use.name := by
  have hof : ∃ serializer : Serializer,
      Use.of? (Aliases.ofUnit unit) serializer.name = some use := by
    rcases List.mem_append.mp h with hmem | hmem <;>
      obtain ⟨s, -, -, hof⟩ := mem_uses.mp hmem <;> exact ⟨s, hof⟩
  obtain ⟨s, hof⟩ := hof
  obtain ⟨hpath, hget, -⟩ := Use.of?_eq_some.mp hof
  rw [hpath, hget]

/-- **The imports of a unit's file.** Serializers are printed in one way
throughout the attributes of fields. Those that the unit imports are printed
apart from each other and, but for its own, apart from what the file declares;
and the file's lines import those that plans use, each under what is printed
for it, but for the unit's own and for those without a qualifier that are
printed as they are. The search for a free name ends with the first that is
not taken. -/
theorem imports_of_synthesized (h : ctx.synthesize? target decls = some unit) :
    let file := of unit
    let uses := file.attached ++ file.inner
    let own := unit.serializer.name
    file.lines.filter isUse = uses.map Use.render ∧
    (∃ printed : TypeName → String,
      file.fields = unit.surrogate.fields.map (fun field =>
        ⟨field.name, field.type,
          if field.plan.isNative then none else some (field.plan.written printed)⟩) ∧
      (∀ s ∈ unit.serializer.imports, ∀ t ∈ unit.serializer.imports,
        s.name ≠ t.name → printed s.name ≠ printed t.name) ∧
      (∀ s ∈ unit.serializer.imports, s.name ≠ own →
        printed s.name ≠ unit.surrogate.name.simple ∧ printed s.name ≠ own.simple) ∧
      printed own = own.simple ∧
      (∀ name, name ∈ uses.map (·.path) ↔
        (∃ field ∈ unit.surrogate.fields, name ∈ field.plan.serializers.map (·.name)) ∧
          name ≠ own ∧ ¬(name.qualifier? = none ∧ printed name = name.text)) ∧
      ∀ use ∈ uses, Binds use.path (printed use.path) use.render) ∧
    ∀ (simple : String) (taken : List String), ∃ k ≤ taken.length,
      freeName simple taken = candidate simple k ∧ candidate simple k ∉ taken ∧
        ∀ j < k, candidate simple j ∈ taken := by
  intro file uses own
  obtain ⟨taken, hassigned⟩ := Aliases.assigned_ofUnit unit
  have hprinted : ∀ s ∈ unit.serializer.imports, (Aliases.ofUnit unit).get? s.name =
      some ((Aliases.ofUnit unit).nameOf s.name) := by
    intro s hs
    obtain ⟨given, hget⟩ := Aliases.exists_get?_ofUnit hs
    rw [Aliases.nameOf, hget, Option.getD_some]
  refine ⟨lines_filter_isUse file, ⟨(Aliases.ofUnit unit).nameOf, ?_, ?_, ?_, ?_,
    fun name => mem_paths_iff h, ?_⟩, freeName_eq⟩
  · refine List.map_congr_left fun declared _ => ?_
    rw [field, renderPlan_eq]
  · intro s hs t ht hne hsame
    exact hne (hassigned.injective (hprinted s hs) (hsame ▸ hprinted t ht))
  · intro s hs hne
    simpa using hassigned.not_reserved hne (hprinted s hs)
  · rw [Aliases.nameOf, hassigned.own_simple, Option.getD_some]
  · intro use huse
    rw [Aliases.nameOf, get?_path huse, Option.getD_some]
    exact use.binds_render

/-! ## §4 Two codecs of one simple name -/

/-- A codec for one field and a codec for numbers, in modules of their own. -/
def codecContext : Context where
  catalog := .ofList []
  naming := .ofOptions .standard
  overrides :=
    { types := (∅ : Table TypeName Serializer).insert ⟨"u32"⟩ (.explicit ⟨"crate::num::Codec"⟩)
      fields := (∅ : Table (TypeName × String) Serializer).insert
        (⟨"crate::hr::Position"⟩, "name") (.explicit ⟨"crate::text::Codec"⟩) }

/-- A name and a list of numbers. -/
def codecFields : List FieldDecl :=
  [⟨"name", .node ⟨"String"⟩ [] false, .exported⟩,
   ⟨"levels", .node ⟨"Vec"⟩ [.node ⟨"u32"⟩ [] false] false, .exported⟩]

/-- The unit of the fields. -/
def codecUnit : SurrogateUnit :=
  (codecContext.synthesize? ⟨"crate::hr::Position"⟩ codecFields).getD default

/-- Both codecs are imported, and printed apart. -/
theorem imports_codecs :
    codecContext.synthesize? ⟨"crate::hr::Position"⟩ codecFields = some codecUnit ∧
      (of codecUnit).lines.filter isUse =
        ["use crate::text::Codec;", "use crate::num::Codec as Codec2;"] ∧
      ∃ printed : TypeName → String,
        (of codecUnit).fields.map (·.serializedAs) =
          [some (printed ⟨"crate::text::Codec"⟩),
           some ("Vec" ++ "<" ++ printed ⟨"crate::num::Codec"⟩ ++ ">")] ∧
        printed ⟨"crate::text::Codec"⟩ ≠ printed ⟨"crate::num::Codec"⟩ := by
  have h : codecContext.synthesize? ⟨"crate::hr::Position"⟩ codecFields = some codecUnit := rfl
  obtain ⟨hlines, ⟨printed, hfields, hapart, -⟩, -⟩ := imports_of_synthesized h
  refine ⟨h, hlines.trans rfl, printed, ?_, ?_⟩
  · rw [hfields]
    rfl
  · exact hapart (.explicit ⟨"crate::text::Codec"⟩) (by decide) (.explicit ⟨"crate::num::Codec"⟩)
      (by decide) (by decide)

end UnitFile

end Source

end Surrogates
