/-
Surrogates.Proofs.Execution.AbsentFields — fields that an object does not have.

A unit looks at one thing about a field that is absent: whether its type is nullable.
Of the fields before it each takes what it would take anyway, and those behind it find
nothing under its name in either case; so an absent field is read like `null` if its
type is nullable, and else is missing (`runFields_erase`). But a type is nullable only
if an odd number of options stand around it. A field of an option of an option takes
`null`, and cannot be left out: `absent_as_null`.
-/
import Surrogates.Proofs.Execution.Levels
import Surrogates.Proofs.TypeExpr.Options
import Surrogates.Proofs.Unit.Synthesis

namespace Surrogates.Execution.Interpreter

variable {inner : Plan → Json → Result Json} {type : TypeName} {name : String}
  {source : List (String × Json)}

/-! ## §1 Fields without a value -/

theorem fieldValue_absent {field : SurrogateField}
    (h : Assoc.get? field.name source = none) :
    fieldValue type field source =
      if field.type.nullable then .ok .null else .error (.missingField type field.name) := by
  rw [fieldValue, h]

theorem fieldValue_present {field : SurrogateField} {value : Json}
    (h : Assoc.get? field.name source = some value) : fieldValue type field source = .ok value := by
  rw [fieldValue, h]

/-- Without the value of a name, its first field reads `null` or is missing; the others
do not notice. -/
theorem runFields_erase (inner : Plan → Json → Result Json) (type : TypeName)
    {fields : List SurrogateField} {field : SurrogateField}
    (hfield : fields.find? (·.name == name) = some field) (hdistinct : (Assoc.keys source).Nodup)
    (hnull : Assoc.get? name source = some .null) (out : List (String × Json)) :
    (field.type.nullable = true →
        runFields inner type fields (Assoc.erase name source) out =
          runFields inner type fields source out) ∧
      (field.type.nullable = false →
        ∀ result, runFields inner type fields source out = .ok result →
          runFields inner type fields (Assoc.erase name source) out =
            .error (.missingField type name)) := by
  induction fields generalizing source out with
  | nil => cases hfield
  | cons first rest ih =>
    rw [runFields_cons, runFields_cons]
    by_cases hname : first.name = name
    · -- the first field of the name: behind it both objects are the same
      rw [List.find?_cons, beq_iff_eq.mpr hname] at hfield
      obtain rfl : first = field := Option.some.inj hfield
      subst hname
      have hgone : Assoc.get? first.name (Assoc.erase first.name source) = none :=
        Assoc.get?_erase_self hdistinct
      have hsame : Assoc.erase first.name (Assoc.erase first.name source) =
          Assoc.erase first.name source :=
        Assoc.erase_of_notMem (Assoc.get?_eq_none_iff.mp hgone)
      rw [runField, runField, fieldValue_absent hgone, fieldValue_present hnull, hsame]
      refine ⟨fun hnullable => ?_, fun hnot result _ => ?_⟩
      · rw [if_pos hnullable]
      · rw [if_neg (by simp [hnot])]
        rfl
    · -- a field of another name takes the same from both, which stay one erasure apart
      rw [List.find?_cons, beq_eq_false_iff_ne.mpr hname] at hfield
      have hlater := ih hfield (Assoc.nodup_keys_erase first.name hdistinct)
        ((Assoc.get?_erase_of_ne source (Ne.symm hname)).trans hnull)
      rw [runField_erase hname, Assoc.erase_comm]
      refine ⟨fun hnullable => ?_, fun hnot result hrun => ?_⟩
      · exact bind_congr fun value => (hlater _).1 hnullable
      · obtain ⟨value, hvalue, hrest⟩ := Except.bind_eq_ok.mp hrun
        rw [hvalue]
        exact (hlater _).2 hnot result hrest

/-! ## §2 Units -/

/-- An interpreter that has a unit, and no codec in place of it. -/
structure Runs (it : Interpreter) (unit : SurrogateUnit) : Prop where
  codec : it.codecs.get? unit.serializer.name = none
  unit : it.units.get? unit.serializer.name = some unit

variable {it : Interpreter} {unit : SurrogateUnit}

theorem Runs.run_object (h : it.Runs unit) (direction : Direction)
    (members : List (String × Json)) :
    it.run direction unit.serializer.name (.object members) =
      (runFields (it.execute direction) (readType unit direction) unit.surrogate.fields
        members []).map .object := by
  rw [run_eq, runNamed, h.codec]
  dsimp only
  rw [h.unit]
  rfl

/-- The first field of a name in a unit is that of the first eligible declaration. -/
theorem find?_fields_of_synthesize? {ctx : Context} {target : TypeName} {decls : List FieldDecl}
    (hunit : ctx.synthesize? target decls = some unit) {field : FieldDecl}
    (hfield : (decls.filter (·.visibility.isEligible)).find? (·.name == name) = some field) :
    unit.surrogate.fields.find? (·.name == name) = some (ctx.surrogateField target field) := by
  have hname : ((·.name == name) : SurrogateField → Bool) ∘ ctx.surrogateField target =
      (·.name == name) := rfl
  rw [(Context.synthesize?_eq_some hunit).2.2, List.find?_map, hname, hfield]
  rfl

/-- **A field that may be null can be left out of an object exactly if an odd number of
options stand around its type; each option that is written is one of them. Where their
number is even, an object with `null` in the field is refused without it.** This is said
of the first eligible field of a name only: it takes the value that the object has under
the name, and nothing is left there for a later field of that name. -/
theorem absent_as_null (it : Interpreter) (direction : Direction) {ctx : Context}
    {target : TypeName} {decls : List FieldDecl} {unit : SurrogateUnit} {field : FieldDecl}
    {text : String} {members : List (String × Json)}
    (hunit : ctx.synthesize? target decls = some unit)
    (hfield : (decls.filter (·.visibility.isEligible)).find? (·.name == field.name) = some field)
    (htype : TypeExpr.parse text = .ok field.type) (hruns : it.Runs unit)
    (hdistinct : (Assoc.keys members).Nodup)
    (hnull : Assoc.get? field.name members = some .null) :
    (∀ spelling ∈ Grammar.optionNames, ∃ type,
        TypeExpr.parse (spelling ++ "<" ++ field.type.render ++ ">") = .ok type ∧
          type.optionDepth = field.type.optionDepth + 1) ∧
      (field.type.optionDepth % 2 = 1 →
        it.run direction unit.serializer.name (.object (Assoc.erase field.name members)) =
          it.run direction unit.serializer.name (.object members)) ∧
      (field.type.optionDepth % 2 = 0 →
        ∀ result, it.run direction unit.serializer.name (.object members) = .ok result →
          it.run direction unit.serializer.name (.object (Assoc.erase field.name members)) =
            .error (.missingField (readType unit direction) field.name)) := by
  obtain ⟨hnormal, hfits⟩ := Grammar.good_parse htype
  obtain ⟨hodd, heven⟩ := runFields_erase (it.execute direction) (readType unit direction)
    (find?_fields_of_synthesize? hunit hfield) hdistinct hnull []
  have hnullable := TypeExpr.nullable_iff_odd hnormal
  refine ⟨fun spelling hspelling => ?_, fun hdepth => ?_, fun hdepth result hrun => ?_⟩
  · exact ⟨_, TypeExpr.parse_option hspelling hnormal hfits,
      TypeExpr.optionDepth_foldOption hspelling _⟩
  · rw [hruns.run_object, hruns.run_object, hodd (hnullable.mpr hdepth)]
  · rw [hruns.run_object] at hrun ⊢
    obtain ⟨results, hresults, -⟩ := Except.map_eq_ok.mp hrun
    have hnot : field.type.nullable = false := by
      rw [← Bool.not_eq_true, hnullable]
      omega
    rw [heven hnot results hresults]
    rfl

/-! ## §3 Notes -/

/-- A text under two options, or under three. -/
def noteType (three : Bool) : TypeExpr :=
  .node ⟨"Option"⟩ [.node ⟨"String"⟩ [] true] three

/-- No type has a serializer. -/
def noteContext : Context := ⟨.empty, .ofOptions .standard, .empty⟩

/-- A note has a text. -/
def noteField (three : Bool) : FieldDecl :=
  ⟨"text", noteType three, .exported⟩

/-- The unit of notes. -/
def noteUnit (three : Bool) : SurrogateUnit where
  target := ⟨"crate::Note"⟩
  surrogate := ⟨⟨"crate::NoteSurrogate"⟩, [⟨"text", noteType three, none, .native⟩], []⟩
  serializer :=
    { name := ⟨"crate::NoteSerializer"⟩
      toSurrogate := ⟨⟨"crate::Note"⟩, ⟨"crate::NoteSurrogate"⟩, ["text"]⟩
      fromSurrogate := ⟨⟨"crate::NoteSurrogate"⟩, ⟨"crate::Note"⟩, ["text"]⟩
      omitted := []
      imports := [] }

/-- An interpreter that has the unit. -/
def noteInterpreter (three : Bool) : Interpreter :=
  Interpreter.empty.addUnit (noteUnit three)

/-- Under three options the text can be left out. -/
theorem absent_as_null_note :
    TypeExpr.parse "Option<Option<Option<String>>>" = .ok (noteType true) ∧
      noteContext.synthesize? ⟨"crate::Note"⟩ [noteField true] = some (noteUnit true) ∧
      (noteInterpreter true).Runs (noteUnit true) ∧
      (noteInterpreter true).run .encode ⟨"crate::NoteSerializer"⟩ (.object []) =
        (noteInterpreter true).run .encode ⟨"crate::NoteSerializer"⟩
          (.object [("text", .null)]) ∧
      (noteInterpreter true).run .encode ⟨"crate::NoteSerializer"⟩ (.object []) =
        .ok (.object [("text", .null)]) := by
  have hparse : TypeExpr.parse "Option<Option<Option<String>>>" = .ok (noteType true) := by
    decide +kernel
  have hunit : noteContext.synthesize? ⟨"crate::Note"⟩ [noteField true] =
      some (noteUnit true) := rfl
  have hruns : (noteInterpreter true).Runs (noteUnit true) := ⟨rfl, rfl⟩
  have hfield : ([noteField true].filter (·.visibility.isEligible)).find?
      (·.name == (noteField true).name) = some (noteField true) := rfl
  have hdistinct : (Assoc.keys [("text", Json.null)]).Nodup := by decide
  obtain ⟨-, hodd, -⟩ :=
    absent_as_null (noteInterpreter true) .encode hunit hfield hparse hruns hdistinct rfl
  exact ⟨hparse, hunit, hruns, hodd (by decide), rfl⟩

/-- Under two options the text can be `null`, but cannot be left out. -/
theorem missing_note :
    TypeExpr.parse "Option<Option<String>>" = .ok (noteType false) ∧
      noteContext.synthesize? ⟨"crate::Note"⟩ [noteField false] = some (noteUnit false) ∧
      (noteInterpreter false).run .encode ⟨"crate::NoteSerializer"⟩ (.object [("text", .null)]) =
        .ok (.object [("text", .null)]) ∧
      (noteInterpreter false).run .encode ⟨"crate::NoteSerializer"⟩ (.object []) =
        .error (.missingField ⟨"crate::Note"⟩ "text") := by
  have hparse : TypeExpr.parse "Option<Option<String>>" = .ok (noteType false) := by
    decide +kernel
  exact ⟨hparse, rfl, rfl, rfl⟩

end Surrogates.Execution.Interpreter
