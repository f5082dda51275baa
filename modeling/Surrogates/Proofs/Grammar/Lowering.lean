/-
Surrogates.Proofs.Grammar.Lowering — the trees of types are normal.

`Good` trees are normal and have lengths that fit. Every production that finds
a tree finds a good one, if the words it reads are words and the types inside
are good: `good_of_lowerPath` for paths, §4 for tuples, slices and arrays.
By induction on the level the trees of types are good, `goodTypes_level`, and
so is the tree of a text, `good_parse`.
-/
import Surrogates.TypeExpr.Parse
import Surrogates.Proofs.Grammar.Lexing
import Surrogates.Proofs.Grammar.Parsers

namespace Surrogates.Grammar

open TypeExpr

/-! ## §1 Good trees -/

/-- A normal tree whose lengths fit. -/
structure Good (t : TypeExpr) : Prop where
  normal : t.Normal
  fits : t.LengthsFit

theorem good_asNullable {t : TypeExpr} : Good t.asNullable ↔ Good t :=
  ⟨fun ⟨h, f⟩ => ⟨normal_asNullable.mp h, lengthsFit_asNullable.mp f⟩,
    fun ⟨h, f⟩ => ⟨normal_asNullable.mpr h, lengthsFit_asNullable.mpr f⟩⟩

/-- A node with good arguments. -/
theorem Good.node {head : String} {args : List TypeExpr} (hargs : ∀ arg ∈ args, Good arg)
    (hhead : HeadNormal head args)
    (hfolded : head ∈ optionNames → ∀ arg, args = [arg] → arg.nullable = true)
    (hlength : ∀ length : Nat, head = "[" ++ toString length ++ "]" → length < Nat.pow 2 64) :
    Good (.node ⟨head⟩ args false) where
  normal := normal_node.mpr ⟨⟨hhead, hfolded⟩, fun arg harg => (hargs arg harg).normal⟩
  fits := lengthsFit_node.mpr ⟨hlength, fun arg harg => (hargs arg harg).fits⟩

/-- A type found has a tree. -/
def TypeReading.HasTree (reading : TypeReading) : Prop :=
  ∃ t, reading.tree = .ok t

/-- The tree of a type found is good. -/
def TypeReading.IsGood (reading : TypeReading) : Prop :=
  ∀ t, reading.tree = .ok t → Good t

/-! ## §2 Paths -/

/-- An argument that a tree may have: a type with a tree, or a lifetime. -/
def Argument.IsUseful (found : Argument) : Prop :=
  found = .lifetime ∨ ∃ t, found = .type (.ok t)

/-- The tree of an argument is good. -/
def Argument.IsGood (found : Argument) : Prop :=
  ∀ t, found = .type (.ok t) → Good t

/-- A segment as the grammar takes it: nothing is applied to a keyword other
than `Self`, and the trees of the arguments are good. -/
structure Segment.IsGood (segment : Segment) : Prop where
  name : IsSegment segment.name
  bare : segment.name ∈ bareSegments → segment.arguments = none
  arguments : ∀ args, segment.arguments = some args → ∀ arg ∈ args, arg.IsGood

theorem isUseful_of_lowerArguments {path : String} {arguments : List Argument}
    {args : List TypeExpr} (h : lowerArguments path arguments = .ok args) :
    ∀ found ∈ arguments, found.IsUseful := by
  induction arguments generalizing args with
  | nil => exact List.forall_mem_nil _
  | cons first rest ih =>
    match first, h with
    | .lifetime, h => exact List.forall_mem_cons.mpr ⟨.inl rfl, ih h⟩
    | .type (.ok t), h =>
      cases hrest : lowerArguments path rest with
      | error problem =>
        rw [lowerArguments, hrest] at h
        cases h
      | ok more => exact List.forall_mem_cons.mpr ⟨.inr ⟨t, rfl⟩, ih hrest⟩

theorem good_of_lowerArguments {path : String} {arguments : List Argument}
    {args : List TypeExpr} (h : lowerArguments path arguments = .ok args)
    (hgood : ∀ found ∈ arguments, found.IsGood) : ∀ arg ∈ args, Good arg := by
  induction arguments generalizing args with
  | nil =>
    cases h
    exact List.forall_mem_nil _
  | cons first rest ih =>
    obtain ⟨hfirst, hrest⟩ := List.forall_mem_cons.mp hgood
    match first, h with
    | .lifetime, h => exact ih h hrest
    | .type (.ok t), h =>
      cases hmore : lowerArguments path rest with
      | error problem =>
        rw [lowerArguments, hmore] at h
        cases h
      | ok more =>
        rw [lowerArguments, hmore] at h
        cases h
        exact List.forall_mem_cons.mpr ⟨hfirst t rfl, ih hmore hrest⟩

/-- A head begins with a bracket only if it is that of a slice or an array. -/
theorem pathText_ne_array {rooted : Bool} {segments : List String} (hne : segments ≠ [])
    (h : ∀ text ∈ segments, IsWord text) (length : Nat) :
    pathText rooted segments ≠ "[" ++ toString length ++ "]" := by
  obtain ⟨c, cs, htext, hc, -⟩ : ∃ c cs, (pathText rooted segments).toList = c :: cs ∧ _ :=
    Scan.lexes_path hne h
  intro heq
  have hbracket : c = '[' := by
    rw [heq] at htext
    simp only [String.toList_append] at htext
    exact (List.cons.inj htext).1.symm
  subst hbracket
  revert hc
  decide

/-- The tree of a head and good arguments, an option folded. -/
theorem good_foldOption {head : String} {args : List TypeExpr} (hargs : ∀ arg ∈ args, Good arg)
    (hhead : HeadNormal head args)
    (hlength : ∀ length : Nat, head ≠ "[" ++ toString length ++ "]") :
    Good (foldOption head args) := by
  have hfits : ∀ length : Nat, head = "[" ++ toString length ++ "]" → length < Nat.pow 2 64 :=
    fun length h => absurd h (hlength length)
  unfold foldOption
  split
  · next arg =>
    split
    · exact good_asNullable.mpr (hargs arg List.mem_cons_self)
    · next hfold =>
      refine Good.node hargs hhead (fun hoption other hother => ?_) hfits
      obtain rfl := List.singleton_inj.mp hother
      simpa [hoption] using hfold
  · next hmany =>
    exact Good.node hargs hhead (fun _ arg harg => absurd harg (hmany arg)) hfits

/-- Of a path that has a tree only the last segment has arguments, and they have
trees. -/
theorem lowerPath_eq_ok {path : Path} {t : TypeExpr} (hne : path.segments ≠ [])
    (h : lowerPath path = .ok t) :
    ∃ before last args, path.segments = before ++ [last] ∧
      (∀ segment ∈ before, segment.arguments = none) ∧
      lowerArguments path.name (last.arguments.getD []) = .ok args ∧
      t = foldOption path.name args := by
  obtain ⟨before, last, hsegments⟩ : ∃ before last, path.segments = before ++ [last] :=
    ⟨_, _, (List.dropLast_append_getLast hne).symm⟩
  unfold lowerPath at h
  rw [hsegments, List.dropLast_concat, List.getLast?_concat, Option.bind_some] at h
  split at h
  · cases h
  · next hnone =>
    dsimp only at h
    cases hargs : lowerArguments path.name (last.arguments.getD []) with
    | error problem =>
      rw [hargs] at h
      cases h
    | ok args =>
      rw [hargs] at h
      cases h
      refine ⟨before, last, args, hsegments, fun segment hsegment => ?_, hargs, rfl⟩
      simpa using List.find?_eq_none.mp hnone segment hsegment

/-- The tree of a path of good segments is good. -/
theorem good_of_lowerPath {path : Path} {t : TypeExpr} (hne : path.segments ≠ [])
    (hgood : ∀ segment ∈ path.segments, segment.IsGood)
    (hfirst : path.rooted = false → (path.segments.map (·.name)).head? ≠ some "try")
    (h : lowerPath path = .ok t) : Good t := by
  obtain ⟨before, last, args, hsegments, -, hargs, rfl⟩ := lowerPath_eq_ok hne h
  have hlast : last.IsGood := hgood last (by simp [hsegments])
  have hname : path.name = pathText path.rooted (before.map (·.name) ++ [last.name]) := by
    rw [Path.name, pathText, hsegments, List.map_append]
    rfl
  have hpath : IsPath path.rooted (before.map (·.name) ++ [last.name]) := by
    refine ⟨fun text htext => ?_, by simpa [hsegments] using hfirst⟩
    obtain ⟨segment, hsegment, rfl⟩ : ∃ segment ∈ path.segments, segment.name = text := by
      simpa [hsegments, eq_comm] using htext
    exact (hgood segment hsegment).name
  have harguments : ∀ found ∈ last.arguments.getD [], found.IsGood := by
    cases hfound : last.arguments with
    | none => exact List.forall_mem_nil _
    | some found => exact hlast.arguments found hfound
  have hbare : last.name ∈ bareSegments → args = [] := by
    intro hmem
    rw [hlast.bare hmem] at hargs
    cases hargs
    rfl
  rw [hname]
  exact good_foldOption (good_of_lowerArguments hargs harguments) (.path hpath hbare)
    (pathText_ne_array (by simp) fun text htext => (hpath.all text htext).word)

/-- The arguments of a segment are useful. -/
def Segment.IsUseful (segment : Segment) : Prop :=
  ∀ args, segment.arguments = some args → ∀ found ∈ args, found.IsUseful

theorem isUseful_of_lowerPath {path : Path} {t : TypeExpr} (hne : path.segments ≠ [])
    (h : lowerPath path = .ok t) : ∀ segment ∈ path.segments, segment.IsUseful := by
  obtain ⟨before, last, args, hsegments, hbefore, hargs, -⟩ := lowerPath_eq_ok hne h
  rw [hsegments]
  intro segment hsegment found hfound
  rcases List.mem_append.mp hsegment with hmem | hmem
  · rw [hbefore segment hmem] at hfound
    cases hfound
  · obtain rfl := List.mem_singleton.mp hmem
    rw [hfound, Option.getD_some] at hargs
    exact isUseful_of_lowerArguments hargs

/-! ## §3 Reading paths -/

variable {g : Productions}

/-- Types found by the nested parts have good trees. -/
def Productions.GoodTypes (g : Productions) : Prop :=
  ∀ plus, Keeps (g.type plus) TypeReading.HasTree TypeReading.IsGood

/-- An argument that is neither a type nor a lifetime is of no use. -/
theorem not_isUseful_of_other {α : Type} {p : Parser α} {left after : Remainder}
    {found : Argument} (hrun : (p >>= fun _ => pure .other) left = .ok (found, after)) :
    ¬found.IsUseful := by
  obtain ⟨_, _, -, hrun⟩ := bind_eq_ok.mp hrun
  obtain ⟨rfl, rfl⟩ := pure_eq_ok.mp hrun
  rintro (h | ⟨t, h⟩) <;> cases h

theorem keeps_argument (hg : g.GoodTypes) :
    Keeps (argument g) Argument.IsUseful Argument.IsGood := by
  intro left found after hleft hrun huseful
  unfold argument at hrun
  rw [tokens_bind, ite_run, ite_run] at hrun
  split at hrun
  · obtain ⟨_, mid, hlifetime, hrun⟩ := bind_eq_ok.mp hrun
    obtain ⟨rfl, rfl⟩ := pure_eq_ok.mp hrun
    exact ⟨fun t ht => (nomatch ht), worded_lifetime hleft hlifetime⟩
  split at hrun
  · exact absurd huseful (not_isUseful_of_other hrun)
  obtain ⟨reading, mid, hreading, hrun⟩ := bind_eq_ok.mp hrun
  -- what is left of the type is as it was, or a binding or bound was found
  have hfound : found = .type reading.tree ∧ (Worded mid.tokens → Worded after.tokens) := by
    dsimp only at hrun
    rw [ite_run] at hrun
    split at hrun
    · obtain ⟨equals, behind, hequals, hrun⟩ := bind_eq_ok.mp hrun
      rw [ite_run] at hrun
      split at hrun
      · exact absurd huseful (not_isUseful_of_other hrun)
      obtain ⟨colon, last, hcolon, hrun⟩ := bind_eq_ok.mp hrun
      rw [ite_run] at hrun
      split at hrun
      · exact absurd huseful (not_isUseful_of_other hrun)
      obtain ⟨rfl, rfl⟩ := pure_eq_ok.mp hrun
      exact ⟨rfl, fun hmid => worded_takeIf (worded_takeIf hmid hequals) hcolon⟩
    · obtain ⟨rfl, rfl⟩ := pure_eq_ok.mp hrun
      exact ⟨rfl, fun hmid => hmid⟩
  obtain ⟨rfl, hafter⟩ := hfound
  have htree : reading.HasTree := by
    rcases huseful with h | ⟨t, h⟩
    · cases h
    · exact ⟨t, Argument.type.inj h⟩
  obtain ⟨hgood, hmid⟩ := hg true left reading mid hleft hreading htree
  exact ⟨fun t ht => hgood t (Argument.type.inj ht), hafter hmid⟩

theorem keeps_arguments (hg : g.GoodTypes) :
    Keeps (arguments g) (∀ found ∈ ·, Argument.IsUseful found)
      (∀ found ∈ ·, Argument.IsGood found) := by
  intro left found after hleft hrun huseful
  unfold arguments at hrun
  obtain ⟨_, first, hopen, hrun⟩ := bind_eq_ok.mp hrun
  obtain ⟨items, second, hitems, hrun⟩ := bind_eq_ok.mp hrun
  obtain ⟨_, third, hclose, hrun⟩ := bind_eq_ok.mp hrun
  obtain ⟨rfl, rfl⟩ := pure_eq_ok.mp hrun
  obtain ⟨hgood, hsecond⟩ := (keeps_argument hg).separated "," (peek ">") first items second
    (worded_take hleft hopen) hitems huseful
  exact ⟨hgood, worded_take hsecond hclose⟩

/-- A segment is a word, with angle brackets behind it or without. -/
theorem segment_eq_ok {left after : Remainder} {inExpr : Bool} {found : Segment}
    (h : segment g inExpr left = .ok (found, after)) :
    ∃ rest, left.tokens = .word found.name :: rest ∧
      (bareSegments.contains found.name = true ∧ found.arguments = none ∧ after.tokens = rest ∨
        bareSegments.contains found.name = false ∧
          (isIdentifier found.name || found.name == "Self") = true ∧
          (found.arguments = none ∧ after.tokens = rest ∨
            ∃ args mid, found.arguments = some args ∧
              takeIf "::" ⟨rest, left.leftover⟩ = .ok mid ∧
              arguments g mid.2 = .ok (args, after))) := by
  obtain ⟨tokens, leftover⟩ := left
  unfold segment at h
  rw [tokens_bind] at h
  match tokens, h with
  | .word text :: rest, h =>
    dsimp only at h
    rw [ite_run, ite_run] at h
    split at h
    · next hbare =>
      rw [advance_bind] at h
      obtain ⟨rfl, rfl⟩ := pure_eq_ok.mp h
      exact ⟨rest, rfl, .inl ⟨hbare, rfl, rfl⟩⟩
    split at h
    · next hbare htaken =>
      rw [advance_bind, ite_run] at h
      split at h
      · obtain ⟨colons, mid, hcolons, h⟩ := bind_eq_ok.mp h
        obtain ⟨args, last, hargs, h⟩ := bind_eq_ok.mp h
        obtain ⟨rfl, rfl⟩ := pure_eq_ok.mp h
        exact ⟨rest, rfl, .inr ⟨Bool.not_eq_true _ ▸ hbare, htaken,
          .inr ⟨args, (colons, mid), rfl, hcolons, hargs⟩⟩⟩
      · obtain ⟨rfl, rfl⟩ := pure_eq_ok.mp h
        exact ⟨rest, rfl, .inr ⟨Bool.not_eq_true _ ▸ hbare, htaken, .inl ⟨rfl, rfl⟩⟩⟩
    · cases h
  | [], h => cases h
  | .lifetime :: _, h => cases h
  | .apostrophe :: _, h => cases h
  | .sign _ _ :: _, h => cases h
  | .literal _ :: _, h => cases h
  | .group _ _ :: _, h => cases h

theorem keeps_segment (hg : g.GoodTypes) :
    Keeps (segment g false) Segment.IsUseful Segment.IsGood := by
  intro left found after hleft hrun huseful
  obtain ⟨rest, htokens, hcases⟩ := segment_eq_ok hrun
  rw [htokens, worded_cons, worded_word] at hleft
  obtain ⟨hword, hrest⟩ := hleft
  rcases hcases with ⟨hbare, hnone, rfl⟩ | ⟨hbare, htaken, hcases⟩
  · have hmem : found.name ∈ bareSegments := List.contains_iff_mem.mp hbare
    exact ⟨⟨⟨hword, .inr (.inr hmem)⟩, fun _ => hnone, fun args hargs => by simp [hnone] at hargs⟩,
      hrest⟩
  have hsegment : IsSegment found.name := by
    rcases Bool.or_eq_true_iff.mp htaken with hidentifier | hself
    · exact ⟨hword, .inl hidentifier⟩
    · exact ⟨hword, .inr (.inl (eq_of_beq hself))⟩
  have hnot : found.name ∉ bareSegments := fun hmem => by
    rw [List.contains_iff_mem.mpr hmem] at hbare
    cases hbare
  rcases hcases with ⟨hnone, rfl⟩ | ⟨args, mid, hsome, hcolons, hargs⟩
  · exact ⟨⟨hsegment, fun hmem => absurd hmem hnot, fun args hargs => by simp [hnone] at hargs⟩,
      hrest⟩
  · have hmid : Worded mid.2.tokens := worded_takeIf (show Worded (Remainder.tokens ⟨rest, _⟩)
      from hrest) hcolons
    obtain ⟨hgood, hafter⟩ := keeps_arguments hg mid.2 args after hmid hargs (huseful args hsome)
    refine ⟨⟨hsegment, fun hmem => absurd hmem hnot, fun args' hargs' => ?_⟩, hafter⟩
    obtain rfl : args = args' := Option.some.inj (hsome.symm.trans hargs')
    exact hgood

theorem keeps_segments (hg : g.GoodTypes) (fuel : Nat) :
    Keeps (segments g false fuel) (∀ segment ∈ ·, Segment.IsUseful segment)
      (∀ segment ∈ ·, Segment.IsGood segment) := by
  induction fuel with
  | zero =>
    intro left found after _ hrun _
    cases hrun
  | succ fuel ih =>
    intro left found after hleft hrun huseful
    unfold segments at hrun
    obtain ⟨first, mid, hfirst, hrun⟩ := bind_eq_ok.mp hrun
    rw [tokens_bind, ite_run] at hrun
    split at hrun
    · rw [advance_bind] at hrun
      obtain ⟨more, last, hmore, hrun⟩ := bind_eq_ok.mp hrun
      obtain ⟨rfl, rfl⟩ := pure_eq_ok.mp hrun
      obtain ⟨huseful, hothers⟩ := List.forall_mem_cons.mp huseful
      obtain ⟨hgood, hmid⟩ := keeps_segment hg left first mid hleft hfirst huseful
      obtain ⟨hrest, hlast⟩ := ih _ more last (hmid.drop 2) hmore hothers
      exact ⟨List.forall_mem_cons.mpr ⟨hgood, hrest⟩, hlast⟩
    · obtain ⟨rfl, rfl⟩ := pure_eq_ok.mp hrun
      obtain ⟨hgood, hmid⟩ := keeps_segment hg left first mid hleft hfirst
        (huseful first List.mem_cons_self)
      exact ⟨List.forall_mem_singleton.mpr hgood, hmid⟩

theorem segments_head {left after : Remainder} {inExpr : Bool} {fuel : Nat}
    {found : List Segment} (h : segments g inExpr fuel left = .ok (found, after)) :
    ∃ first more rest, found = first :: more ∧ left.tokens = .word first.name :: rest := by
  cases fuel with
  | zero => cases h
  | succ fuel =>
    unfold segments at h
    obtain ⟨first, mid, hfirst, h⟩ := bind_eq_ok.mp h
    obtain ⟨rest, htokens, -⟩ := segment_eq_ok hfirst
    rw [tokens_bind, ite_run] at h
    split at h
    · rw [advance_bind] at h
      obtain ⟨more, last, -, h⟩ := bind_eq_ok.mp h
      obtain ⟨rfl, rfl⟩ := pure_eq_ok.mp h
      exact ⟨first, more, rest, rfl, htokens⟩
    · obtain ⟨rfl, rfl⟩ := pure_eq_ok.mp h
      exact ⟨first, [], rest, rfl, htokens⟩

/-- A path that begins a type does not begin with `try`. -/
theorem ne_try_of_peekPath {text : String} {rest : List Token}
    (h : peekPath (.word text :: rest) = true) : text ≠ "try" := by
  rintro rfl
  have hnone : peekPath (.word "try" :: rest) = false := rfl
  rw [hnone] at h
  cases h

theorem good_path {left after : Remainder} {found : Path} {t : TypeExpr} (hg : g.GoodTypes)
    (hleft : Worded left.tokens) (hpeek : peekPath left.tokens = true)
    (hrun : path g false left = .ok (found, after)) (htree : lowerPath found = .ok t) :
    Good t ∧ Worded after.tokens := by
  unfold path at hrun
  obtain ⟨rooted, mid, hrooted, hrun⟩ := bind_eq_ok.mp hrun
  rw [tokens_bind] at hrun
  obtain ⟨items, last, hitems, hrun⟩ := bind_eq_ok.mp hrun
  obtain ⟨rfl, rfl⟩ := pure_eq_ok.mp hrun
  obtain ⟨first, more, rest, rfl, htokens⟩ := segments_head hitems
  have huseful := isUseful_of_lowerPath (List.cons_ne_nil first more) htree
  obtain ⟨hgood, hlast⟩ := keeps_segments hg _ mid _ last (worded_takeIf hleft hrooted) hitems
    huseful
  refine ⟨good_of_lowerPath (List.cons_ne_nil _ _) hgood (fun hplain => ?_) htree, hlast⟩
  -- without a separator in front the path begins where the type does
  have hstart : left.tokens = .word first.name :: rest := by
    rw [takeIf_run] at hrooted
    split at hrooted
    · cases hrooted
      cases hplain
    · cases hrooted
      exact htokens
  rw [hstart] at hpeek
  simpa using ne_try_of_peekPath hpeek

/-! ## §4 Reading types -/

theorem not_hasTree_unsupported {shape : Shape} : ¬(TypeReading.unsupported shape).HasTree := by
  rintro ⟨t, h⟩
  cases h

/-- A type of an unsupported form has no tree, whatever is read of it. -/
theorem not_hasTree_of_unsupported {α : Type} {p : Parser α} {left after : Remainder}
    {reading : TypeReading} {shape : Shape}
    (hrun : (p >>= fun _ => pure (.unsupported shape)) left = .ok (reading, after)) :
    ¬reading.HasTree := by
  obtain ⟨_, _, -, hrun⟩ := bind_eq_ok.mp hrun
  obtain ⟨rfl, rfl⟩ := pure_eq_ok.mp hrun
  exact not_hasTree_unsupported

/-- A path has a tree only as a type of its own: no macro, no bound. -/
theorem pathType_eq_ok {left after : Remainder} {plus binder : Bool} {reading : TypeReading}
    (hrun : pathType g plus binder left = .ok (reading, after)) (htree : reading.HasTree) :
    binder = false ∧ ∃ found, path g false left = .ok (found, after) ∧
      reading.tree = lowerPath found := by
  unfold pathType at hrun
  obtain ⟨found, mid, hfound, hrun⟩ := bind_eq_ok.mp hrun
  rw [tokens_bind, ite_run, ite_run, ite_run] at hrun
  split at hrun
  · exact absurd htree (not_hasTree_of_unsupported hrun)
  split at hrun
  · exact absurd htree (not_hasTree_of_unsupported hrun)
  split at hrun
  · obtain ⟨rfl, rfl⟩ := pure_eq_ok.mp hrun
    exact absurd htree not_hasTree_unsupported
  · next hbinder =>
    obtain ⟨rfl, rfl⟩ := pure_eq_ok.mp hrun
    exact ⟨Bool.not_eq_true _ ▸ hbinder, found, hfound, rfl⟩

theorem good_pathType {left after : Remainder} {plus binder : Bool} {reading : TypeReading}
    (hg : g.GoodTypes) (hleft : Worded left.tokens) (hpeek : peekPath left.tokens = true)
    (hrun : pathType g plus binder left = .ok (reading, after)) (htree : reading.HasTree) :
    reading.IsGood ∧ Worded after.tokens := by
  obtain ⟨-, found, hfound, hlower⟩ := pathType_eq_ok hrun htree
  obtain ⟨t, ht⟩ := htree
  rw [hlower] at ht
  obtain ⟨hgood, hafter⟩ := good_path hg hleft hpeek hfound ht
  refine ⟨fun other hother => ?_, hafter⟩
  rw [hlower, ht] at hother
  cases hother
  exact hgood

/-- No option is written in brackets. -/
theorem notMem_optionNames_of_bracket {head : String} (h : head.toList.head? = some '[') :
    head ∉ optionNames := by
  have hnames : ∀ name ∈ optionNames, name.toList.head? ≠ some '[' := by decide
  exact fun hmem => hnames head hmem h

theorem good_slice {item : TypeExpr} (h : Good item) : Good (.node ⟨"[]"⟩ [item] false) := by
  refine Good.node (by simpa using h) (.slice item) (fun hmem => absurd hmem (by decide)) ?_
  exact fun length hlength => absurd hlength.symm (array_ne_slice length)

theorem good_array {item : TypeExpr} {length : Nat} (h : Good item)
    (hlength : length < Nat.pow 2 64) :
    Good (.node ⟨"[" ++ toString length ++ "]"⟩ [item] false) := by
  refine Good.node (by simpa using h) (.array length item)
    (fun hmem => absurd hmem (notMem_optionNames_of_bracket (by simp))) ?_
  intro other hother
  have hsame : toString length = toString other :=
    (String.append_right_inj _).mp ((String.append_left_inj _).mp hother)
  rwa [← Text.toString_inj.mp hsame]

theorem good_tuple {items : List TypeExpr} (h : ∀ item ∈ items, Good item) :
    Good (.node ⟨"()"⟩ items false) := by
  refine Good.node h (.tuple items) (fun hmem => absurd hmem (by decide)) ?_
  exact fun length hlength => absurd hlength.symm (array_ne_unit length)

/-- The tree of an array comes with that of its items and with a length that fits. -/
theorem lowerArray_eq_ok {item : Except Problem TypeExpr} {length : ExprReading} {t : TypeExpr}
    (h : lowerArray item length = .ok t) :
    ∃ t' n, item = .ok t' ∧ n < Nat.pow 2 64 ∧ t = .node ⟨"[" ++ toString n ++ "]"⟩ [t'] false := by
  unfold lowerArray at h
  split at h
  · next n =>
    split at h
    · next hn =>
      cases item with
      | error problem => cases h
      | ok t' =>
        cases h
        exact ⟨t', n, rfl, hn, rfl⟩
    · cases h
  · cases h

theorem good_bracketed (hg : g.GoodTypes) {left after : Remainder} {reading : TypeReading}
    (hleft : Worded left.tokens) (hrun : bracketed g left = .ok (reading, after)) :
    reading.IsGood := by
  unfold bracketed at hrun
  obtain ⟨item, mid, hitem, hrun⟩ := bind_eq_ok.mp hrun
  obtain ⟨semicolon, behind, hsemicolon, hrun⟩ := bind_eq_ok.mp hrun
  rw [ite_run] at hrun
  intro t ht
  split at hrun
  · obtain ⟨length, last, -, hrun⟩ := bind_eq_ok.mp hrun
    obtain ⟨rfl, rfl⟩ := pure_eq_ok.mp hrun
    obtain ⟨t', n, htree, hn, rfl⟩ := lowerArray_eq_ok ht
    exact good_array ((hg true left item mid hleft hitem ⟨t', htree⟩).1 t' htree) hn
  · obtain ⟨rfl, rfl⟩ := pure_eq_ok.mp hrun
    cases htree : item.tree with
    | error problem =>
      rw [htree] at ht
      cases ht
    | ok t' =>
      rw [htree] at ht
      cases ht
      exact good_slice ((hg true left item mid hleft hitem ⟨t', htree⟩).1 t' htree)

/-- Items have trees together as each of them has its own. -/
theorem mapM_tree_eq_ok {items : List TypeReading} {trees : List TypeExpr} :
    items.mapM TypeReading.tree = .ok trees ↔ items.map TypeReading.tree = trees.map .ok := by
  induction items generalizing trees with
  | nil => cases trees <;> simp [pure, Except.pure]
  | cons item items ih =>
    rw [List.mapM_cons, List.map_cons]
    cases htree : item.tree with
    | error problem => cases trees <;> simp [bind, Except.bind]
    | ok t =>
      cases trees with
      | nil => cases hmore : items.mapM TypeReading.tree <;>
          simp [bind, Except.bind, pure, Except.pure]
      | cons t' trees =>
        rw [List.map_cons, List.cons.injEq, ← ih]
        cases hmore : items.mapM TypeReading.tree <;>
          simp [bind, Except.bind, pure, Except.pure]

/-- A tuple that has a tree is a tuple of trees. -/
theorem lowerTuple_eq_ok {items : List TypeReading} {t : TypeExpr} (h : lowerTuple items = .ok t) :
    ∃ trees, items.map TypeReading.tree = trees.map .ok ∧ t = .node ⟨"()"⟩ trees false := by
  unfold lowerTuple at h
  cases htrees : items.mapM TypeReading.tree with
  | error problem =>
    rw [htrees] at h
    cases h
  | ok trees =>
    rw [htrees] at h
    cases h
    exact ⟨trees, mapM_tree_eq_ok.mp htrees, rfl⟩

theorem hasTree_of_lowerTuple {items : List TypeReading} {t : TypeExpr}
    (h : lowerTuple items = .ok t) : ∀ item ∈ items, item.HasTree := by
  obtain ⟨trees, htrees, -⟩ := lowerTuple_eq_ok h
  intro item hitem
  have htree : item.tree ∈ trees.map .ok := htrees ▸ List.mem_map_of_mem hitem
  obtain ⟨t, -, ht⟩ := List.mem_map.mp htree
  exact ⟨t, ht.symm⟩

theorem good_of_lowerTuple {items : List TypeReading} {t : TypeExpr}
    (h : lowerTuple items = .ok t) (hitems : ∀ item ∈ items, item.IsGood) : Good t := by
  obtain ⟨trees, htrees, rfl⟩ := lowerTuple_eq_ok h
  refine good_tuple fun t ht => ?_
  have htree : .ok t ∈ items.map TypeReading.tree := htrees ▸ List.mem_map_of_mem ht
  obtain ⟨item, hitem, hof⟩ := List.mem_map.mp htree
  exact hitems item hitem t hof

/-- The types in parentheses have trees. -/
def Parenthesized.IsUseful : Parenthesized → Prop
  | .tuple items => ∀ item ∈ items, item.HasTree
  | .type reading => reading.HasTree
  | .bounds | .bound => False

/-- The types in parentheses have good trees. -/
def Parenthesized.IsGood : Parenthesized → Prop
  | .tuple items => ∀ item ∈ items, item.IsGood
  | .type reading => reading.IsGood
  | .bounds | .bound => True

theorem good_parenthesizedContent (hg : g.GoodTypes) {left after : Remainder}
    {found : Parenthesized} (hleft : Worded left.tokens)
    (hrun : parenthesizedContent g left = .ok (found, after)) (huseful : found.IsUseful) :
    found.IsGood := by
  unfold parenthesizedContent at hrun
  rw [tokens_bind, ite_run, ite_run, ite_run] at hrun
  split at hrun
  · obtain ⟨rfl, rfl⟩ := pure_eq_ok.mp hrun
    exact List.forall_mem_nil _
  split at hrun
  · obtain ⟨_, _, -, hrun⟩ := bind_eq_ok.mp hrun
    obtain ⟨rfl, rfl⟩ := pure_eq_ok.mp hrun
    exact huseful.elim
  split at hrun
  · obtain ⟨_, _, -, hrun⟩ := bind_eq_ok.mp hrun
    obtain ⟨rfl, rfl⟩ := pure_eq_ok.mp hrun
    exact huseful.elim
  obtain ⟨first, mid, hfirst, hrun⟩ := bind_eq_ok.mp hrun
  obtain ⟨comma, behind, hcomma, hrun⟩ := bind_eq_ok.mp hrun
  rw [ite_run] at hrun
  split at hrun
  · obtain ⟨more, last, hmore, hrun⟩ := bind_eq_ok.mp hrun
    obtain ⟨rfl, rfl⟩ := pure_eq_ok.mp hrun
    obtain ⟨htree, htrees⟩ := List.forall_mem_cons.mp huseful
    obtain ⟨hgood, hmid⟩ := hg true left first mid hleft hfirst htree
    obtain ⟨hrest, -⟩ := (hg true).separated "," List.isEmpty behind more last
      (worded_takeIf hmid hcomma) hmore htrees
    exact List.forall_mem_cons.mpr ⟨hgood, hrest⟩
  · obtain ⟨rfl, rfl⟩ := pure_eq_ok.mp hrun
    exact (hg true left first mid hleft hfirst huseful).1

theorem keeps_parenthesizedType (hg : g.GoodTypes) (plus : Bool) :
    Keeps (parenthesizedType g plus) TypeReading.HasTree TypeReading.IsGood := by
  intro left found after hleft hrun huseful
  unfold parenthesizedType at hrun
  obtain ⟨content, mid, hcontent, hrun⟩ := bind_eq_ok.mp hrun
  have hgood := fun h => Keeps.inside (fun _ _ _ => good_parenthesizedContent hg) .paren
    left content mid hleft hcontent h
  match content, hrun with
  | .tuple items, hrun =>
    obtain ⟨rfl, rfl⟩ := pure_eq_ok.mp hrun
    obtain ⟨_, htuple⟩ := huseful
    obtain ⟨hitems, hmid⟩ := hgood (hasTree_of_lowerTuple htuple)
    exact ⟨fun t ht => good_of_lowerTuple ht hitems, hmid⟩
  | .bounds, hrun =>
    obtain ⟨rfl, rfl⟩ := pure_eq_ok.mp hrun
    exact absurd huseful not_hasTree_unsupported
  | .bound, hrun =>
    dsimp only at hrun
    rw [tokens_bind] at hrun
    exact absurd huseful (not_hasTree_of_unsupported hrun)
  | .type reading, hrun =>
    dsimp only at hrun
    rw [tokens_bind, ite_run] at hrun
    split at hrun
    · exact absurd huseful (not_hasTree_of_unsupported hrun)
    · obtain ⟨rfl, rfl⟩ := pure_eq_ok.mp hrun
      exact hgood huseful

/-- A type with parameters of its own in front has no tree. -/
theorem not_hasTree_boundType {plus : Bool} {left after : Remainder} {reading : TypeReading}
    (hrun : boundType g plus left = .ok (reading, after)) : ¬reading.HasTree := by
  unfold boundType at hrun
  rw [tokens_bind, ite_run, ite_run, ite_run] at hrun
  split at hrun
  · exact not_hasTree_of_unsupported hrun
  split at hrun
  · cases hrun
  split at hrun
  · intro htree
    obtain ⟨hbinder, -⟩ := pathType_eq_ok hrun htree
    cases hbinder
  · cases hrun

theorem keeps_type (hg : g.GoodTypes) (plus : Bool) :
    Keeps (type g plus) TypeReading.HasTree TypeReading.IsGood := by
  intro left found after hleft hrun huseful
  unfold type at hrun
  rw [tokens_bind, ite_run, ite_run, ite_run, ite_run, ite_run] at hrun
  split at hrun
  · obtain ⟨_, _, -, hrun⟩ := bind_eq_ok.mp hrun
    exact absurd huseful (not_hasTree_boundType hrun)
  split at hrun
  · exact keeps_parenthesizedType hg plus left found after hleft hrun huseful
  split at hrun
  · exact Keeps.inside (fun _ _ _ hleft hrun _ => good_bracketed hg hleft hrun) .bracket
      left found after hleft hrun huseful
  split at hrun
  · exact absurd huseful (not_hasTree_of_unsupported hrun)
  split at hrun
  · next hpeek => exact good_pathType hg hleft hpeek hrun huseful
  · exact absurd huseful (not_hasTree_of_unsupported hrun)

/-- On every level the trees of types are good. -/
theorem goodTypes_level (n : Nat) : (level n).GoodTypes := by
  induction n with
  | zero =>
    intro plus left found after _ hrun _
    cases hrun
  | succ n ih => exact keeps_type ih

/-! ## §5 Texts -/

/-- The tree of a text is good. -/
theorem good_parse {text : String} {t : TypeExpr} (h : TypeExpr.parse text = .ok t) : Good t := by
  unfold TypeExpr.parse at h
  split at h
  · cases h
  · next tokens htokens =>
    split at h
    · next reading hreading =>
      unfold typeOf at hreading
      split at hreading
      · next found hrun =>
        cases hreading
        exact (goodTypes_level _ true _ _ _ (Scan.worded_tokens? htokens) hrun ⟨t, h⟩).1 t h
      · cases hreading
      · cases hreading
    · cases h

end Surrogates.Grammar
