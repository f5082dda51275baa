/-
Surrogates.Proofs.Source.ModuleText — what the text of a module tells.

Names are written into comments and literals as they are, so the text can be
read back only because a word has no grave accent and a path no quotation mark.
The name of the module is any text, and may have ends of lines and whole
registrations in it. But it stands in a line that ends with a bracket, while the
lines of registrations end with a comma: read from the end, the text tells where
the registrations begin (`eq_of_listing`). So it tells the entry, the name of the
list and all registrations in order: `contents_ofModule_eq_iff`.
-/
import Surrogates.Proofs.Source.Paths

namespace Surrogates

/-! ## §1 Legible modules -/

/-- The names of the registrations in order. -/
def SerializerModule.names (spec : SerializerModule) : List (TypeName × TypeName) :=
  spec.pairs.map fun pair => (pair.target, pair.serializer.name)

/-- A path, and a path registered for it. -/
structure SerializerModule.LegiblePair (names : TypeName × TypeName) : Prop where
  target : TypeName.parse? names.1.text = some names.1
  serializer : TypeName.parse? names.2.text = some names.2

/-- A module of a word whose registrations have paths. -/
structure SerializerModule.Legible (spec : SerializerModule) : Prop where
  entry : isIdentifier spec.entry = true
  names : ∀ names ∈ spec.names, LegiblePair names

theorem TypeName.notMem_of_parse? {name : TypeName} (h : TypeName.parse? name.text = some name)
    {c : Char} (hword : Text.Identifier.isWordChar c = false) (hcolon : c ≠ ':') :
    c ∉ name.text.toList :=
  notMem_of_isPath (isPath_of_parse? h) hword hcolon

namespace Source

/-! ## §2 Lines -/

theorem toList_joinLines_cons (first : String) (rest : List String) :
    (joinLines (first :: rest)).toList =
      first.toList ++ (rest.map (·.toList)).flatMap ('\n' :: ·) ++ ['\n'] := by
  induction rest generalizing first with
  | nil => simp [joinLines]
  | cons second rest ih =>
    rw [joinLines_cons, String.toList_append, String.toList_append, ih, List.map_cons,
      List.flatMap_cons]
    simp

/-- What stands behind the last character of a kind can be told, and what stands before it. -/
theorem eq_of_append_cons_last {c : Char} {cs ds rest more : List Char} (hrest : c ∉ rest)
    (hmore : c ∉ more) (h : cs ++ c :: rest = ds ++ c :: more) : cs = ds ∧ rest = more := by
  have hreverse : rest.reverse ++ c :: cs.reverse = more.reverse ++ c :: ds.reverse := by
    simpa using congrArg List.reverse h
  obtain rfl : rest = more := by
    refine List.reverse_inj.mp (eq_of_append_cons ?_ ?_ hreverse)
    · rwa [List.mem_reverse]
    · rwa [List.mem_reverse]
  exact ⟨List.append_cancel_right h, rfl⟩

/-- A line within a list: it has a comma at its end, and goes no further. -/
structure IsItem (text : List Char) : Prop where
  single : '\n' ∉ text
  comma : text.getLast? = some ','

theorem getLast?_of_isItem (head : List Char) {text : List Char} (h : IsItem text) :
    (head ++ '\n' :: text).getLast? = some ',' := by
  rw [List.getLast?_append, List.getLast?_cons, h.comma]
  rfl

theorem listing_concat (head : List Char) (front : List (List Char)) (last : List Char) :
    head ++ (front ++ [last]).flatMap ('\n' :: ·) =
      (head ++ front.flatMap ('\n' :: ·)) ++ '\n' :: last := by
  rw [List.flatMap_append, List.flatMap_singleton, List.append_assoc]

/-- What does not end like an item does not end with one. -/
theorem ne_listing_concat {head : List Char} (hhead : head.getLast? ≠ some ',')
    (other : List Char) (front : List (List Char)) {last : List Char} (h : IsItem last) :
    head ≠ other ++ (front ++ [last]).flatMap ('\n' :: ·) := by
  rintro rfl
  rw [listing_concat] at hhead
  exact hhead (getLast?_of_isItem _ h)

/-- Where the items of a list begin can be told if what stands before them does not end
like an item. -/
theorem eq_of_listing {head other : List Char} {items more : List (List Char)}
    (hhead : head.getLast? ≠ some ',') (hother : other.getLast? ≠ some ',')
    (hitems : ∀ item ∈ items, IsItem item) (hmore : ∀ item ∈ more, IsItem item)
    (h : head ++ items.flatMap ('\n' :: ·) = other ++ more.flatMap ('\n' :: ·)) :
    head = other ∧ items = more := by
  -- from the end: a head may have ends of lines in it, but the last line is an item or a head's
  induction items using List.reverseRecOn generalizing more with
  | nil =>
    rw [List.flatMap_nil, List.append_nil] at h
    rcases List.eq_nil_or_concat' more with rfl | ⟨front, last, rfl⟩
    · rw [List.flatMap_nil, List.append_nil] at h
      exact ⟨h, rfl⟩
    · exact absurd h (ne_listing_concat hhead other front (hmore last List.mem_concat_self))
  | append_singleton front last ih =>
    have hlast := hitems last List.mem_concat_self
    rcases List.eq_nil_or_concat' more with rfl | ⟨front', last', rfl⟩
    · rw [List.flatMap_nil, List.append_nil] at h
      exact absurd h.symm (ne_listing_concat hother head front hlast)
    · have hlast' := hmore last' List.mem_concat_self
      rw [listing_concat, listing_concat] at h
      obtain ⟨hfront, rfl⟩ := eq_of_append_cons_last hlast.single hlast'.single h
      obtain ⟨rfl, rfl⟩ := ih (fun item hitem => hitems item (List.mem_append_left _ hitem))
        (fun item hitem => hmore item (List.mem_append_left _ hitem)) hfront
      exact ⟨rfl, rfl⟩

/-! ## §3 Registrations -/

/-- The pieces of a registration's line, from its names. -/
def pairPieces (names : TypeName × TypeName) : List String :=
  ["    (\"", names.1.text, "\", \"", names.2.text, "\"),"]

/-- The line of a registration, from its names. -/
def pairText (names : TypeName × TypeName) : List Char :=
  (pairPieces names).flatMap (·.toList)

theorem map_pairLine (spec : SerializerModule) :
    (spec.pairs.map pairLine).map (·.toList) = spec.names.map pairText := by
  rw [SerializerModule.names, List.map_map, List.map_map]
  refine List.map_congr_left fun pair _ => ?_
  simp [pairLine, line, pairText, pairPieces]

variable {names others : TypeName × TypeName}

theorem isItem_pairText (h : SerializerModule.LegiblePair names) : IsItem (pairText names) where
  single := by
    have htarget : '\n' ∉ names.1.text.toList :=
      TypeName.notMem_of_parse? h.target (by decide) (by decide)
    have hserializer : '\n' ∉ names.2.text.toList :=
      TypeName.notMem_of_parse? h.serializer (by decide) (by decide)
    simp [pairText, pairPieces, htarget, hserializer]
  comma := by
    have hend : "\"),".toList.getLast? = some ',' := by decide
    simp only [pairText, pairPieces, List.flatMap_cons, List.flatMap_nil, List.append_nil,
      List.getLast?_append, hend, Option.some_or]

/-- The line of a registration tells its names. -/
theorem eq_of_pairText (h : SerializerModule.LegiblePair names) (hothers : SerializerModule.LegiblePair others)
    (heq : pairText names = pairText others) : names = others := by
  have hquote : "\", \"".toList = '\"' :: ", \"".toList := by decide
  simp only [pairText, pairPieces, List.flatMap_cons, hquote, List.cons_append,
    List.append_cancel_left_eq] at heq
  have htarget := eq_of_append_cons
    (TypeName.notMem_of_parse? h.target (by decide) (by decide))
    (TypeName.notMem_of_parse? hothers.target (by decide) (by decide)) heq
  simp only [htarget, List.append_cancel_left_eq, List.append_cancel_right_eq, List.cons_eq_cons,
    true_and] at heq
  exact congrArg₂ Prod.mk (congrArg TypeName.mk (String.toList_inj.mp htarget))
    (congrArg TypeName.mk (String.toList_inj.mp heq))

theorem eq_of_map_pairText {list more : List (TypeName × TypeName)}
    (hlist : ∀ names ∈ list, SerializerModule.LegiblePair names)
    (hmore : ∀ names ∈ more, SerializerModule.LegiblePair names)
    (h : list.map pairText = more.map pairText) : list = more := by
  induction list generalizing more with
  | nil => exact (List.map_eq_nil_iff.mp h.symm).symm
  | cons names rest ih =>
    obtain ⟨others, rest', rfl, hfirst, hrest⟩ := List.map_eq_cons_iff.mp h.symm
    obtain ⟨hnames, htail⟩ := List.forall_mem_cons.mp hlist
    obtain ⟨hothers, htail'⟩ := List.forall_mem_cons.mp hmore
    rw [eq_of_pairText hnames hothers hfirst.symm, ih htail htail' hrest.symm]

/-! ## §4 Headings -/

/-- The pieces of a module's text in front of its registrations. -/
def headingPieces (spec : SerializerModule) : List String :=
  ["// @generated by surrogate-gen for configuration `", spec.entry, "`. Do not edit.", "\n", "\n",
   "/// `(type, serializer)` pairs registered by `", spec.entry, "`, in registration order.", "\n",
   "pub static ", staticName spec.name, ": &[(&str, &str)] = &["]

/-- The text of a module in front of its registrations. -/
def heading (spec : SerializerModule) : List Char :=
  (headingPieces spec).flatMap (·.toList)

theorem toList_contents_ofModule (spec : SerializerModule) :
    (File.ofModule spec).contents.toList =
      heading spec ++ (spec.names.map pairText).flatMap ('\n' :: ·) ++ "\n];\n".toList := by
  have hnewline : "\n".toList = ['\n'] := by decide
  have hend : "\n];\n".toList = '\n' :: ("];".toList ++ ['\n']) := by decide
  rw [← map_pairLine, hend]
  simp only [File.ofModule, moduleLines, heading, headingPieces, line_zero, List.cons_append,
    List.nil_append, toList_joinLines_cons, List.map_cons, List.map_append, List.map_nil,
    List.flatMap_cons, List.flatMap_append, List.flatMap_nil, List.append_nil,
    String.toList_append, String.toList_empty, hnewline, List.append_assoc]

theorem getLast?_heading (spec : SerializerModule) : (heading spec).getLast? = some '[' := by
  have hend : ": &[(&str, &str)] = &[".toList.getLast? = some '[' := by decide
  simp only [heading, headingPieces, List.flatMap_cons, List.flatMap_nil, List.append_nil,
    List.getLast?_append, hend, Option.some_or]

/-- A heading tells its entry and the name of its list. -/
theorem heading_eq_iff {spec other : SerializerModule} (hspec : isIdentifier spec.entry = true)
    (hother : isIdentifier other.entry = true) :
    heading spec = heading other ↔
      spec.entry = other.entry ∧ staticName spec.name = staticName other.name := by
  constructor
  · intro h
    -- the entry ends at the first grave accent
    have hgrave : "`. Do not edit.".toList = '\x60' :: ". Do not edit.".toList := by decide
    simp only [heading, headingPieces, List.flatMap_cons, hgrave, List.cons_append,
      List.append_cancel_left_eq] at h
    have hentry := eq_of_append_cons (notMem_of_isIdentifier hspec (by decide))
      (notMem_of_isIdentifier hother (by decide)) h
    simp only [hentry, List.append_cancel_left_eq, List.append_cancel_right_eq, List.cons_eq_cons,
      true_and, String.toList_inj] at h
    exact ⟨String.toList_inj.mp hentry, h⟩
  · rintro ⟨hentry, hname⟩
    rw [heading, heading, headingPieces, headingPieces, hentry, hname]

/-! ## §5 The text -/

/-- **The text of a module tells its entry, the name of its list, and the names of all its
registrations in order; two modules have one text exactly if these are the same.** -/
theorem contents_ofModule_eq_iff {spec other : SerializerModule} (hspec : spec.Legible)
    (hother : other.Legible) :
    (File.ofModule spec).contents = (File.ofModule other).contents ↔
      spec.entry = other.entry ∧ staticName spec.name = staticName other.name ∧
        spec.names = other.names := by
  have hcomma : ∀ spec : SerializerModule, (heading spec).getLast? ≠ some ',' := by
    intro spec
    rw [getLast?_heading]
    decide
  have hitems : ∀ {spec : SerializerModule}, spec.Legible →
      ∀ item ∈ spec.names.map pairText, IsItem item := by
    intro spec hspec item hitem
    obtain ⟨names, hnames, rfl⟩ := List.mem_map.mp hitem
    exact isItem_pairText (hspec.names names hnames)
  rw [← String.toList_inj, toList_contents_ofModule, toList_contents_ofModule,
    List.append_cancel_right_eq, ← and_assoc, ← heading_eq_iff hspec.entry hother.entry]
  constructor
  · intro h
    obtain ⟨hheading, hlines⟩ :=
      eq_of_listing (hcomma spec) (hcomma other) (hitems hspec) (hitems hother) h
    exact ⟨hheading, eq_of_map_pairText hspec.names hother.names hlines⟩
  · rintro ⟨hheading, hnames⟩
    rw [hheading, hnames]

/-- A registration of a derived serializer. -/
def teamPair : Registration :=
  ⟨⟨"crate::hr::Team"⟩, .derived ⟨"crate::hr::TeamSerializer"⟩⟩

/-- A registration of a named serializer. -/
def personPair : Registration :=
  ⟨⟨"crate::hr::Person"⟩, .explicit ⟨"crate::ser::Plain"⟩⟩

/-- Two names of one list give one text; two orders of registrations do not. -/
theorem contents_ofModule_staff :
    (File.ofModule ⟨"HrModule", "Staff", [teamPair, personPair]⟩).contents =
        (File.ofModule ⟨"HRModule", "Staff", [teamPair, personPair]⟩).contents ∧
      (File.ofModule ⟨"HrModule", "Staff", [teamPair, personPair]⟩).contents ≠
        (File.ofModule ⟨"HrModule", "Staff", [personPair, teamPair]⟩).contents := by
  have hteam : SerializerModule.LegiblePair (teamPair.target, teamPair.serializer.name) :=
    ⟨by decide, by decide⟩
  have hperson : SerializerModule.LegiblePair (personPair.target, personPair.serializer.name) :=
    ⟨by decide, by decide⟩
  have hentry : isIdentifier "Staff" = true := by decide
  have hlegible : ∀ name,
      (⟨name, "Staff", [teamPair, personPair]⟩ : SerializerModule).Legible := fun _ =>
    ⟨hentry, List.forall_mem_cons.mpr ⟨hteam, List.forall_mem_singleton.mpr hperson⟩⟩
  have hswapped : (⟨"HrModule", "Staff", [personPair, teamPair]⟩ : SerializerModule).Legible :=
    ⟨hentry, List.forall_mem_cons.mpr ⟨hperson, List.forall_mem_singleton.mpr hteam⟩⟩
  constructor
  · have hname : staticName "HrModule" = staticName "HRModule" := by decide +kernel
    exact (contents_ofModule_eq_iff (hlegible _) (hlegible _)).mpr ⟨rfl, hname, rfl⟩
  · intro h
    obtain ⟨-, -, hnames⟩ := (contents_ofModule_eq_iff (hlegible _) hswapped).mp h
    exact absurd hnames (by decide)

end Source

end Surrogates
