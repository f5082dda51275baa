/-
Surrogates.TypeName.Basic — qualified names of types and serializers.

A name is any text; `parse?` accepts those that are paths of ASCII words,
`crate::hr::Position`. The last separator cuts a name into what qualifies it
and its simple name, and the names next to it share the qualifier. A name
with a suffix is the name's text with the suffix behind it, wherever the
separators stand: `text_withSuffix`.
-/
import Surrogates.Text.Identifier

namespace Surrogates

/-- The qualified name of a type or a serializer. -/
structure TypeName where
  text : String
  deriving DecidableEq, Repr, Inhabited

namespace TypeName

/-! ## §1 Cutting a name -/

/-- Cuts a text at its last separator: what stands before and after it. -/
def cutLast : List Char → Option (List Char × List Char)
  | [] => none
  | c :: rest =>
    match cutLast rest with
    | some (before, after) => some (c :: before, after)
    | none =>
      match c, rest with
      | ':', ':' :: after => some ([], after)
      | _, _ => none

/-- The pieces of a text between its separators. -/
def pieces : List Char → List (List Char)
  | [] => [[]]
  | ':' :: ':' :: rest => [] :: pieces rest
  | c :: rest =>
    match pieces rest with
    | piece :: more => (c :: piece) :: more
    | [] => [[c]]

/-- The text without the separators in front. -/
def dropSeparators : List Char → List Char
  | ':' :: ':' :: rest => dropSeparators rest
  | cs => cs

/-! ## §2 Parts of a name -/

/-- The text after the last separator. -/
def simple (name : TypeName) : String :=
  match cutLast name.text.toList with
  | some (_, after) => String.ofList after
  | none => name.text

/-- The text before the last separator, if there is one. -/
def qualifier? (name : TypeName) : Option String :=
  (cutLast name.text.toList).map fun (before, _) => String.ofList before

/-- The name with a simple name of its own and the same qualifier. -/
def sibling (name : TypeName) (simple : String) : TypeName :=
  match name.qualifier? with
  | some qualifier => ⟨qualifier ++ "::" ++ simple⟩
  | none => ⟨simple⟩

/-- The name next to a name whose simple name has a suffix. -/
def withSuffix (name : TypeName) (suffix : String) : TypeName :=
  name.sibling (name.simple ++ suffix)

/-! ## §3 Paths -/

/-- Whether a text is a path: words with separators between them, and perhaps
one in front. -/
def isPath : List Char → Bool
  | ':' :: ':' :: rest => (pieces rest).all Text.Identifier.isWord
  | cs => (pieces cs).all Text.Identifier.isWord

/-- The name that a text is, if it is a path. -/
def parse? (text : String) : Option TypeName :=
  if isPath text.toList then some ⟨text⟩ else none

/-! ## §4 Laws -/

theorem eq_of_cutLast {cs before after : List Char} (h : cutLast cs = some (before, after)) :
    cs = before ++ ':' :: ':' :: after := by
  induction cs generalizing before with
  | nil => simp [cutLast] at h
  | cons c rest ih =>
    simp only [cutLast] at h
    split at h
    · rename_i b a heq
      simp only [Option.some.injEq, Prod.mk.injEq] at h
      obtain ⟨rfl, rfl⟩ := h
      simp [ih heq]
    · split at h
      · simp only [Option.some.injEq, Prod.mk.injEq] at h
        obtain ⟨rfl, rfl⟩ := h
        rfl
      · simp at h

/-- A name with a suffix is its text with the suffix behind it. -/
theorem text_withSuffix (name : TypeName) (suffix : String) :
    (name.withSuffix suffix).text = name.text ++ suffix := by
  unfold withSuffix sibling qualifier? simple
  cases h : cutLast name.text.toList with
  | none => simp
  | some cut =>
    obtain ⟨before, after⟩ := cut
    have := eq_of_cutLast h
    simp only [Option.map_some]
    apply String.toList_inj.mp
    simp [this]

end TypeName

end Surrogates
