/-
Surrogates.Proofs.TypeName.Suffixed — names with suffixes, which serializers and
surrogates have.

A name with a suffix tells what has the suffix apart (`withSuffix_inj`). A suffix
without colons leaves the last separator where it is. So behind a path an identifier
gives a path again, with the qualifier of the name and, up to the suffix, its simple
name: `beside_withSuffix`. For serializers and surrogates all this together is
`Naming.named_beside`.
-/
import Surrogates.Proofs.TypeName.Simple
import Surrogates.Serializer
import Mathlib.Logic.Function.Defs

namespace Surrogates

/-! ## §1 Identifiers -/

theorem notMem_of_isIdentifier {text : String} (h : isIdentifier text = true) {c : Char}
    (hword : Text.Identifier.isWordChar c = false) : c ∉ text.toList := by
  intro hc
  have hmem := TypeName.isWordChar_of_isWord h c hc
  rw [hword] at hmem
  cases hmem

theorem colon_notMem_of_isIdentifier {text : String} (h : isIdentifier text = true) :
    ':' ∉ text.toList :=
  notMem_of_isIdentifier h (by decide)

/-- Words one behind the other are a word. -/
theorem isIdentifier_append {text suffix : String} (h : isIdentifier text = true)
    (hsuffix : isIdentifier suffix = true) : isIdentifier (text ++ suffix) = true := by
  rw [isIdentifier, String.toList_append]
  exact TypeName.isWord_append h (TypeName.isWordChar_of_isWord hsuffix)

/-! ## §2 Names with suffixes -/

namespace TypeName

theorem ext_text {a b : TypeName} (h : a.text = b.text) : a = b := by
  cases a
  cases b
  exact congrArg mk h

/-- Suffixes behind two names give one name if the texts agree. -/
theorem withSuffix_eq_iff {a b : TypeName} {suffix other : String} :
    a.withSuffix suffix = b.withSuffix other ↔ a.text ++ suffix = b.text ++ other := by
  rw [← text_withSuffix, ← text_withSuffix]
  exact ⟨congrArg text, ext_text⟩

theorem withSuffix_inj {a b : TypeName} {suffix : String} :
    a.withSuffix suffix = b.withSuffix suffix ↔ a = b := by
  refine ⟨fun h => ext_text ?_, fun h => by rw [h]⟩
  have hlist := congrArg String.toList (withSuffix_eq_iff.mp h)
  rw [String.toList_append, String.toList_append] at hlist
  exact String.toList_inj.mp (List.append_cancel_right hlist)

/-- A suffix without colons leaves the qualifier as it is. -/
theorem qualifier?_withSuffix (name : TypeName) {suffix : String} (h : ':' ∉ suffix.toList) :
    (name.withSuffix suffix).qualifier? = name.qualifier? := by
  unfold qualifier?
  rw [text_withSuffix, String.toList_append, cutLast_append h, Option.map_map]
  rfl

/-- A path with a word behind it is a path. -/
theorem isPath_withIdentifier {name : TypeName} {suffix : String}
    (h : isPath name.text.toList = true) (hsuffix : isIdentifier suffix = true) :
    isPath (name.withSuffix suffix).text.toList = true :=
  isPath_withSuffix h (isWordChar_of_isWord hsuffix)

/-- A path beside a name: it has the qualifier of the name, and its simple name with
a suffix. -/
structure Beside (beside name : TypeName) (suffix : String) : Prop where
  parsed : parse? beside.text = some beside
  qualifier : beside.qualifier? = name.qualifier?
  simple : beside.simple = name.simple ++ suffix

/-- A path with an identifier behind it is beside the path. -/
theorem beside_withSuffix {name : TypeName} (h : isPath name.text.toList = true) {suffix : String}
    (hsuffix : isIdentifier suffix = true) : (name.withSuffix suffix).Beside name suffix where
  parsed := parse?_eq_some (isPath_withIdentifier h hsuffix)
  qualifier := qualifier?_withSuffix name (colon_notMem_of_isIdentifier hsuffix)
  simple := simple_withSuffix name (colon_notMem_of_isIdentifier hsuffix)

end TypeName

/-! ## §3 Serializers and surrogates -/

namespace Naming

/-- Serializers derived for two types are the same only for the same type. -/
theorem serializer_inj {naming : Naming} {a b : TypeName} :
    naming.serializer a = naming.serializer b ↔ a = b := by
  refine ⟨fun h => ?_, fun h => by rw [h]⟩
  exact TypeName.withSuffix_inj.mp (congrArg Serializer.name h)

/-- **How serializers and surrogates are named.** Behind the text of a name, whatever
it is, stands the suffix for serializers or for surrogates, whatever it is, and each
of the two kinds of names tells the types apart. If the name of the type is a path
and the suffix an identifier, then the name is a path beside it. -/
theorem named_beside (naming : Naming) :
    (∀ type, (naming.serializer type).name.text = type.text ++ naming.serializerSuffix ∧
      (naming.surrogate type).text = type.text ++ naming.surrogateSuffix) ∧
    (Function.Injective fun type => (naming.serializer type).name) ∧
    Function.Injective naming.surrogate ∧
    ∀ text type, TypeName.parse? text = some type →
      (isIdentifier naming.serializerSuffix = true →
        (naming.serializer type).name.Beside type naming.serializerSuffix) ∧
      (isIdentifier naming.surrogateSuffix = true →
        (naming.surrogate type).Beside type naming.surrogateSuffix) := by
  refine ⟨fun type => ⟨TypeName.text_withSuffix .., TypeName.text_withSuffix ..⟩,
    fun a b h => TypeName.withSuffix_inj.mp h, fun a b h => TypeName.withSuffix_inj.mp h,
    fun text type hparse => ?_⟩
  have hpath := TypeName.isPath_of_parse? hparse
  exact ⟨TypeName.beside_withSuffix hpath, TypeName.beside_withSuffix hpath⟩

/-- The separator in front of a path is not the one before its simple name. -/
theorem named_beside_position :
    TypeName.parse? "::hr::Position" = some ⟨"::hr::Position"⟩ ∧
      isIdentifier "Serializer" = true ∧ isIdentifier "Surrogate" = true ∧
      TypeName.Beside ⟨"::hr::PositionSerializer"⟩ ⟨"::hr::Position"⟩ "Serializer" ∧
      TypeName.Beside ⟨"::hr::PositionSurrogate"⟩ ⟨"::hr::Position"⟩ "Surrogate" := by
  have hparse : TypeName.parse? "::hr::Position" = some ⟨"::hr::Position"⟩ := by decide
  have hserializer : isIdentifier "Serializer" = true := by decide
  have hsurrogate : isIdentifier "Surrogate" = true := by decide
  obtain ⟨-, -, -, hbeside⟩ := named_beside ⟨"Surrogate", "Serializer"⟩
  obtain ⟨hfirst, hsecond⟩ := hbeside _ _ hparse
  exact ⟨hparse, hserializer, hsurrogate, hfirst hserializer, hsecond hsurrogate⟩

/-- Of three colons the last two are the separator, and a name may end in one. -/
example :
    (Naming.surrogate ⟨"S", "T"⟩ ⟨"a:::b"⟩).text = "a:::bS" ∧
      (Naming.surrogate ⟨":S", "T"⟩ ⟨"a:::"⟩).text = "a::::S" ∧
      (⟨"a:::b"⟩ : TypeName).qualifier? = some "a:" := by
  decide

end Naming

end Surrogates
