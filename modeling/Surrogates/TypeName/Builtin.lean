/-
Surrogates.TypeName.Builtin — the names of built-in types.

Primitives and containers go by their simple names, alone or under one of
the standard roots. Tuples, slices and arrays have heads of their own: `()`,
`[]` and `[n]`. A serializer is never derived for a built-in type.
-/
import Surrogates.TypeName.Basic

namespace Surrogates

/-- How the values of a container hold the values of its type arguments. -/
inductive ContainerKind where
  /-- Every item is of the first argument. -/
  | sequence
  /-- Keys are of the first argument, values of the second. -/
  | map
  /-- The value itself is of the first argument. -/
  | transparent
  /-- Every item is of the argument in its place. -/
  | tuple
  /-- Every item of a fixed number of items is of the first argument. -/
  | array
  deriving DecidableEq, Repr

namespace TypeName

/-- The simple names of primitive types. -/
def primitiveNames : List String :=
  ["bool", "char", "str", "String", "i8", "i16", "i32", "i64", "i128", "isize", "u8", "u16", "u32",
   "u64", "u128", "usize", "f32", "f64"]

/-- The first words of paths under which built-in names may stand. -/
def standardRoots : List String :=
  ["std", "core", "alloc", "indexmap"]

/-- The simple names of containers of items. -/
def sequenceNames : List String :=
  ["Vec", "VecDeque", "LinkedList", "HashSet", "BTreeSet", "BinaryHeap", "IndexSet"]

/-- The simple names of containers of keys and values. -/
def mapNames : List String :=
  ["HashMap", "BTreeMap", "IndexMap"]

/-- The simple names of containers that are as their one value. -/
def transparentNames : List String :=
  ["Box", "Rc", "Arc", "Cow", "Option"]

/-- Whether a name stands alone or under a standard root. -/
def isStandard (name : TypeName) : Bool :=
  match name.qualifier? with
  | none => true
  | some qualifier =>
    match pieces (dropSeparators qualifier.toList) with
    | root :: _ => standardRoots.contains (String.ofList root)
    | [] => false

/-- The container that a simple name names. -/
def simpleContainer? (simple : String) : Option ContainerKind :=
  if sequenceNames.contains simple then some .sequence
  else if mapNames.contains simple then some .map
  else if transparentNames.contains simple then some .transparent
  else none

/-- The container that a name is. -/
def container? (name : TypeName) : Option ContainerKind :=
  if name.text = "()" then some .tuple
  else if name.text = "[]" then some .sequence
  else if name.text.toList.head? = some '[' then some .array
  else if name.isStandard then simpleContainer? name.simple
  else none

/-- Whether a name is a primitive type's. -/
def isPrimitive (name : TypeName) : Bool :=
  name.isStandard && primitiveNames.contains name.simple

/-- Whether a name is a primitive type's or a container's. -/
def isBuiltin (name : TypeName) : Bool :=
  name.isPrimitive || name.container?.isSome

end TypeName

end Surrogates
