/-
Surrogates.Grammar.Path — paths and their arguments.

`lowerPath` gives the tree of a path: only its last segment may have
arguments, lifetimes among them are dropped, and the standard option type of
one argument that is not nullable makes that argument nullable.
-/
import Surrogates.Grammar.Attribute

namespace Surrogates.Grammar

/-! ## §1 Trees of paths -/

/-- An argument of a path. -/
inductive Argument where
  | type (tree : Except TypeExpr.Problem TypeExpr)
  | lifetime
  /-- A constant, a binding or a bound on a binding. -/
  | other

/-- A segment of a path; `arguments` is none if no angle brackets follow. -/
structure Segment where
  name : String
  arguments : Option (List Argument)

/-- Whether nothing is applied to a segment; empty angle brackets apply nothing. -/
def Segment.isBare (segment : Segment) : Bool :=
  match segment.arguments with
  | some arguments => arguments.isEmpty
  | none => true

/-- A path, and whether a separator leads it. -/
structure Path where
  rooted : Bool
  segments : List Segment

namespace Path

/-- The text of a path without arguments. -/
def name (path : Path) : String :=
  (if path.rooted then "::" else "") ++ "::".intercalate (path.segments.map (·.name))

/-- Whether a segment of the path has angle brackets. -/
def applied (path : Path) : Bool :=
  path.segments.any (·.arguments.isSome)

/-- Whether nothing is applied to the last segment. -/
def endsBare (path : Path) : Bool :=
  (path.segments.getLast?.map Segment.isBare).getD false

/-- The shape of a path as a type. -/
def shape (path : Path) : Shape :=
  if !path.rooted && path.segments.length == 1 then .name else .path

end Path

/-- The names of the standard option type. -/
def optionNames : List String :=
  ["Option", "std::option::Option", "core::option::Option", "::std::option::Option",
   "::core::option::Option"]

/-- The tree of a head and its arguments, an option of one plain argument
being that argument, nullable. -/
def foldOption (head : String) (args : List TypeExpr) : TypeExpr :=
  match args with
  | [arg] =>
    if optionNames.contains head && !arg.nullable then arg.asNullable
    else .node ⟨head⟩ [arg] false
  | args => .node ⟨head⟩ args false

/-- The trees of arguments, lifetimes left out. -/
def lowerArguments (path : String) : List Argument → Except TypeExpr.Problem (List TypeExpr)
  | [] => .ok []
  | .lifetime :: rest => lowerArguments path rest
  | .other :: _ => .error (.unsupportedArgument path)
  | .type tree :: rest => do
    let arg ← tree
    let args ← lowerArguments path rest
    .ok (arg :: args)

/-- The tree of a path. -/
def lowerPath (path : Path) : Except TypeExpr.Problem TypeExpr :=
  match path.segments.dropLast.find? (·.arguments.isSome) with
  | some segment => .error (.misplacedArguments segment.name)
  | none => do
    let arguments := (path.segments.getLast?.bind (·.arguments)).getD []
    let args ← lowerArguments path.name arguments
    .ok (foldOption path.name args)

/-! ## §2 Arguments -/

variable (g : Productions)

/-- A constant that may be an argument: a literal, a name or a block. -/
def constant : Parser Unit := do
  let ahead ← tokens
  if peekLiteral ahead then literal
  else if peekIdentifier ahead then identifier
  else describedBlock g

/-- Whether a literal or a block comes next, which as an argument can only be a
constant. -/
def peekConstant (tokens : List Token) : Bool :=
  peekLiteral tokens || peekGroup .brace tokens

/-- What stands behind a name and an equals sign among arguments. -/
def boundValue : Parser Unit := do
  if peekConstant (← tokens) then constant g else discard (g.type true)

/-- What stands behind a name and a colon among arguments. -/
def boundBounds : Parser Unit :=
  discard (joined (g.bound .parameter) "+" fun ahead => peek "," ahead || peek ">" ahead)

/-- An argument of a path. -/
def argument : Parser Argument := do
  let ahead ← tokens
  if peekLifetime ahead && !peek "+" (ahead.drop 1) then
    lifetime
    return .lifetime
  else if peekConstant ahead then
    constant g
    return .other
  else
    let reading ← g.type true
    if reading.shape = .name then
      if ← takeIf "=" then
        boundValue g
        return .other
      if ← takeIf ":" then
        boundBounds g
        return .other
    return .type reading.tree

/-- Arguments in angle brackets. -/
def arguments : Parser (List Argument) := do
  take "<"
  let found ← separated (argument g) "," (peek ">")
  take ">"
  return found

/-! ## §3 Paths -/

/-- The keywords that stand as segments without arguments. -/
def bareSegments : List String :=
  ["super", "self", "crate", "try"]

/-- Whether angle brackets come next that hold arguments; in expressions they
need a separator in front. -/
def peekArguments (inExpr : Bool) (tokens : List Token) : Bool :=
  (!inExpr && peek "<" tokens && !peek "<=" tokens && !peek "<<=" tokens)
    || (peek "::" tokens && peek "<" (tokens.drop 2))

/-- A segment of a path. -/
def segment (inExpr : Bool) : Parser Segment := do
  match ← tokens with
  | .word text :: rest =>
    if bareSegments.contains text then
      advance 1
      return ⟨text, none⟩
    else if isIdentifier text || text == "Self" then
      advance 1
      if peekArguments inExpr rest then
        let _ ← takeIf "::"
        return ⟨text, some (← arguments g)⟩
      else
        return ⟨text, none⟩
    else fail
  | _ => fail

/-- Segments with separators between them, of which `fuel` bounds the number; a
separator before a parenthesis is left. -/
def segments (inExpr : Bool) : Nat → Parser (List Segment)
  | 0 => fail
  | fuel + 1 => do
    let first ← segment g inExpr
    let ahead ← tokens
    if peek "::" ahead && !peekGroup .paren (ahead.drop 2) then
      advance 2
      return first :: (← segments inExpr fuel)
    else
      return [first]

/-- A path. -/
def path (inExpr : Bool) : Parser Path := do
  let rooted ← takeIf "::"
  let found ← segments g inExpr ((← tokens).length + 1)
  return ⟨rooted, found⟩

/-- Segments with separators between them, of which `fuel` bounds the number. -/
def allSegments (inExpr : Bool) : Nat → Parser Unit
  | 0 => fail
  | fuel + 1 => do
    let _ ← segment g inExpr
    if ← takeIf "::" then allSegments inExpr fuel

/-- A path that begins with a type in angle brackets. -/
def qualifiedPath (inExpr : Bool) : Parser Unit := do
  take "<"
  let _ ← g.type true
  if ← takeWordIf "as" then discard (path g false)
  take ">"
  take "::"
  allSegments g inExpr ((← tokens).length + 1)

/-- A path with or without a type in angle brackets in front; the answer is the
path if there is none. -/
def anyPath (inExpr : Bool) : Parser (Option Path) := do
  if peek "<" (← tokens) then
    qualifiedPath g inExpr
    return none
  else
    return some (← path g inExpr)

/-! ## §4 Macros -/

/-- Whether a path is invoked: no arguments, and an exclamation mark behind it. -/
def isInvoked (path : Path) (tokens : List Token) : Bool :=
  peek "!" tokens && !peek "!=" tokens && !path.applied

/-- The exclamation mark and the group of an invocation, whose brackets are
the answer. -/
def invocation : Parser Delimiter := do
  take "!"
  anyGroup

end Surrogates.Grammar
