/-
Surrogates.Glob.Search — the paths that match a pattern.

A search goes through the components of a pattern. A literal component is
looked for by its name; another is compared with the names in the directory,
in ascending order. With `**` an entry is compared with the component that
follows and, where it is a directory, searched in turn; what matches there
comes after what matches the entry itself.
-/
import Surrogates.Files.System
import Surrogates.Glob.Basic

namespace Surrogates.Glob

/-- What a search gives: paths, or the directory that could not be listed. -/
abbrev Found := Except (String × FileError) (List String)

variable {m : Type → Type} [Monad m] [FileSystem m]

/-- The path of a name in a directory; names in the directory that the search
starts from are paths. -/
def below (directory name : String) : String :=
  if Files.isHere directory then name else Files.join directory name

/-- The results of searches one after another, up to the first failure. -/
def collect (search : α → m Found) : List α → m Found
  | [] => return .ok []
  | a :: rest => do
    match ← search a with
    | .error e => return .error e
    | .ok found => return (← collect search rest).map (found ++ ·)

/-- Goes on from a path that matched: it is a result if no components are left,
and else is searched for them. -/
def reach (search : List Component → String → m Found) (directoriesOnly : Bool)
    (components : List Component) (path : String) : m Found := do
  if components.isEmpty then
    if directoriesOnly then
      return .ok (if ← Files.isDirectory path then [path] else [])
    else return .ok [path]
  else search components path

/-- Whether a literal component names something in a directory; the directory
itself and its parent are always there. -/
def isPresent (directory name : String) : m Bool := do
  if name = "." ∨ name = ".." then Files.isDirectory directory
  else return (← FileSystem.kind? (below directory name)).isSome

/-- The names `..` and `.`, so far as they match. Only a pattern that starts with
a dot matches them. -/
def specialNames : Component → List String
  | .pattern (.char '.' :: tokens) =>
    ["..", "."].filter fun name => acceptsChars (.char '.' :: tokens) name.toList
  | _ => []

/-- Compares an entry of a directory with the first component, and goes on. -/
def visit (search : List Component → String → m Found) (directoriesOnly : Bool)
    (component : Component) (rest : List Component) (name path : String) : m Found := do
  match component with
  | .subdirectories =>
    let isDirectory ← Files.isDirectory path
    let within : m Found :=
      if isDirectory then search (.subdirectories :: rest) path else pure (.ok [])
    match rest with
    | [] => return (← within).map (if isDirectory then (path :: ·) else id)
    | next :: others =>
      let matching ←
        if next.accepts name then reach search directoriesOnly others path else pure (.ok [])
      match matching with
      | .error e => return .error e
      | .ok found => return (← within).map (found ++ ·)
  | component =>
    if component.accepts name then reach search directoriesOnly rest path else return .ok []

/-- The entries of a directory that match components, found with a given search
for what is deeper. -/
def searchStep (search : List Component → String → m Found) (directoriesOnly : Bool) :
    List Component → String → m Found
  | [], _ => return .ok []
  | .literal name :: rest, directory => do
    if ← isPresent directory name then
      reach search directoriesOnly rest (below directory name)
    else return .ok []
  | component :: rest, directory => do
    if ← Files.isDirectory directory then
      match ← FileSystem.list directory with
      | .error e => return .error (directory, e)
      | .ok names =>
        let rest := if component = .subdirectories then
          rest.dropWhile (· = .subdirectories) else rest
        let specials ← collect (fun name =>
          reach search directoriesOnly rest (Files.join directory name)) (specialNames component)
        match specials with
        | .error e => return .error e
        | .ok found =>
          let sorted := names.mergeSort fun a b => !decide (b < a)
          return (← collect (fun name => visit search directoriesOnly component rest name
            (below directory name)) sorted).map (found ++ ·)
    else return .ok []

/-- Searches to a depth. -/
def searchWithin (directoriesOnly : Bool) : Nat → List Component → String → m Found
  | 0, _, _ => return .ok []
  | fuel + 1, components, directory =>
    searchStep (searchWithin directoriesOnly fuel) directoriesOnly components directory

/-- More names than a path can have. -/
def maxDepth : Nat := 4096

/-- The paths that match a pattern. -/
def search (glob : Glob) : m Found :=
  searchWithin glob.directoriesOnly (glob.components.length + maxDepth) glob.components
    (if glob.absolute then "/" else ".")

end Surrogates.Glob
