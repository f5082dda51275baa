/-
Surrogates.Files.Disk — a file system that is a value.

A file tree is a file or a directory of trees, and a disk is a tree with a
working directory. `walk` follows the pieces of a path from one location to
another; the operations of `FileSystem` on a disk are built from it.
-/
import Surrogates.Files.System
import Surrogates.Table.Assoc

namespace Surrogates

/-! ## §1 Trees -/

/-- A file, or a directory of named trees. -/
inductive FileTree where
  | file (contents : String)
  | directory (entries : List (String × FileTree))
  deriving Inhabited

namespace FileTree

/-- What a tree is. -/
def kind : FileTree → FileKind
  | file _ => .file
  | directory _ => .directory

/-- The entries of a directory; a file has none. -/
def entries : FileTree → List (String × FileTree)
  | file _ => []
  | directory entries => entries

/-- The tree at a location, which is a list of names from the top. -/
def at? : FileTree → List String → Option FileTree
  | tree, [] => some tree
  | tree, name :: rest => (Assoc.get? name tree.entries).bind (·.at? rest)

/-- Puts a tree at a location; directories on the way are made, and a file on
the way stays as it is. -/
def insert (tree : FileTree) : List String → FileTree → FileTree
  | [], _ => tree
  | name :: rest, directory entries =>
    let below := (Assoc.get? name entries).getD (.directory [])
    .directory (Assoc.put name (insert tree rest below) entries)
  | _ :: _, file contents => .file contents

mutual

/-- The files of a tree, each with its location below the given one. -/
def filesBelow (location : List String) : FileTree → List (List String × String)
  | file contents => [(location, contents)]
  | directory entries => entriesBelow location entries

/-- The files of entries, each with its location below the given one. -/
def entriesBelow (location : List String) :
    List (String × FileTree) → List (List String × String)
  | [] => []
  | (name, tree) :: rest =>
    tree.filesBelow (location ++ [name]) ++ entriesBelow location rest

end

/-- The files of a tree, each with its location. -/
def files (tree : FileTree) : List (List String × String) :=
  tree.filesBelow []

end FileTree

/-! ## §2 Disks -/

/-- A tree and the location that relative paths start from. -/
structure Disk where
  root : FileTree
  workingDirectory : List String
  deriving Inhabited

namespace Disk

/-- The longest name of a directory entry, in bytes. -/
def maxNameBytes : Nat := 255

/-- The longest path, in bytes. -/
def maxPathBytes : Nat := 4095

/-- Follows pieces of a path from a location. -/
def walk (disk : Disk) : List String → List String → Except FileError (List String)
  | location, [] => .ok location
  | location, piece :: rest =>
    match disk.root.at? location with
    | none => .error .notFound
    | some (.file _) => .error .notDirectory
    | some (.directory entries) =>
      if Files.isIdle piece then disk.walk location rest
      else if piece = ".." then disk.walk location.dropLast rest
      else if piece.utf8ByteSize > maxNameBytes then .error .nameTooLong
      else if (Assoc.get? piece entries).isSome then disk.walk (location ++ [piece]) rest
      else .error .notFound

/-- The location from which a path is followed. -/
def start (disk : Disk) (path : String) : List String :=
  if Files.isAbsolute path then [] else disk.workingDirectory

/-- Refuses paths that no file can have. -/
def checkPath (path : String) : Except FileError Unit :=
  if path = "" then .error .notFound
  else if path.utf8ByteSize > maxPathBytes then .error .nameTooLong
  else .ok ()

/-- The location that a path leads to. -/
def locate (disk : Disk) (path : String) : Except FileError (List String) := do
  checkPath path
  disk.walk (disk.start path) (Files.pieces path)

/-- The tree that a path leads to. -/
def find (disk : Disk) (path : String) : Except FileError FileTree := do
  match disk.root.at? (← disk.locate path) with
  | some tree => .ok tree
  | none => .error .notFound

/-! ## §3 New entries -/

/-- Where a path would have a new entry. -/
inductive Place where
  /-- A name in a directory; `slashed` if the path ends with a slash. -/
  | entry (directory : List String) (name : String) (slashed : Bool)
  /-- A directory that is there under no name of its own: the root, `.` or `..`. -/
  | unnamed
  deriving DecidableEq, Repr

/-- The place of a path, its last name in a directory that exists. -/
def place (disk : Disk) (path : String) : Except FileError Place := do
  checkPath path
  let reversed := (Files.pieces path).reverse
  match reversed.dropWhile (· == "") with
  | [] => .ok .unnamed
  | name :: above =>
    let directory ← disk.walk (disk.start path) above.reverse
    match disk.root.at? directory with
    | some (.directory _) =>
      if name = "." ∨ name = ".." then .ok .unnamed
      else if name.utf8ByteSize > maxNameBytes then .error .nameTooLong
      else .ok (.entry directory name (reversed.head? == some ""))
    | some (.file _) => .error .notDirectory
    | none => .error .notFound

/-- The disk with a tree at a location. -/
def insert (disk : Disk) (location : List String) (tree : FileTree) : Disk :=
  { disk with root := FileTree.insert tree location disk.root }

/-- Makes an empty directory where there is nothing. -/
def makeDirectory (disk : Disk) (path : String) : Except FileError Disk := do
  match ← disk.place path with
  | .unnamed => .error .alreadyExists
  | .entry directory name _ =>
    let location := directory ++ [name]
    if (disk.root.at? location).isSome then .error .alreadyExists
    else .ok (disk.insert location (.directory []))

/-- Puts a file where there is a file or nothing. -/
def write (disk : Disk) (path contents : String) : Except FileError Disk := do
  match ← disk.place path with
  | .unnamed => .error .isDirectory
  | .entry _ _ true => .error .isDirectory
  | .entry directory name false =>
    let location := directory ++ [name]
    match disk.root.at? location with
    | some (.directory _) => .error .isDirectory
    | _ => .ok (disk.insert location (.file contents))

/-! ## §4 The operations -/

/-- The text of a file. -/
def read (disk : Disk) (path : String) : Except FileError String := do
  match ← disk.find path with
  | .file contents => .ok contents
  | .directory _ => .error .isDirectory

/-- The names in a directory. -/
def list (disk : Disk) (path : String) : Except FileError (List String) := do
  match ← disk.find path with
  | .file _ => .error .notDirectory
  | .directory entries => .ok (Assoc.keys entries)

/-- Takes the disk that a step gives, and leaves the disk where it fails. -/
def update (step : Disk → Except FileError Disk) : StateM Disk (Except FileError Unit) :=
  fun disk =>
    match step disk with
    | .ok changed => (.ok (), changed)
    | .error e => (.error e, disk)

instance : FileSystem (StateM Disk) where
  kind? path := return ((← get).find path).toOption.map (·.kind)
  read path := return (← get).read path
  list path := return (← get).list path
  makeDirectory path := update (·.makeDirectory path)
  write path contents := update (·.write path contents)

end Disk

end Surrogates
