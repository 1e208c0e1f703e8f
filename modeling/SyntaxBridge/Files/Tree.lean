import SyntaxBridge.Files.Error
import SyntaxBridge.Files.Path

/-!
# Trees of files

A tree holds files, directories, links and devices. A path is followed name by name, from the root
or from the place where the program works, so everything on the way must be a directory or lead to
one: a path through a file is wrong even if the next name leads back out of it.

Main definitions: `FileTree.node?` is the view of a tree, what stands at each place, and `read`,
`write`, `makeDirectory` and `remove` are the operations on it.
-/

namespace SyntaxBridge

/-- What may be done with a file. -/
structure Access where
  /-- The file may be read. -/
  readable : Bool := true
  /-- The file may be written. -/
  writable : Bool := true
  deriving DecidableEq, Repr

/-- What stands at a place of a tree. -/
inductive Node where
  | file (bytes : List UInt8) (access : Access := {})
  | directory
  /-- A link, which stands for another path. -/
  | link (target : String)
  /-- A device, which takes what is written to it and keeps nothing. -/
  | device
  deriving DecidableEq, Repr

/-- A tree of files, by the names that lead from the root to each place. -/
structure FileTree where
  /-- The place where the program works. -/
  workingDirectory : List String := []
  /-- The places in use and what stands there. -/
  entries : List (List String × Node) := []
  deriving DecidableEq, Repr

namespace FileTree

/-- What stands at a place. There is always a directory where the program works, and above. -/
def node? (tree : FileTree) (place : List String) : Option Node :=
  if place.isPrefixOf tree.workingDirectory then some .directory else tree.entries.lookup place

/-- Put something at a place. -/
def put (tree : FileTree) (place : List String) (node : Node) : FileTree :=
  if tree.entries.any (·.1 == place) then
    { tree with
      entries := tree.entries.map fun entry => if entry.1 == place then (place, node) else entry }
  else { tree with entries := tree.entries ++ [(place, node)] }

/-- Clear a place. -/
def clear (tree : FileTree) (place : List String) : FileTree :=
  { tree with entries := tree.entries.filter (·.1 != place) }

/-- The directory where a path starts, if it is followed from another one. -/
def origin (directory : List String) (path : String) : List String :=
  if Path.isAbsolute path then [] else directory

/-- What names lead to as long as there is no link. -/
inductive Reached where
  /-- A place, and what stands there, if anything. -/
  | place (place : List String) (node : Option Node)
  /-- A link in a directory, with more names behind it. -/
  | link (directory : List String) (target : String) (names : List String)
  deriving DecidableEq, Repr

/-- Follow names from a directory up to the first link. Only the last name may lead to nothing. The
root is its own parent. -/
def walk (tree : FileTree) (directory : List String) : List String → Except FileError Reached
  | [] => .ok (.place directory (some .directory))
  | name :: names =>
    if name = "." then walk tree directory names
    else if name = ".." then walk tree directory.dropLast names
    else if Path.maxNameLength < name.utf8ByteSize then .error .nameTooLong
    else
      let place := directory ++ [name]
      match tree.node? place, names with
      | some .directory, _ => walk tree place names
      | some (.link target), _ => .ok (.link directory target names)
      | node, [] => .ok (.place place node)
      | none, _ => .error .notFound
      | some _, _ => .error .notADirectory

/-- Follow names from a directory, through as many links as are allowed: the place that they lead to
and what stands there, if anything. -/
def follow (tree : FileTree) (links : Nat) (directory names : List String) :
    Except FileError (List String × Option Node) :=
  match tree.walk directory names with
  | .error e => .error e
  | .ok (.place place node) => .ok (place, node)
  | .ok (.link start target rest) =>
    match links with
    | 0 => .error .tooManyLinks
    | links + 1 => tree.follow links (origin start target) (Path.linkNames target ++ rest)

/-- The place that a path leads to and what stands there, if anything. -/
def locate (tree : FileTree) (path : String) : Except FileError (List String × Option Node) :=
  if path.toList.contains '\x00' then .error .nullCharacter
  else if path.isEmpty then .error .notFound
  else if Path.maxLength < path.utf8ByteSize then .error .nameTooLong
  else tree.follow Path.maxLinks (origin tree.workingDirectory path) (Path.names path)

/-- What a path leads to. With a slash at its end it must lead to a directory. -/
def find (tree : FileTree) (path : String) : Except FileError Node := do
  match ← tree.locate path with
  | (_, none) => throw .notFound
  | (_, some .directory) => return .directory
  | (_, some node) => if Path.endsInSlash path then throw .notADirectory else return node

/-- Whether a path leads to a file. -/
def isFile (tree : FileTree) (path : String) : Bool :=
  match tree.find path with
  | .ok (.file ..) => true
  | _ => false

/-- Whether a path leads to a directory. -/
def isDirectory (tree : FileTree) (path : String) : Bool :=
  match tree.find path with
  | .ok .directory => true
  | _ => false

/-- What is read under a path: the content of a file, or nothing from a device. -/
def read (tree : FileTree) (path : String) : Except FileError (List UInt8) := do
  match ← tree.find path with
  | .file bytes access => if access.readable then return bytes else throw .accessDenied
  | .directory => throw .isADirectory
  | .link _ | .device => return []

/-- Write a file. Its directory must exist. -/
def write (tree : FileTree) (path : String) (bytes : List UInt8) : Except FileError FileTree := do
  let (place, node) ← tree.locate path
  if node = some .directory ∨ Path.endsInSlash path then throw .isADirectory
  match node with
  | none => return tree.put place (.file bytes)
  | some (.file _ access) =>
    if access.writable then return tree.put place (.file bytes access) else throw .accessDenied
  | some _ => return tree

/-- Make a directory. Its own directory must exist. -/
def makeDirectory (tree : FileTree) (path : String) : Except FileError FileTree := do
  let (place, node) ← tree.locate path
  if node.isSome then throw .alreadyExists
  return tree.put place .directory

/-- Remove the file that a path leads to. -/
def remove (tree : FileTree) (path : String) : Except FileError FileTree := do
  let (place, _) ← tree.locate path
  match ← tree.find path with
  | .directory => throw .isADirectory
  | _ => return tree.clear place

/-- The places of a tree below that where the program works, as texts, in order. A directory ends in
a slash. -/
def list (tree : FileTree) : List String :=
  (tree.entries.filterMap fun (place, node) => do
    let below ← tree.workingDirectory.isPrefixOf? place
    return "/".intercalate below ++ if node = .directory then "/" else "").mergeSort
      fun a b => a ≤ b

end FileTree

end SyntaxBridge
