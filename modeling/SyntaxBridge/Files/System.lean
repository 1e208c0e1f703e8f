import SyntaxBridge.Files.Tree
import SyntaxBridge.Text.Utf8

/-!
# Access to files

What a program needs of the place where its files are. A tree of files gives it, and so does the
system that the program runs on.
-/

namespace SyntaxBridge

/-- Access to files. -/
structure FileSystem (m : Type → Type) where
  /-- The content of a file. -/
  read : String → m (Except FileError (List UInt8))
  /-- Write a file. -/
  write : String → List UInt8 → m (Except FileError Unit)
  /-- Whether a path leads to a file. -/
  isFile : String → m Bool
  /-- Whether a path leads to a directory. -/
  isDirectory : String → m Bool
  /-- The bytes that a text is written as. A text that comes from a command line may hold characters
  that have none. -/
  encode : String → Except Text.EncodeFault (List UInt8) :=
    fun text => .ok (Text.encode text.toList)

/-- The bytes that are written for a text. There are none for a text that cannot be encoded. -/
def FileSystem.bytesOf {m : Type → Type} (files : FileSystem m) (text : String) : List UInt8 :=
  (files.encode text).toOption.getD []

/-- Access to the files of a tree. A write that fails leaves the tree alone. -/
def FileTree.system : FileSystem (StateM FileTree) where
  read path := return (← get).read path
  write path bytes := do
    match (← get).write path bytes with
    | .ok tree =>
      set tree
      return .ok ()
    | .error e => return .error e
  isFile path := return (← get).isFile path
  isDirectory path := return (← get).isDirectory path

end SyntaxBridge
