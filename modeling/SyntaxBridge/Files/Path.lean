import SyntaxBridge.Text.Blank

/-!
# Paths

A path is a text: names with slashes between them. Joining adds a slash where there is none, and
the base name is what follows the last slash.
-/

namespace SyntaxBridge.Path

/-- The path of a file in a directory. An absolute path is left alone, and a directory of no name is
left out. -/
def join (directory file : String) : String :=
  if file.toList.head? = some '/' ∨ directory.isEmpty then file
  else if directory.toList.getLast? = some '/' then directory ++ file
  else directory ++ "/" ++ file

/-- The last name of a path; empty if the path ends in a slash. -/
def baseName (path : String) : String :=
  String.ofList ((path.toList.reverse.takeWhile (· != '/')).reverse)

/-- The names of a path in order, without empty ones. -/
def names (path : String) : List String :=
  ((Text.splitOn '/' path.toList).filter (!·.isEmpty)).map String.ofList

/-- Whether a path starts at the root. -/
def isAbsolute (path : String) : Bool :=
  path.toList.head? == some '/'

/-- Whether a path ends in a slash, so that it can only mean a directory. -/
def endsInSlash (path : String) : Bool :=
  path.toList.getLast? == some '/'

/-- The names that a link stands for. A slash at the end counts as the name of the directory
itself. -/
def linkNames (target : String) : List String :=
  names target ++ if endsInSlash target then ["."] else []

/-- The greatest length of a name, in bytes. -/
def maxNameLength : Nat := 255

/-- The greatest length of a path, in bytes. -/
def maxLength : Nat := 4095

/-- The greatest number of links that are followed on the way of one path. -/
def maxLinks : Nat := 40

end SyntaxBridge.Path
