import SyntaxBridge.Text.Quoted

/-!
# Errors of files

Why a file cannot be read or written.
-/

namespace SyntaxBridge

/-- Why a file cannot be read or written. -/
inductive FileError where
  /-- There is no such file, or one of the directories on the way is missing. -/
  | notFound
  /-- Something on the way is no directory. -/
  | notADirectory
  /-- A directory stands where a file should. -/
  | isADirectory
  /-- Something stands where nothing should. -/
  | alreadyExists
  /-- A name is too long. -/
  | nameTooLong
  /-- The file is there, but may not be read, or not be written. -/
  | accessDenied
  /-- There are too many links on the way. -/
  | tooManyLinks
  /-- Another reason, by its number and wording. -/
  | other (number : Nat) (wording : String)
  /-- The path holds a null character, so it is none. -/
  | nullCharacter
  deriving DecidableEq, Repr

namespace FileError

/-- The number and the wording of a reason that is told by the system. -/
def systemReason? : FileError → Option (Nat × String)
  | notFound => some (2, "No such file or directory")
  | notADirectory => some (20, "Not a directory")
  | isADirectory => some (21, "Is a directory")
  | alreadyExists => some (17, "File exists")
  | nameTooLong => some (36, "File name too long")
  | accessDenied => some (13, "Permission denied")
  | tooManyLinks => some (40, "Too many levels of symbolic links")
  | other number wording => some (number, wording)
  | nullCharacter => none

/-- The wording of an error for a path. -/
def message (error : FileError) (path : String) : String :=
  match error.systemReason? with
  | some (number, wording) =>
    "[Errno " ++ toString number ++ "] " ++ wording ++ ": " ++ Text.quoted path
  | none => "embedded null byte"

end FileError

end SyntaxBridge
