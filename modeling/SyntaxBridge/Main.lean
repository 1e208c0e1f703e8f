import SyntaxBridge.CommandLine.Program

/-!
# Entry point

The program with the files of the system that it runs on.
-/

namespace SyntaxBridge

/-- The number and the wording of an error of the system. -/
def systemReason : IO.Error → Nat × String
  | .otherError number wording | .resourceBusy number wording
  | .resourceVanished number wording | .unsupportedOperation number wording
  | .hardwareFault number wording | .unsatisfiedConstraints number wording
  | .illegalOperation number wording | .protocolError number wording
  | .timeExpired number wording | .alreadyExists _ number wording
  | .invalidArgument _ number wording | .permissionDenied _ number wording
  | .resourceExhausted _ number wording | .inappropriateType _ number wording
  | .noSuchThing _ number wording | .interrupted _ number wording
  | .noFileOrDirectory _ number wording => (number.toNat, wording)
  | .unexpectedEof => (0, "unexpected end of file")
  | .userError wording => (0, wording)

/-- An error of the system as one of files. -/
def FileError.ofSystem (error : IO.Error) : FileError :=
  let reason := systemReason error
  let known : List FileError :=
    [.notFound, .notADirectory, .isADirectory, .alreadyExists, .nameTooLong, .accessDenied,
      .tooManyLinks]
  (known.find? fun e => e.systemReason?.map (·.1) == some reason.1).getD (.other reason.1 reason.2)

/-- Use the system for a path, unless the path holds a null character. -/
def onSystem {α : Type} (path : String) (action : IO α) : IO (Except FileError α) := do
  if path.toList.contains '\x00' then return .error .nullCharacter
  try
    return .ok (← action)
  catch error =>
    return .error (.ofSystem error)

/-- The content of a file of the system. -/
def readSystemFile (path : String) : IO (Except FileError (List UInt8)) :=
  onSystem path do
    let handle ← IO.FS.Handle.mk path .read
    return (← handle.readBinToEnd).toList

/-- The files of the system. A path leads to a file if it can be read, or if that is only not
permitted, and to a directory if it has a place in it that is itself. -/
def systemFiles : FileSystem IO where
  read := readSystemFile
  write path bytes :=
    onSystem path do
      let handle ← IO.FS.Handle.mk path .write
      handle.write (ByteArray.mk bytes.toArray)
  isFile path := do
    match ← readSystemFile path with
    | .ok _ => return true
    | .error e => return e == .accessDenied
  isDirectory path := do
    if path.isEmpty then return false
    match ← onSystem path (IO.FS.Handle.mk (path ++ "/.") .read) with
    | .ok _ => return true
    | .error _ => return false

/-- Run the program on the files of the system. A run that stops early tells why. -/
def runOnSystem (arguments : List String) : IO UInt32 := do
  let outcome ← CommandLine.run systemFiles arguments
  (← IO.getStdout).putStr outcome.output
  (← IO.getStderr).putStr outcome.errorOutput
  match outcome.ending with
  | .exit code => return UInt32.ofNat code
  | ending =>
    (← IO.getStderr).putStr (ending.message?.getD "" ++ "\n")
    return 1

end SyntaxBridge

/-- Run the program on the arguments of the command line. -/
def main (arguments : List String) : IO UInt32 :=
  SyntaxBridge.runOnSystem arguments
