import SyntaxBridge.Compile.Frontend
import SyntaxBridge.Swift.Sources

/-!
# Writing files

Generated files are written where their content changes. A file that cannot be written is reported,
and the others are written all the same.
-/

namespace SyntaxBridge

open Swift (SourceFile)

variable {m : Type → Type} [Monad m]

/-- Whether a file holds a text. A file that is no text holds none. -/
def fileHolds (files : FileSystem m) (path text : String) : m (Except FileError Bool) := do
  if ← files.isFile path then
    match ← files.read path with
    | .error e => return .error e
    | .ok bytes =>
      match decodeFile bytes with
      | .ok content => return .ok (content == text)
      | .error _ => return .ok false
  else return .ok false

/-- Report that a file cannot be written. -/
def refuseOutput (path : String) (e : FileError) : Run m Unit :=
  if e = .nullCharacter then throw (.badPath e)
  else Run.log (·.error ("writing file at path " ++ path ++ " failed: " ++ e.message path))

/-- Write a file in a directory, unless it holds its text already. -/
def writeOutput (files : FileSystem m) (directory : String) (file : SourceFile) : Run m Unit := do
  let path := Path.join directory file.name
  match ← Run.files (fileHolds files path file.text) with
  | .error e => refuseOutput path e
  | .ok true => Run.log (·.detail ("file " ++ file.name ++ " is unchanged"))
  | .ok false =>
    -- The file is opened before its text is encoded.
    match ← Run.files (files.write path (files.bytesOf file.text)) with
    | .error e => refuseOutput path e
    | .ok () =>
      match files.encode file.text with
      | .ok _ => Run.log (·.note ("generated file " ++ file.name))
      | .error fault => throw (.badText fault)

/-- Write files in a directory. -/
def writeOutputs (files : FileSystem m) (directory : String) (sources : List SourceFile) :
    Run m Unit := do
  sources.forM (writeOutput files directory)
  Run.haltIfErrors

/-- Generate the files for the grammar in a file. -/
def compileGrammar (files : FileSystem m) (path directory module : String)
    (options : AnalysisOptions := {}) : Run m (List SourceFile) := do
  Run.log (·.detail "parsing...")
  let grammar ← frontend files path options
  Run.log (·.detail "parsing successful")
  let some sources := Swift.generateSources grammar module (Path.baseName path)
    | throw .emptyModule
  writeOutputs files directory sources
  return sources

end SyntaxBridge
