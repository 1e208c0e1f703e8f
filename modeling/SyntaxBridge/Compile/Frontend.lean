import SyntaxBridge.Compile.Run
import SyntaxBridge.Grammar.Source
import SyntaxBridge.Grammar.Untyped
import SyntaxBridge.Text.Utf8

/-!
# From a file to a grammar

A grammar is read from a file and analysed. Whatever is wrong with the file or the grammar is
reported, and ends the run.
-/

namespace SyntaxBridge

variable {m : Type → Type} [Monad m]

/-- The text of a file, with a line feed for every line end. -/
def decodeFile (bytes : List UInt8) : Except Text.DecodeFault String :=
  (Text.decode bytes).map fun text => String.ofList (Text.unifyLineEnds text)

/-- End a run with an error in a file. -/
def Run.fail {α : Type} (report : Log → Log) : Run m α := do
  Run.log report
  throw (.halted (← get).haltMessage)

/-- The text of the grammar in a file. -/
def readGrammarText (files : FileSystem m) (path : String) : Run m String := do
  let refuse {α : Type} (reason : String) : Run m α :=
    Run.fail (·.errorAt ("cannot read grammar: " ++ reason) path)
  match ← Run.files (files.read path) with
  | .error .nullCharacter => throw (.badPath .nullCharacter)
  | .error e => refuse (e.message path)
  | .ok bytes =>
    match decodeFile bytes with
    | .error fault => refuse fault.message
    | .ok text => return text

/-- The analysed grammar of a text. -/
def readGrammar (text : String) (options : AnalysisOptions) : Except AnalysisError Grammar := do
  analyzeUntyped (← (parseGrammar text).mapError .grammar) options

/-- The analysed grammar in a file. -/
def frontend (files : FileSystem m) (path : String) (options : AnalysisOptions := {}) :
    Run m Grammar := do
  let text ← readGrammarText files path
  Run.log (·.addSource path text)
  match readGrammar text options with
  | .error (.grammar e) =>
    Run.fail (·.errorAt e.message path e.line (if e.text.isEmpty then none else some e.text))
  | .error e => throw (.badOptions e)
  | .ok grammar =>
    Run.log (·.detail ("parsed " ++ toString grammar.rules.length ++ " rules into " ++
      toString grammar.groups.length ++ " types"))
    return grammar

end SyntaxBridge
