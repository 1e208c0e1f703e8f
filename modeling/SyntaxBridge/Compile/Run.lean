import SyntaxBridge.Diagnostics.Log
import SyntaxBridge.Files.System
import SyntaxBridge.Grammar.Untyped
import SyntaxBridge.Swift.Bridge

/-!
# Runs

A run reads and writes files and prints messages. It ends early when errors were reported, and when
it was asked for something that makes no sense.
-/

namespace SyntaxBridge

/-- Why a run ends early. -/
inductive Stop where
  /-- Errors were reported. -/
  | halted (message : String)
  /-- A path is no path. -/
  | badPath (error : FileError)
  /-- A text that was to be written has no bytes. -/
  | badText (fault : Text.EncodeFault)
  /-- The module of the parser has no name. -/
  | emptyModule
  /-- The options of the analysis make no sense. -/
  | badOptions (error : AnalysisError)

/-- The wording of the reason, where it has one. -/
def Stop.message? : Stop → Option String
  | halted message => some message
  | badPath error => some (error.message "")
  | badText fault => some fault.message
  | emptyModule => some Swift.emptyModuleMessage
  | badOptions error => error.message?

/-- A run with access to files, which keeps a log. -/
abbrev Run (m : Type → Type) := ExceptT Stop (StateT Log m)

namespace Run

variable {m : Type → Type} [Monad m]

/-- Change the log. -/
def log (change : Log → Log) : Run m Unit :=
  modify change

/-- Use the files. -/
def files {α : Type} (action : m α) : Run m α :=
  ExceptT.lift (StateT.lift action)

/-- End the run if errors were reported. -/
def haltIfErrors : Run m Unit := do
  let log ← get
  if log.errors ≠ 0 then throw (.halted log.haltMessage)

end Run

end SyntaxBridge
