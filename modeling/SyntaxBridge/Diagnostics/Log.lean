import SyntaxBridge.Diagnostics.Location
import SyntaxBridge.Record.Equality

/-!
# Messages

A log prints notes, details that are only of interest when something is looked into, and errors,
which it counts. An error may point to a line of a source that was registered with the log.
-/

namespace SyntaxBridge

/-- The messages printed so far, and what they depend on. -/
structure Log where
  /-- Whether details are printed. -/
  verbose : Bool := false
  /-- The sources that errors may point to, by file; the newest of a file counts. -/
  sources : List (String × String) := []
  /-- The number of errors. -/
  errors : Nat := 0
  /-- The text printed so far. -/
  printed : String := ""
  deriving DecidableEq, Repr

namespace Log

/-- Print a line. -/
def print (log : Log) (text : String) : Log :=
  { log with printed := log.printed ++ text ++ "\n" }

/-- Register a source. -/
def addSource (log : Log) (file text : String) : Log :=
  { log with sources := (file, text) :: log.sources }

/-- The text of a source, empty if it is not known. -/
def source (log : Log) (file : String) : String :=
  (log.sources.lookup file).getD ""

/-- Print a note. -/
def note (log : Log) (text : String) : Log :=
  log.print text

/-- Print a detail. -/
def detail (log : Log) (text : String) : Log :=
  if log.verbose then log.print text else log

/-- Report an error that points nowhere. -/
def error (log : Log) (message : String) : Log :=
  { log.print ("error: " ++ message) with errors := log.errors + 1 }

/-- Print an error at a place, and the text that belongs to it: the given one, or else that of the
line. -/
def showError (log : Log) (message : String) (place : Location) (text : Option String) : Log :=
  let lineMark := if place.line.isKnown then ":" ++ toString place.line.toInt else ""
  let log := log.print (place.file ++ lineMark ++ ": error: " ++ message)
  let shown := text.getD place.text
  let log := if shown.isEmpty then log else log.print shown
  { log with errors := log.errors + 1 }

/-- Report an error in a file. -/
def errorAt (log : Log) (message file : String) (line : LineNumber := .unknown)
    (text : Option String := none) : Log :=
  log.showError message (.find file (log.source file) line) text

open Record in
/-- The text that a value gives to be shown with an error. A value that counts as nothing gives an
empty one. -/
def shownText : Value → Option String
  | .null => none
  | value => some (if value.isEmpty then "" else value.plain)

open Record in
/-- Report an error in a file, where the file, the line and the text may be values of any type. No
file at all makes it an error that points nowhere. -/
def errorUntyped (log : Log) (message : String) (file line text : Value) :
    Except RecordError Log :=
  match file with
  | .null => .ok (log.error message)
  | _ => do
    let _ ← file.countKey
    let source := match file with
      | .text name => log.source name
      | _ => ""
    return log.showError message (← Location.findUntyped file source line) (shownText text)

/-- The wording when errors keep a run from going on. -/
def haltMessage (log : Log) : String :=
  "Halting due to " ++ toString log.errors ++ " error(s)."

end Log

end SyntaxBridge
