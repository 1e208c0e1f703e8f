import SyntaxBridge.Grammar.Untyped
import SyntaxBridge.Text.Lines
import SyntaxBridge.Text.Search

/-!
# Places in a source

Where a message points to: a file, a line, and the text of that line, in which tabs are shown as
spaces.
-/

namespace SyntaxBridge

/-- A place in a source. -/
structure Location where
  /-- The file. -/
  file : String
  /-- The line, counted from one. -/
  line : LineNumber
  /-- The text of the line; empty if there is no such line. -/
  text : String
  deriving DecidableEq, Repr

namespace Location

/-- The number of spaces that a tab is shown as. -/
def tabSize : Nat := 4

/-- The text of a line of a source, with spaces for tabs. -/
def lineText (source : String) (line : Int) : String :=
  if line < 1 then ""
  else
    match (Text.splitLines source.toList)[(line - 1).toNat]? with
    | some text => String.ofList (Text.replaceChar '\t' (List.replicate tabSize ' ') text)
    | none => ""

/-- A line of a source. -/
def find (file source : String) (line : LineNumber) : Location :=
  { file, line, text := lineText source line.toInt }

open Record in
/-- The line that a value stands for. A number with decimals is not refused as such unless it lies
among the lines of the source, where it would have to choose one. -/
def lineOf (source : String) : Value → Except RecordError LineNumber
  | .integer n => .ok (.number n)
  | .flag set => .ok (.flag set)
  | .real number =>
    let last := (Text.splitLines source.toList).length
    if number.isWithin 1 last then .error .notANumber else .error .mismatch
  | _ => .error .notANumber

open Record in
/-- A line of a source, where the file and the line may be values of any type. -/
def findUntyped (file : Value) (source : String) (lineValue : Value) :
    Except RecordError Location := do
  let line ← lineOf source lineValue
  let .text name := file | throw .mismatch
  return find name source line

end Location

end SyntaxBridge
