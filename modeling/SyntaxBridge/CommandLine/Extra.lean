import SyntaxBridge.Grammar.Analysis
import SyntaxBridge.Text.Blank
import SyntaxBridge.Text.Search

/-!
# Extra cases on the command line

An extra case is given as the name of a category, an equals sign and the case. White space around
the two has no meaning, and neither may be empty.
-/

namespace SyntaxBridge.CommandLine

open Text

/-- The category and the case that an argument gives. -/
def parseExtraCase (argument : String) : Option (String × String) := do
  let (name, extra) ← cutAt? ['='] argument.toList
  if allBlank name || allBlank extra then none
  else some (String.ofList (trim name), String.ofList (trim extra))

/-- The wording for an argument that gives no case. -/
def extraCaseMessage (argument : String) : String :=
  "expected TYPE=CASE, got " ++ quoted argument

/-- The cases of each category, in the order in which they were given. The categories come in the
order in which they were first named. -/
def groupExtraCases (pairs : List (String × String)) : ExtraCases :=
  (pairs.map (·.1)).eraseDups.map fun name =>
    (name, (pairs.filter (·.1 == name)).map (·.2))

end SyntaxBridge.CommandLine
