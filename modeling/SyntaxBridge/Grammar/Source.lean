import SyntaxBridge.Grammar.Entrypoints
import SyntaxBridge.Grammar.Parser
import SyntaxBridge.Grammar.Reference
import SyntaxBridge.Text.Lines

/-!
# Reading a grammar

A grammar is read line by line, and the rules of each line carry its number, counted from one.
Blank lines count but declare nothing.
-/

namespace SyntaxBridge

/-- The lines of a text that are not blank, with their numbers. -/
def numberedLines (text : String) : List (String × Nat) :=
  ((Text.splitLines text.toList).zipIdx 1).filterMap fun (line, number) =>
    if Text.allBlank line then none else some (String.ofList line, number)

/-- The rules that a text declares. -/
def declaredRules (text : String) : Except GrammarError (List Rule) :=
  List.flatten <$> (numberedLines text).mapM fun (line, number) =>
    Parser.parseLine line (.number number)

/-- The rules of a grammar. A second declaration of the entrypoints is refused. -/
def parseGrammar (text : String) : Except GrammarError (List Rule) := do
  let rules ← declaredRules text
  let _ ← entrypointTypes rules
  return injectIdent rules

end SyntaxBridge
