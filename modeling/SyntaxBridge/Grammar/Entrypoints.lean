import SyntaxBridge.Grammar.Error

/-!
# Entrypoints

The categories that a text may be parsed as. A grammar declares them at most once; without a
declaration it is the category of the first constructor.
-/

namespace SyntaxBridge

/-- The entrypoints of a grammar. -/
def entrypointTypes (rules : List Rule) : Except GrammarError (List String) :=
  match rules.filterMap Rule.entrypoint? with
  | _ :: second :: _ =>
    .error {
      cause := .secondEntrypoints
      text := "entrypoints " ++ ", ".intercalate second.types
      line := second.line }
  | [declared] => .ok declared.types
  | [] => .ok ((rules.findSome? Rule.constructor?).map (·.type)).toList

end SyntaxBridge
