import SyntaxBridge.Grammar.Error

/-!
# Groups of rules

The rules of a grammar fall into groups, one for each category that they declare. A category is
either a token, declared once, or has alternatives.
-/

namespace SyntaxBridge

/-- The rules of one category. -/
inductive Members where
  /-- The category is a token. -/
  | token (rule : Token)
  /-- The category has alternatives, in the order of their rules. -/
  | alternatives (rules : List Constructor)
  deriving DecidableEq, Repr

namespace Members

/-- The rules of a category as rules of the grammar. -/
def rules : Members → List Rule
  | token rule => [.token rule]
  | alternatives rules => rules.map .constructor

/-- The alternatives of a category; a token has none. -/
def constructors : Members → List Constructor
  | token _ => []
  | alternatives rules => rules

/-- Whether a category is a token. -/
def isToken : Members → Bool
  | token _ => true
  | alternatives _ => false

/-- Tell what a category is from its rules. A category with alternatives is no token, and a token is
declared once. -/
def ofRules (type : String) (rules : List Rule) : Except GrammarError Members :=
  match rules.filterMap Rule.token? with
  | [] => .ok (.alternatives (rules.filterMap Rule.constructor?))
  | first :: others =>
    if others.length + 1 ≠ rules.length then
      .error { cause := .tokenWithRules type, line := first.line }
    else
      match others with
      | [] => .ok (.token first)
      | second :: _ => .error { cause := .secondToken type, line := second.line }

end Members

/-- The categories that rules declare, in the order of their first rules. -/
def declaredTypes (rules : List Rule) : List String :=
  (rules.filterMap Rule.type?).eraseDups

/-- The rules that declare a category, in order. -/
def rulesOf (type : String) (rules : List Rule) : List Rule :=
  rules.filter (·.type? == some type)

/-- The categories that rules declare, in the order of their first rules, each with its rules. -/
def groupByType (rules : List Rule) : Except GrammarError (List (String × Members)) :=
  (declaredTypes rules).mapM fun type =>
    return (type, ← Members.ofRules type (rulesOf type rules))

end SyntaxBridge
