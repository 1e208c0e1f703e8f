import SyntaxBridge.Grammar.Category
import SyntaxBridge.Grammar.Order
import SyntaxBridge.Grammar.Rule

/-!
# References between categories

The categories that the rules of a grammar refer to, in definitions and as entrypoints. The
category of identifiers is special: a grammar may refer to it without declaring it, and then it is
declared as a token at the end of the rules.
-/

namespace SyntaxBridge

/-- The categories that rules refer to, in order and with repetitions. -/
def references (rules : List Rule) : List String :=
  rules.flatMap Rule.references

/-- Whether rules refer to the category of identifiers or to lists of it. -/
def refersToIdent (rules : List Rule) : Bool :=
  (references rules).any (Category.element · == Category.ident)

/-- Whether rules declare the category of identifiers as a token. -/
def declaresIdent (rules : List Rule) : Bool :=
  (rules.filterMap Rule.token?).any (·.type == Category.ident)

/-- The rules with a token for the category of identifiers, where they refer to it and do not
declare that token themselves. -/
def injectIdent (rules : List Rule) : List Rule :=
  if !declaresIdent rules && refersToIdent rules then rules ++ [.token { type := Category.ident }]
  else rules

/-- The categories that rules refer to lists of, in order. -/
def listTypes (rules : List Rule) : List String :=
  ordered ((references rules).filterMap Category.element?)

end SyntaxBridge
