import SyntaxBridge.Text.Quoted

/-!
# Rules of a grammar

A grammar is a sequence of rules. A *constructor* rule gives one alternative of a category and
names it by a label, a *token* rule declares a category of words, and an *entrypoint* rule names
the categories that a text may be parsed as. Each rule remembers the line it was declared on, and
two rules that differ in nothing but that line are the same rule.
-/

namespace SyntaxBridge

/-- The line that a rule stands on. A line may also be given as a truth value, which counts as the
number one or zero and is shown the way it was given. -/
inductive LineNumber where
  | number (n : Int)
  | flag (set : Bool)
  deriving DecidableEq, Repr

namespace LineNumber

/-- The number that a line counts as. -/
def toInt : LineNumber → Int
  | number n => n
  | flag set => if set then 1 else 0

/-- The line of what stands on no line. -/
def unknown : LineNumber := number 0

/-- Whether a line is known: the number zero stands for none. -/
def isKnown (line : LineNumber) : Bool :=
  line.toInt != 0

end LineNumber

/-- One alternative of a category. -/
structure Constructor where
  /-- The name of the alternative. -/
  label : String
  /-- The category that it belongs to. -/
  type : String
  /-- The categories of its parts, in order. -/
  construction : List String
  /-- The line of the rule. -/
  line : LineNumber := .unknown
  deriving DecidableEq, Repr

/-- A category of words. -/
structure Token where
  /-- The category. -/
  type : String
  /-- The line of the rule. -/
  line : LineNumber := .unknown
  deriving DecidableEq, Repr

/-- The categories that a text may be parsed as. -/
structure Entrypoint where
  /-- The categories, in order. -/
  types : List String
  /-- The line of the rule. -/
  line : LineNumber := .unknown
  deriving DecidableEq, Repr

/-- A rule of a grammar. -/
inductive Rule where
  | constructor (rule : Constructor)
  | token (rule : Token)
  | entrypoint (rule : Entrypoint)
  deriving DecidableEq, Repr

namespace Rule

/-- The line of a rule. -/
def line : Rule → LineNumber
  | constructor rule => rule.line
  | token rule => rule.line
  | entrypoint rule => rule.line

/-- The category that a rule declares or extends, if it does. -/
def type? : Rule → Option String
  | constructor rule => some rule.type
  | token rule => some rule.type
  | entrypoint _ => none

/-- The categories that a rule refers to, in order. -/
def references : Rule → List String
  | constructor rule => rule.construction
  | token _ => []
  | entrypoint rule => rule.types

/-- The constructor of a rule, if it is one. -/
def constructor? : Rule → Option Constructor
  | constructor rule => some rule
  | _ => none

/-- The token of a rule, if it is one. -/
def token? : Rule → Option Token
  | token rule => some rule
  | _ => none

/-- The entrypoint declaration of a rule, if it is one. -/
def entrypoint? : Rule → Option Entrypoint
  | entrypoint rule => some rule
  | _ => none

/-- A rule that stands on no line. -/
def withoutLine : Rule → Rule
  | constructor rule => constructor { rule with line := .unknown }
  | token rule => token { rule with line := .unknown }
  | entrypoint rule => entrypoint { rule with line := .unknown }

/-- Whether two rules say the same, whatever line they stand on. -/
def same (a b : Rule) : Bool :=
  a.withoutLine == b.withoutLine

/-- The number of rules that say different things. -/
def countDistinct (rules : List Rule) : Nat :=
  (rules.map withoutLine).eraseDups.length

/-- A list of names as it is shown in a message. -/
def showNames : List String → String
  | [] => "()"
  | [name] => "(" ++ Text.quoted name ++ ",)"
  | names => "(" ++ ", ".intercalate (names.map Text.quoted) ++ ")"

/-- A rule as it is shown in a message, without its line. -/
def describe : Rule → String
  | constructor rule =>
    "Constructor(" ++ Text.quoted rule.label ++ ", " ++ Text.quoted rule.type ++ ", " ++
      showNames rule.construction ++ ")"
  | token rule => "Token(" ++ Text.quoted rule.type ++ ")"
  | entrypoint rule => "Entrypoint(" ++ showNames rule.types ++ ")"

end Rule

end SyntaxBridge
