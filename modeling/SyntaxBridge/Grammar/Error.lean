import SyntaxBridge.Grammar.Rule

/-!
# Errors of a grammar

What can be wrong with a grammar, where, and how it is said.
-/

namespace SyntaxBridge

/-- What is wrong with a grammar. -/
inductive Cause where
  /-- A rule does not end in a semicolon. -/
  | unterminatedRule
  /-- Nothing stands before the semicolon. -/
  | emptyRule
  /-- A token declaration names no token. -/
  | missingTokenName
  /-- An entrypoint declaration names no category. -/
  | missingEntrypoint
  /-- A shorthand for several rules has no definition. -/
  | missingDefinition
  /-- A shorthand for several rules defines its category by nothing. -/
  | noAlternatives (type : String)
  /-- An alternative of a shorthand has not exactly one symbol. -/
  | notOneSymbol
  /-- A labelled rule lacks the dot or the definition, or has them in the wrong order. -/
  | malformedRule
  /-- A labelled rule has no label. -/
  | missingLabel
  /-- A labelled rule has no category. -/
  | missingType
  /-- A rule gives a list category a label of its own. -/
  | labelledList
  /-- The name of a category is empty once its precedence digits are dropped. -/
  | invalidTypeName (name : String)
  /-- A string literal does not end. -/
  | unterminatedLiteral
  /-- A grammar declares its entrypoints a second time. -/
  | secondEntrypoints
  /-- A category is declared as a token and has alternatives as well. -/
  | tokenWithRules (type : String)
  /-- A token is declared twice. -/
  | secondToken (type : String)
  /-- Extra cases are given for a category that the grammar does not declare. -/
  | extraForUnknown (type : String)
  /-- Extra cases are given for a token. -/
  | extraForToken (type : String)
  deriving DecidableEq, Repr

/-- The two kinds of error: a declaration that cannot be read, and declarations that contradict each
other. -/
inductive ErrorKind where
  | unreadable
  | inconsistent
  deriving DecidableEq, Repr

namespace Cause

/-- The kind of error that a cause leads to. -/
def kind : Cause → ErrorKind
  | tokenWithRules _ | secondToken _ | extraForUnknown _ | extraForToken _ => .inconsistent
  | _ => .unreadable

/-- The wording of a cause. -/
def message : Cause → String
  | unterminatedRule => "rules must be terminated with `;`"
  | emptyRule => "empty rule"
  | missingTokenName => "missing token name"
  | missingEntrypoint => "entrypoints must name at least one type"
  | missingDefinition => "invalid rule: missing `::=`"
  | noAlternatives type => "rules for " ++ type ++ " has no alternatives"
  | notOneSymbol =>
    "the `rules` keyword is only supported with a single symbol per alternative"
  | malformedRule => "invalid rule: expected `label . type ::= construction`"
  | missingLabel => "missing label"
  | missingType => "missing type"
  | labelledList => "list categories only take the labels (:), (:[]), [], _"
  | invalidTypeName name => "invalid type name " ++ Text.quoted name
  | unterminatedLiteral => "unterminated string literal"
  | secondEntrypoints => "only one entrypoints declaration is supported"
  | tokenWithRules type =>
    "type " ++ type ++ " is declared both as a token and by constructor rules"
  | secondToken type => "token " ++ type ++ " is declared more than once"
  | extraForUnknown type => "extra cases given for unknown type " ++ type
  | extraForToken type => "extra cases given for token type " ++ type

end Cause

/-- An error of a grammar. -/
structure GrammarError where
  /-- What is wrong. -/
  cause : Cause
  /-- The text at fault, empty if it is not known. -/
  text : String := ""
  /-- The line at fault. -/
  line : LineNumber := .unknown
  deriving DecidableEq, Repr

namespace GrammarError

/-- The wording of an error without its place. -/
def message (e : GrammarError) : String :=
  e.cause.message

/-- A wording with a line, where that is known. -/
def withLine (line : Option Int) (message : String) : String :=
  match line with
  | some n => "line " ++ toString n ++ ": " ++ message
  | none => message

/-- The wording of an error with its line, where that is known. -/
def describe (e : GrammarError) : String :=
  withLine (if e.line.isKnown then some e.line.toInt else none) e.message

end GrammarError

end SyntaxBridge
