import SyntaxBridge.Grammar.Category
import SyntaxBridge.Grammar.Error
import SyntaxBridge.Grammar.Literal
import SyntaxBridge.Text.Blank
import SyntaxBridge.Text.Digit
import SyntaxBridge.Text.Letter
import SyntaxBridge.Text.Search

/-!
# Reading a declaration

A declaration stands on a line of its own and ends in a semicolon. Its first word says what it is:
a token, the entrypoints, a shorthand for several rules, one of the pragmas that do not shape the
abstract syntax, or else a labelled rule.

Categories are written with precedence digits and white space that mean nothing here. Reading drops
both, at every depth of a list category.
-/

namespace SyntaxBridge.Parser

open Text

/-- The first words of the declarations that are recognised and dropped. -/
def ignoredKeywords : List String :=
  ["comment", "terminator", "separator", "coercions", "layout", "delimiters"]

/-- The labels of coercions and of lists, which name no alternative. -/
def discardedLabels : List String :=
  ["_", "[]", "(:)", "(:[])"]

/-- Trimming makes no text longer. -/
theorem trim_length_le (cs : List Char) : (trim cs).length ≤ cs.length := by
  have dropWhile_le : ∀ (p : Char → Bool) (l : List Char),
      (l.dropWhile p).length ≤ l.length :=
    fun p l => (List.dropWhile_sublist p).length_le
  simp only [trim, trimEnd, trimStart, dropEndWhile, List.length_reverse]
  exact Nat.le_trans (dropWhile_le _ _) (by simpa using dropWhile_le _ cs)

/-- The category that a text names, without its precedence digits. -/
def cleanType (text : List Char) : Except Cause (List Char) :=
  match h : Category.inner? (trim text) with
  | some inner =>
    have : inner.length < text.length :=
      Nat.lt_of_lt_of_le (Category.inner?_length_lt h) (trim_length_le text)
    return '[' :: (← cleanType inner) ++ [']']
  | none =>
    let name := dropTrailingDigits (trim text)
    if name.isEmpty then .error (.invalidTypeName (String.ofList (trim text))) else .ok name
termination_by text.length

/-- The label that a text gives, without the word that hides a rule from the grammar's users. -/
def cleanLabel (text : List Char) : List Char :=
  let label := trim text
  let (word, rest) := firstWord label
  if word = "internal".toList ∧ rest ≠ [] then rest else label

/-- The categories that a definition consists of, without its literals. -/
def cleanConstruction (text : List Char) : Except Cause (List (List Char)) :=
  match Literal.erase? text with
  | none => .error .unterminatedLiteral
  | some bare => (words bare).mapM cleanType

/-- Strings for the texts of a construction. -/
def toStrings (names : List (List Char)) : List String :=
  names.map String.ofList

/-- Read a token declaration. -/
def readToken (line : LineNumber) (rule : List Char) : Except Cause Rule :=
  match words rule with
  | _ :: name :: _ => return .token ⟨String.ofList (← cleanType name), line⟩
  | _ => .error .missingTokenName

/-- Read an entrypoint declaration, given what follows its keyword. -/
def readEntrypoint (line : LineNumber) (text : List Char) : Except Cause Rule := do
  let types ← ((splitOn ',' text).filter (!allBlank ·)).mapM cleanType
  if types.isEmpty then throw .missingEntrypoint
  return .entrypoint ⟨toStrings types, line⟩

/-- The label of the alternative with the given number, counted from one: named after its symbol if
that can be part of an identifier, else numbered. -/
def alternativeLabel (type alternative : List Char) (number : Nat) : List Char :=
  let symbol := alternative.filter (· ≠ '"')
  if !symbol.isEmpty && symbol.all isAsciiWordChar then type ++ '_' :: symbol
  else type ++ (toString number).toList

/-- Read an alternative of a shorthand. -/
def readAlternative (line : LineNumber) (type alternative : List Char) (number : Nat) :
    Except Cause Rule := do
  if (words alternative).length ≠ 1 then throw .notOneSymbol
  let construction ← cleanConstruction alternative
  return .constructor ⟨String.ofList (alternativeLabel type alternative number),
    String.ofList type, toStrings construction, line⟩

/-- The mark between a category and its definition. -/
def definitionMark : List Char := "::=".toList

/-- Read a shorthand for several rules, given what follows its keyword. Each alternative is read by
itself, so that those before a faulty one are known. -/
def readAlternatives (line : LineNumber) (text : List Char) :
    Except Cause (List (Except Cause Rule)) := do
  let some (typeText, definition) := cutAt? definitionMark text | throw .missingDefinition
  let type ← cleanType typeText
  let alternatives := ((splitOn '|' definition).map trim).filter (!·.isEmpty)
  if alternatives.isEmpty then throw (.noAlternatives (String.ofList type))
  return alternatives.mapIdx fun i alternative => readAlternative line type alternative (i + 1)

/-- Read a labelled rule. Nothing comes of a rule whose label names no alternative. -/
def readConstructor (line : LineNumber) (rule : List Char) : Except Cause (List Rule) := do
  let some (head, definition) := cutAt? definitionMark rule | throw .malformedRule
  let some (labelText, typeText) := cutAt? ['.'] head | throw .malformedRule
  let label := cleanLabel labelText
  if label.isEmpty then throw .missingLabel
  if discardedLabels.contains (String.ofList label) then return []
  if allBlank typeText then throw .missingType
  if (Category.inner? (trim typeText)).isSome then throw .labelledList
  let type ← cleanType typeText
  let construction ← cleanConstruction definition
  return [.constructor ⟨String.ofList label, String.ofList type, toStrings construction, line⟩]

/-- The declaration on a line, without the semicolon that ends it. -/
def declaration (text : List Char) : Except Cause (List Char) := do
  let line := trim text
  if line.getLast? ≠ some ';' then throw .unterminatedRule
  let rule := trim line.dropLast
  if rule.isEmpty then throw .emptyRule
  return rule

/-- Read the rules of a line one by one. The outcome is a fault that leaves no rule, or one entry
for each rule that the line should give. -/
def readRules (line : LineNumber) (text : List Char) :
    Except Cause (List (Except Cause Rule)) := do
  let rule ← declaration text
  let keyword := String.ofList (firstWord rule).1
  let rest := rule.drop keyword.length
  if ignoredKeywords.contains keyword then return []
  else if keyword = "token" then return [← readToken line rule].map .ok
  else if keyword = "entrypoints" then return [← readEntrypoint line rest].map .ok
  else if keyword = "rules" then readAlternatives line rest
  else return (← readConstructor line rule).map .ok

/-- The rules that a line declares. -/
def parseLine (text : String) (line : LineNumber := .unknown) : Except GrammarError (List Rule) :=
  (readRules line text.toList >>= fun rules => rules.mapM id).mapError fun cause =>
    { cause, text, line }

end SyntaxBridge.Parser
