import SyntaxBridge.Text.Compatible
import SyntaxBridge.Text.Identifier

/-!
# Words of a schema

The words of a schema name fields and types. A field needs a proper name: an identifier with no
meaning of its own. A type may also be a number or a constant, which only turn out to be no types
when a value is checked. Names that have the same compatible form are the same name.
-/

namespace SyntaxBridge.Record

open Text

/-- The words that have a meaning of their own and can name neither a field nor a type. -/
def reservedWords : List String :=
  ["and", "as", "assert", "async", "await", "break", "class", "continue", "def", "del", "elif",
    "else", "except", "finally", "for", "from", "global", "if", "import", "in", "is", "lambda",
    "nonlocal", "not", "or", "pass", "raise", "return", "try", "while", "with", "yield"]

/-- The words that stand for a value. -/
def constantWords : List String :=
  ["True", "False", "None"]

/-- The name that always stands for a value, however it is written. -/
def constantName : String := "__debug__"

/-- Whether a row of digits is not empty, with at most one underscore between each two of them. -/
def isDigitRow (isDigit : Char → Bool) (cs : List Char) : Bool :=
  (splitOn '_' cs).all fun part => !part.isEmpty && part.all isDigit

/-- Whether a text is a number of one of the bases two, eight and sixteen: the mark of the base
comes after a zero, and an underscore may follow it. -/
def isBasedNumber : List Char → Bool
  | '0' :: mark :: cs =>
    let cs := if cs.head? = some '_' then cs.drop 1 else cs
    match mark.toLower with
    | 'x' => isDigitRow (fun c => c.isDigit || ('a' ≤ c.toLower && c.toLower ≤ 'f')) cs
    | 'o' => isDigitRow (fun c => '0' ≤ c && c ≤ '7') cs
    | 'b' => isDigitRow (fun c => c == '0' || c == '1') cs
    | _ => false
  | _ => false

/-- Whether a text is digits, perhaps with an exponent. -/
def isScaledNumber (cs : List Char) : Bool :=
  match splitWhere (·.toLower == 'e') cs with
  | [digits] => isDigitRow Char.isDigit digits
  | [digits, power] => isDigitRow Char.isDigit digits && isDigitRow Char.isDigit power
  | _ => false

/-- Whether a text is a whole number, which does not start with a zero unless it is zero. -/
def isWholeNumber (cs : List Char) : Bool :=
  isDigitRow Char.isDigit cs && (cs.head? != some '0' || cs.all fun c => c == '0' || c == '_')

/-- Whether a word is a number: a whole one, one in another base, one with an exponent, or an
imaginary one, which ends in a `j`. -/
def isNumberWord (word : String) : Bool :=
  let cs := word.toList
  isWholeNumber cs || isBasedNumber cs || (cs.any (·.toLower == 'e') && isScaledNumber cs) ||
    (cs.getLast?.any (·.toLower == 'j') && isScaledNumber cs.dropLast)

/-- The name that an identifier stands for. -/
def nameOf (word : String) : String :=
  String.ofList (compatibleForm word.toList)

/-- Whether a word is an identifier without a meaning of its own. -/
def isProperName (word : String) : Bool :=
  isIdentifier word.toList && !reservedWords.contains word && !constantWords.contains word

/-- What a word means where a type is expected. -/
inductive TypeWord where
  /-- A number or a constant, which is no type. -/
  | constant
  /-- A name to be looked up. -/
  | named (name : String)
  deriving DecidableEq, Repr

/-- The meaning of a word, if it has one. -/
def TypeWord.read? (word : String) : Option TypeWord :=
  if isNumberWord word || constantWords.contains word then some .constant
  else if isProperName word then
    some (if nameOf word = constantName then .constant else .named (nameOf word))
  else none

/-- The name of a type that is declared under a word. White space around the word is left out. -/
def typeNameOf? (word : String) : Option String :=
  let isSpace (c : Char) : Bool := c == ' ' || c == '\t' || c == '\x0c'
  let trimmed := String.ofList (dropEndWhile isSpace (word.toList.dropWhile isSpace))
  if isProperName trimmed && nameOf trimmed != constantName then some (nameOf trimmed) else none

end SyntaxBridge.Record
