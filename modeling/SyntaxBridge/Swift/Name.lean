import SyntaxBridge.Grammar.Category
import SyntaxBridge.Text.Case
import SyntaxBridge.Text.Letter

/-!
# Names in the generated source

What categories and their alternatives are called in Swift, and what the parts of an alternative
are called in the structures that the parser hands over.

The name of an alternative is its label without the name of its category in front, where a letter
follows. It starts in lower case, and a keyword is escaped.
-/

namespace SyntaxBridge.Swift

open Text

/-- The types of the predefined categories. -/
def scalarTypes : List (String × String) :=
  [("Integer", "Int"), ("Double", "Double"), ("String", "String"), ("Char", "Character")]

/-- The words that must be escaped to name a case. -/
def keywords : List String :=
  ["associatedtype", "class", "deinit", "enum", "extension", "fileprivate", "func", "import",
    "init", "inout", "internal", "let", "open", "operator", "private", "protocol", "public",
    "rethrows", "static", "struct", "subscript", "typealias", "var", "break", "case", "continue",
    "default", "defer", "do", "else", "fallthrough", "for", "guard", "if", "in", "repeat",
    "return", "switch", "where", "while", "as", "catch", "false", "is", "nil", "self", "super",
    "throw", "throws", "true", "try"]

/-- The names that mean something else after a dot. -/
def escapedMembers : List String :=
  ["Type", "Protocol"]

/-- A name in the form that makes it a plain identifier. -/
def escape (name : String) : String :=
  "`" ++ name ++ "`"

/-- A string with its first character in lower case. -/
def lowerFirst (text : String) : String :=
  String.ofList (Text.lowerFirst text.toList)

/-- A string in lower case. -/
def lower (text : String) : String :=
  String.ofList (Text.lower text.toList)

/-- The label of an alternative without the name of its category in front, compared in lower case. A
letter must follow the name, perhaps after underscores; otherwise the label is left whole. -/
def dropTypeName (type label : List Char) : List Char :=
  if type.length < label.length ∧ (Text.lower type).isPrefixOf (Text.lower label) then
    let rest := label.drop type.length
    if (rest.dropWhile (· == '_')).head?.any isLetter then rest else label
  else label

/-- A name without the underscore that it starts with. The underscore alone stays. -/
def dropUnderscore : List Char → List Char
  | '_' :: c :: cs => c :: cs
  | cs => cs

/-- The name of an alternative of a category as a case, not yet escaped. -/
def bareCaseName (type label : List Char) : List Char :=
  Text.lowerFirst (dropUnderscore (dropTypeName type label))

/-- The name of an alternative of a category as a case. -/
def caseName (type label : String) : String :=
  let name := String.ofList (bareCaseName type.toList label.toList)
  if keywords.contains name then escape name else name

/-- The type of the values of a category. -/
def typeName (category : String) : String :=
  if Category.isList category then Category.listName category
  else (scalarTypes.lookup category).getD category

/-- The name of the member that holds a part of an alternative: the type of the part, with the
number of the part among those of its type where there are several. -/
def memberName (construction : List String) (index : Nat) (part : String) : String :=
  let name := lower (Category.listName part)
  if construction.count part = 1 then name ++ "_"
  else name ++ "_" ++ toString ((construction.take index).count part + 1)

/-- The names of the members that hold the parts of an alternative, in order. -/
def memberNames (construction : List String) : List String :=
  construction.mapIdx (memberName construction)

end SyntaxBridge.Swift
