import SyntaxBridge.Grammar.Analysis
import SyntaxBridge.Swift.BlockWriter
import SyntaxBridge.Swift.Name

/-!
# The bridge

The functions that turn what the parser of a grammar hands over into values of the abstract syntax.
The parser represents a value of a category by a structure with a number, which says what
alternative it is, and a union with a member for each label. The numbers count the alternatives of
the category from zero, in the order of their rules.

`bridge` lists the declarations of the bridge of a grammar, `BridgeDeclaration.lines` writes one of
them, and `bridgeSource` is the whole text.
-/

namespace SyntaxBridge.Swift

/-- An argument of a case: a function and the member that it is applied to. -/
structure CaseArgument where
  /-- The type after which the function is named. -/
  visited : String
  /-- The member of the union that belongs to the alternative. -/
  label : String
  /-- The member of the alternative. -/
  member : String
  deriving DecidableEq, Repr

/-- The text of an argument. -/
def CaseArgument.text (argument : CaseArgument) : String :=
  "visit" ++ argument.visited ++ "(value.u." ++ argument.label ++ "_." ++ argument.member ++ ")"

/-- A case applied to its arguments. -/
structure CaseValue where
  /-- The name of the case. -/
  name : String
  /-- The arguments, in order. -/
  arguments : List CaseArgument
  deriving DecidableEq, Repr

namespace CaseValue

/-- The value that an alternative of a category is turned into. -/
def ofConstructor (type : String) (rule : Constructor) : CaseValue where
  name := caseName type rule.label
  arguments := List.zipWith
    (fun part member => { visited := Category.listName part, label := lower rule.label, member })
    rule.construction (memberNames rule.construction)

/-- The text of a case with its arguments. -/
def text (value : CaseValue) : String :=
  "." ++ value.name ++
    if value.arguments.isEmpty then ""
    else "(" ++ ", ".intercalate (value.arguments.map CaseArgument.text) ++ ")"

end CaseValue

/-- How a value of a predefined category is converted. -/
structure ScalarConversion where
  /-- The category. -/
  category : String
  /-- The type that its values are converted to. -/
  type : String
  /-- The converted value. -/
  value : String
  deriving DecidableEq, Repr

/-- The conversions of the predefined categories. -/
def scalarConversions : List ScalarConversion :=
  [⟨"Char", "Swift.Character",
      "Swift.Character(Swift.UnicodeScalar(Swift.UInt8(bitPattern: pChar)))"⟩,
    ⟨"Double", "Swift.Double", "pDouble"⟩,
    ⟨"Integer", "Swift.Int", "Swift.Int(pInteger)"⟩,
    ⟨"String", "Swift.String", "Swift.String(cString: pString)"⟩]

/-- A declaration of the bridge. -/
inductive BridgeDeclaration where
  /-- Import what the bridge needs. -/
  | imports
  /-- A heading. -/
  | heading (title : String)
  /-- Parse a file as a category. -/
  | parseFile (category : String)
  /-- Turn a value of a category into one of its cases, chosen by number. -/
  | visit (name : String) (cases : List CaseValue)
  /-- Turn a list of a category into an array. -/
  | visitList (category : String)
  /-- Turn a token into its structure. -/
  | visitToken (name : String)
  /-- Convert a value of a predefined category. -/
  | visitScalar (conversion : ScalarConversion)
  deriving DecidableEq, Repr

namespace BridgeDeclaration

/-- The type that represents a category in the module of the parser. -/
def nativeType (module name : String) : String :=
  module ++ "." ++ if escapedMembers.contains name then escape name else name

/-- The head of a function that visits a value. -/
def visitHead (name argument result : String) : String :=
  "private func visit" ++ name ++ "(" ++ argument ++ ") -> " ++ result ++ " \x7b"

/-- The lines of one case of a switch. -/
def caseLines (number : Nat) (value : CaseValue) : List String :=
  ["case " ++ toString number ++ ":", "return " ++ value.text]

/-- The lines of a declaration, given the module of the parser. -/
def lines (module : String) : BridgeDeclaration → List String
  | imports => ["import Foundation", "import " ++ module]
  | heading title => ["//MARK:- " ++ title]
  | parseFile category =>
    let visited := Category.listName category
    ["public func parseFile(at path: Swift.String) -> " ++ typeName category ++ "? \x7b",
      "if let file = fopen(path, \"r\") \x7b",
      "defer \x7b fclose(file) \x7d",
      "if let cTree = " ++ module ++ ".p" ++ visited ++ "(file) \x7b",
      "return visit" ++ visited ++ "(cTree)",
      "\x7d",
      "\x7d",
      "return nil",
      "\x7d"]
  | visit name cases =>
    [visitHead name ("_ pValue: " ++ nativeType module name) name,
      "let value = pValue.pointee",
      "switch value.kind \x7b"] ++
      (cases.mapIdx caseLines).flatten ++
      ["default:",
        "print(\"Error: bad `kind` field when bridging `" ++ name ++ "` to Swift!\")",
        "exit(1)",
        "\x7d",
        "\x7d"]
  | visitList category =>
    let list := Category.listName (Category.listOf category)
    let head := lower category ++ "_"
    let tail := lower list ++ "_"
    [visitHead list ("_ pValue: " ++ nativeType module list ++ "?")
        ("[" ++ typeName category ++ "]"),
      "guard let value = pValue?.pointee else \x7b",
      "return []",
      "\x7d",
      "if value." ++ head ++ " == nil \x7b",
      "return []",
      "\x7d",
      "return [visit" ++ category ++ "(value." ++ head ++ ")] + visit" ++ list ++
        "(value." ++ tail ++ ")",
      "\x7d"]
  | visitToken name =>
    [visitHead name ("_ pValue: " ++ nativeType module name) name,
      "return " ++ name ++ "(String(cString: pValue))",
      "\x7d"]
  | visitScalar conversion =>
    [visitHead conversion.category
        ("_ p" ++ conversion.category ++ ": " ++ module ++ "." ++ conversion.category)
        conversion.type,
      "return " ++ conversion.value,
      "\x7d"]

end BridgeDeclaration

open BridgeDeclaration in
/-- The declarations of the bridge of a grammar, in order. -/
def bridge (grammar : Grammar) : List BridgeDeclaration :=
  let tokens := grammar.groups.filter (·.isToken)
  [imports] ++
    grammar.entrypoints.map parseFile ++
    [heading "C to Swift mapping"] ++
    ((grammar.groups.filter (!·.isToken)).map fun group =>
      visit group.name (group.members.constructors.map (CaseValue.ofConstructor group.name))) ++
    (if grammar.listTypes.isEmpty then []
      else heading "Lists" :: grammar.listTypes.map visitList) ++
    (if tokens.isEmpty then []
      else heading "Tokens" :: tokens.map fun group => visitToken group.name) ++
    heading "Default types" :: scalarConversions.map visitScalar

/-- The source of the bridge of a grammar to the parser in a module. -/
def bridgeSource (grammar : Grammar) (module : String) : String :=
  renderBlocks ((bridge grammar).map (BridgeDeclaration.lines module))

/-- The source of the bridge of a grammar, if the module of the parser has a name. -/
def bridgeSource? (grammar : Grammar) (module : String) : Option String :=
  if module.isEmpty then none else some (bridgeSource grammar module)

/-- The wording for a module without a name. -/
def emptyModuleMessage : String := "module name must not be empty"

end SyntaxBridge.Swift
