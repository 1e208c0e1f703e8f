import SyntaxBridge.Grammar.Analysis
import SyntaxBridge.Swift.BlockWriter
import SyntaxBridge.Swift.Name
import SyntaxBridge.Text.Blank

/-!
# The abstract syntax

The declarations of the types that represent the texts of a grammar: an enumeration for each
category with alternatives, a structure for each token, a name for the lists of each category whose
lists are used, and the means to print all of them.

`abstractSyntax` lists the declarations of a grammar, `AbstractDeclaration.lines` writes one of
them, and `abstractSyntaxSource` is the whole text.
-/

namespace SyntaxBridge.Swift

/-- A case of an enumeration. -/
structure EnumCase where
  /-- The name of the case. -/
  name : String
  /-- The types of its parts, in order. -/
  payload : List String
  deriving DecidableEq, Repr

namespace EnumCase

/-- The case for an alternative. -/
def ofConstructor (type : String) (rule : Constructor) : EnumCase :=
  { name := caseName type rule.label, payload := rule.construction.map typeName }

/-- The line that declares a case. -/
def line (enumCase : EnumCase) : String :=
  "case " ++ enumCase.name ++
    if enumCase.payload.isEmpty then "" else "(" ++ ", ".intercalate enumCase.payload ++ ")"

end EnumCase

/-- The line of a case that was added by hand: the text without white space around it, made a case
unless it is one. -/
def extraCaseLine (text : String) : String :=
  let bare := Text.trim text.toList
  if "case ".toList.isPrefixOf bare then String.ofList bare else "case " ++ String.ofList bare

/-- The lines of the cases that were added by hand, without those that are already there. -/
def extraCaseLines (taken : List String) : List String → List String
  | [] => []
  | text :: texts =>
    let line := extraCaseLine text
    if taken.contains line then extraCaseLines taken texts
    else line :: extraCaseLines (line :: taken) texts

/-- A declaration of the abstract syntax. -/
inductive AbstractDeclaration where
  /-- Import what the printing of values needs. -/
  | foundation
  /-- A heading. -/
  | heading (title : String)
  /-- The enumeration of a category with alternatives. -/
  | enumeration (name : String) (boxed : Bool) (cases : List EnumCase) (extraCases : List String)
  /-- The names for lists of categories. -/
  | listNames (categories : List String)
  /-- The structure of a token. -/
  | word (name : String)
  /-- The protocol of what can be printed. -/
  | printing
  /-- How a value is printed, unless its type says otherwise. -/
  | defaultPrinting
  /-- The values of a category can be printed; a token is printed by its description. -/
  | printable (name : String) (isToken : Bool)
  /-- The description of a token. -/
  | description (name : String)
  /-- The equality of a token. -/
  | equality (name : String)
  /-- The hash of a token. -/
  | hashing (name : String)
  deriving DecidableEq, Repr

namespace AbstractDeclaration

/-- The name of the protocol of what can be printed. -/
def printingProtocol : String := "CustomAbstractSyntaxPrinting"

/-- The lines between the braces of an enumeration. -/
def caseLines (cases : List EnumCase) (extraCases : List String) : List String :=
  let lines := cases.map EnumCase.line
  if extraCases.isEmpty then lines
  else lines ++ "//additional cases" :: extraCaseLines lines extraCases

/-- The line that names the lists of a category. -/
def listNameLine (category : String) : String :=
  "public typealias " ++ Category.listName (Category.listOf category) ++ " = [" ++
    typeName category ++ "]"

/-- The lines of a declaration. -/
def lines : AbstractDeclaration → List String
  | foundation => ["import Foundation"]
  | heading title => ["//MARK:- " ++ title]
  | enumeration name boxed cases extraCases =>
    ["public " ++ (if boxed then "indirect " else "") ++ "enum " ++ name ++ " \x7b"] ++
      caseLines cases extraCases ++ ["\x7d"]
  | listNames categories => categories.map listNameLine
  | word name =>
    ["public struct " ++ name ++ " \x7b",
      "public let value: String",
      "",
      "public init(_ value: String) \x7b",
      "self.value = value",
      "\x7d",
      "\x7d"]
  | printing =>
    ["public protocol " ++ printingProtocol ++ " \x7b",
      "func show() -> String",
      "\x7d"]
  | defaultPrinting =>
    ["extension " ++ printingProtocol ++ " \x7b",
      "public func show() -> String \x7b",
      "let description = String(reflecting: self)",
      "let moduleName = description.components(separatedBy: \".\").first!",
      "return description.replacingOccurrences(of: \"\\(moduleName).\", with: \"\")",
      "\x7d",
      "\x7d"]
  | printable name isToken =>
    ["extension " ++ name ++ ": " ++ printingProtocol ++ " \x7b"] ++
      (if isToken then ["public func show() -> String \x7b", "return description", "\x7d"]
        else []) ++
      ["\x7d"]
  | description name =>
    ["extension " ++ name ++ ": CustomStringConvertible \x7b",
      "public var description: String \x7b return \"\\(type(of: self))" ++
        "(\\(String(reflecting: value)))\" \x7d",
      "\x7d"]
  | equality name =>
    ["extension " ++ name ++ ": Equatable \x7b",
      "public static func ==(lhs: " ++ name ++ ", rhs: " ++ name ++ ") -> Bool \x7b",
      "return lhs.value == rhs.value",
      "\x7d",
      "\x7d"]
  | hashing name =>
    ["extension " ++ name ++ ": Hashable \x7b",
      "public func hash(into hasher: inout Hasher) \x7b",
      "hasher.combine(value)",
      "\x7d",
      "\x7d"]

/-- The declaration of a category. -/
def ofGroup (group : Group) : AbstractDeclaration :=
  match group.members with
  | .token _ => word group.name
  | .alternatives rules =>
    enumeration group.name group.boxed (rules.map (EnumCase.ofConstructor group.name))
      group.extraCases

end AbstractDeclaration

open AbstractDeclaration in
/-- The declarations of the abstract syntax of a grammar, in order. -/
def abstractSyntax (grammar : Grammar) : List AbstractDeclaration :=
  let enums := grammar.groups.filter (!·.isToken)
  let tokens := grammar.groups.filter (·.isToken)
  let whenAny (entries : List Group) (declarations : List AbstractDeclaration) :=
    if entries.isEmpty then [] else declarations
  whenAny grammar.groups [foundation] ++
    enums.map ofGroup ++
    (if grammar.listTypes.isEmpty then [] else [heading "Lists", listNames grammar.listTypes]) ++
    whenAny tokens (heading "Tokens" :: tokens.map ofGroup) ++
    whenAny grammar.groups ([heading "Custom printing", printing, defaultPrinting] ++
      grammar.groups.map fun group => printable group.name group.isToken) ++
    whenAny tokens (heading "Token helpers" ::
      tokens.flatMap fun group =>
        [description group.name, equality group.name, hashing group.name])

/-- The source of the abstract syntax of a grammar. -/
def abstractSyntaxSource (grammar : Grammar) : String :=
  renderBlocks ((abstractSyntax grammar).map AbstractDeclaration.lines)

end SyntaxBridge.Swift
