import SyntaxBridge.Swift.AbstractSyntax
import SyntaxBridge.Swift.Bridge
import SyntaxBridge.Swift.Indent

/-!
# Generated files

What is generated from a grammar: a file with the abstract syntax and one with the bridge to the
parser, each with a header that says what it was generated from.
-/

namespace SyntaxBridge.Swift

/-- The name of the file with the abstract syntax. -/
def abstractSyntaxFile : String := "AbstractSyntax.swift"

/-- The name of the file with the bridge to the parser in a module. -/
def bridgeFile (module : String) : String :=
  module ++ "ToSwiftBridge.swift"

/-- The header of a file. -/
def header (file grammarName : String) : String :=
  "\n".intercalate [
    "//",
    "//  " ++ file,
    "//  Generated by cf2swift from " ++ grammarName,
    "//",
    "//  This converter assumes files generated by the BNFC C backend and GNU Bison 2.3,",
    "//  compatibility with other versions can not be guaranteed",
    "//",
    "",
    ""]

/-- A name and the text that belongs to it. -/
structure SourceFile where
  /-- The name of the file. -/
  name : String
  /-- The text of the file. -/
  text : String
  deriving DecidableEq, Repr

/-- A file with a header and indented source. -/
def SourceFile.ofCode (name grammarName code : String) : SourceFile :=
  { name, text := header name grammarName ++ pretty code }

/-- The files generated from a grammar. The module of the parser must have a name. -/
def generateSources (grammar : Grammar) (module grammarName : String) : Option (List SourceFile) :=
  (bridgeSource? grammar module).map fun bridgeCode =>
    [.ofCode abstractSyntaxFile grammarName (abstractSyntaxSource grammar),
      .ofCode (bridgeFile module) grammarName bridgeCode]

end SyntaxBridge.Swift
