import SyntaxBridge.Text.Blank
import SyntaxBridge.Text.Search

/-!
# Indentation

Source is indented line by line. The depth of a line is the number of braces that are open before
it, whatever they stand in. A line that starts with a closing brace stands at the depth of the
block that it closes, and the label of a case one level before its body.
-/

namespace SyntaxBridge.Swift

open Text

/-- Whether a line is the label of a case. -/
def isCaseLabel (line : List Char) : Bool :=
  ("case".toList.isPrefixOf line && line.getLast? == some ':') || "default:".toList.isPrefixOf line

/-- The number of braces that a line opens less those that it closes. -/
def braceChange (line : List Char) : Int :=
  (line.count '\x7b' : Int) - line.count '\x7d'

/-- White space for a level of indentation; there is none for a level below zero. -/
def indentation (level width : Int) : List Char :=
  List.replicate (level * width).toNat ' '

/-- Whether a line starts with a closing brace. -/
def closesBlock (line : List Char) : Bool :=
  line.head? == some '\x7d'

/-- The level of a line, given the depth before it. -/
def lineLevel (depth : Int) (line : List Char) : Int :=
  depth - (if closesBlock line then 1 else 0) - (if isCaseLabel line then 1 else 0)

/-- A line as it is written at a depth, white space around it aside. A blank line stays empty. -/
def indentLine (width depth : Int) (line : List Char) : List Char :=
  let bare := trim line
  if bare.isEmpty then ['\n']
  else indentation (lineLevel depth bare) width ++ bare ++ ['\n']

/-- The depth after a line. -/
def depthAfter (depth : Int) (line : List Char) : Int :=
  depth + braceChange (trim line)

/-- Write lines from a depth on. -/
def indentLines (width depth : Int) : List (List Char) → List Char
  | [] => []
  | line :: lines => indentLine width depth line ++ indentLines width (depthAfter depth line) lines

/-- Indent source. The text ends in a line feed, of which there is one more than in the source if
that does not end in one. -/
def prettyChars (code : List Char) (width : Int) : List Char :=
  let text := indentLines width 0 (splitOn '\n' code)
  if code.getLast? = some '\n' then text.dropLast else text

/-- Indent source by a number of spaces for each level. -/
def pretty (code : String) (width : Int := 4) : String :=
  String.ofList (prettyChars code.toList width)

end SyntaxBridge.Swift
