/-!
# Searching a text

Finding, cutting at, and replacing parts of a text.
-/

namespace SyntaxBridge.Text

/-- Whether the first text ends the second. -/
def endsWith (tail cs : List Char) : Bool :=
  tail.reverse.isPrefixOf cs.reverse

/-- Cut a text around the first occurrence of another: what comes before it and what after. -/
def cutAt? (mark : List Char) : List Char → Option (List Char × List Char)
  | [] => if mark.isEmpty then some ([], []) else none
  | c :: cs =>
    if mark.isPrefixOf (c :: cs) then some ([], (c :: cs).drop mark.length)
    else (cutAt? mark cs).map fun (before, after) => (c :: before, after)

/-- Write a text for every occurrence of a character. -/
def replaceChar (old : Char) (new : List Char) (cs : List Char) : List Char :=
  cs.flatMap fun c => if c = old then new else [c]

/-- Join texts with a separator between neighbours. -/
def join (sep : List Char) : List (List Char) → List Char
  | [] => []
  | [part] => part
  | part :: rest => part ++ sep ++ join sep rest

end SyntaxBridge.Text
