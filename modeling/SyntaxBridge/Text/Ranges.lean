/-!
# Tables of code points

Membership in a table of code point ranges. The tables of the modules beside this one list the
ranges of a character property beyond ASCII; ASCII itself is decided by comparison, so that facts
about ASCII text need no table.
-/

namespace SyntaxBridge.Text

/-- Whether a code point lies in one of the ranges, both ends included. -/
def inRanges (table : List (Nat × Nat)) (n : Nat) : Bool :=
  table.any fun range => range.1 ≤ n && n ≤ range.2

end SyntaxBridge.Text
