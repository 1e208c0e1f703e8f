/-!
# White space

The white space characters, and the operations that only depend on them: trimming a text and
cutting it into words. Trimming yields a text that neither starts nor ends in white space, and no
word holds any.
-/

namespace SyntaxBridge.Text

/-- Whether a character is white space. -/
def isBlank (c : Char) : Bool :=
  let n := c.toNat
  (0x9 ≤ n && n ≤ 0xd) || (0x1c ≤ n && n ≤ 0x20) || n == 0x85 || n == 0xa0 || n == 0x1680 ||
    (0x2000 ≤ n && n ≤ 0x200a) || n == 0x2028 || n == 0x2029 || n == 0x202f || n == 0x205f ||
    n == 0x3000

/-- Drop the characters at the end of a text that satisfy a test. -/
def dropEndWhile (p : Char → Bool) (cs : List Char) : List Char :=
  (cs.reverse.dropWhile p).reverse

/-- Drop the white space at the start of a text. -/
def trimStart (cs : List Char) : List Char :=
  cs.dropWhile isBlank

/-- Drop the white space at the end of a text. -/
def trimEnd (cs : List Char) : List Char :=
  dropEndWhile isBlank cs

/-- Drop the white space at both ends of a text. -/
def trim (cs : List Char) : List Char :=
  trimEnd (trimStart cs)

/-- Whether a text holds nothing but white space. -/
def allBlank (cs : List Char) : Bool :=
  cs.all isBlank

/-- Cut a text at every character that satisfies a test. There is one part more than there are
such characters, so the parts may be empty. -/
def splitWhere (p : Char → Bool) : List Char → List (List Char)
  | [] => [[]]
  | c :: cs =>
    if p c then [] :: splitWhere p cs
    else
      match splitWhere p cs with
      | [] => [[c]]
      | part :: parts => (c :: part) :: parts

/-- Cut a text at every occurrence of a character. -/
def splitOn (sep : Char) (cs : List Char) : List (List Char) :=
  splitWhere (· == sep) cs

/-- The maximal runs of characters that are not white space, in order. -/
def words (cs : List Char) : List (List Char) :=
  (splitWhere isBlank cs).filter fun part => !part.isEmpty

/-- The first word of a text, and what follows it without the white space between. -/
def firstWord (cs : List Char) : List Char × List Char :=
  let text := trimStart cs
  (text.takeWhile (!isBlank ·), trimStart (text.dropWhile (!isBlank ·)))

end SyntaxBridge.Text
