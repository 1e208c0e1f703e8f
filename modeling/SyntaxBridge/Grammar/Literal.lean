/-!
# String literals in a definition

The definition of an alternative mixes categories with string literals. A literal stands between
double quotes; a backslash in it takes the next character along, which must not be a line feed.
Literals have no part in the abstract syntax, so they are dropped.
-/

namespace SyntaxBridge.Literal

/-- What follows a literal, given what follows its opening quote. -/
def rest? : List Char → Option (List Char)
  | [] => none
  | '"' :: cs => some cs
  | '\\' :: c :: cs => if c = '\n' then none else rest? cs
  | '\\' :: [] => none
  | _ :: cs => rest? cs

/-- What follows a literal is shorter than what follows its opening quote. -/
theorem rest?_length_lt {cs after : List Char} (h : rest? cs = some after) :
    after.length < cs.length := by
  fun_induction rest? cs with
  | case1 => cases h
  | case2 cs => cases h; simp
  | case3 => cases h
  | case4 c cs _ ih => have := ih h; simp; omega
  | case5 => cases h
  | case6 c cs _ _ _ ih => have := ih h; simp; omega

/-- A text with a space for every literal, if all literals end. -/
def erase? : List Char → Option (List Char)
  | [] => some []
  | c :: cs =>
    if c = '"' then
      match h : rest? cs with
      | some after =>
        have := rest?_length_lt h
        (erase? after).map (' ' :: ·)
      | none => none
    else (erase? cs).map (c :: ·)
termination_by cs => cs.length

end SyntaxBridge.Literal
