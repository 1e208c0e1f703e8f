import SyntaxBridge.Text.Lines

/-!
# Source lines of texts put together

A text that is empty or ends in a line feed can be put in front of another, and the lines of both
are those of the first and then those of the second (`splitLines_append`). A text without line ends,
followed by a line feed, is one line (`splitLines_line`). Turning the line ends of a file twice is
turning them once (`unifyLineEnds_unifyLineEnds`).
-/

namespace SyntaxBridge.Text

/-- A text that is empty or whose last line is ended by a line feed. -/
def LinesEnded (cs : List Char) : Prop :=
  cs = [] ∨ ∃ init, cs = init ++ ['\n']

/-- A line end that does not start a longer one ends an empty line. -/
theorem splitLines_cons_of_isLineEnd {c : Char} {cs : List Char} (hend : isLineEnd c = true)
    (hlong : c = '\r' → cs.head? ≠ some '\n') : splitLines (c :: cs) = [] :: splitLines cs := by
  rw [splitLines, if_pos hend]
  rintro rest rfl rfl
  exact hlong rfl rfl

/-- Any other character belongs to the first line. -/
theorem splitLines_cons_of_not_isLineEnd {c : Char} {cs : List Char} (hend : isLineEnd c = false) :
    splitLines (c :: cs) =
      match splitLines cs with
      | [] => [[c]]
      | line :: lines => (c :: line) :: lines := by
  have hreturn : c ≠ '\r' := by
    rintro rfl
    exact absurd hend (by decide)
  refine (splitLines.eq_3 _ _ fun _ h _ => hreturn h).trans ?_
  exact if_neg (by simp [hend])

/-- A line feed in front of a text is a line of its own. -/
theorem splitLines_lineFeed (cs : List Char) : splitLines ('\n' :: cs) = [] :: splitLines cs :=
  splitLines_cons_of_isLineEnd (by decide) fun h => absurd h (by decide)

/-- A text that is not empty has a line. -/
theorem splitLines_ne_nil {cs : List Char} (h : cs ≠ []) : splitLines cs ≠ [] := by
  fun_cases splitLines cs with
  | case1 => exact absurd rfl h
  | _ => simp

/-- A character that is no line end goes to the first of the lines that follow. -/
private theorem splitLines_cons_append_lineFeed {c : Char} {init cs : List Char}
    (hend : isLineEnd c = false)
    (ih : splitLines (init ++ '\n' :: cs) = splitLines (init ++ ['\n']) ++ splitLines cs) :
    splitLines (c :: init ++ '\n' :: cs) = splitLines (c :: init ++ ['\n']) ++ splitLines cs := by
  have hne : splitLines (init ++ ['\n']) ≠ [] := splitLines_ne_nil (by simp)
  obtain ⟨line, lines, hlines⟩ := List.exists_cons_of_ne_nil hne
  rw [List.cons_append, List.cons_append, splitLines_cons_of_not_isLineEnd hend,
    splitLines_cons_of_not_isLineEnd hend, ih, hlines]
  rfl

/-- A carriage return that starts no longer line end starts none after a line feed is put at the end
either, unless it is the last character. -/
private theorem head?_ne_lineFeed {c : Char} {rest : List Char}
    (hshort : ∀ cs, c = '\r' → rest = '\n' :: cs → False) (hlast : ¬ (c = '\r' ∧ rest = []))
    (tail : List Char) : c = '\r' → (rest ++ '\n' :: tail).head? ≠ some '\n' := by
  rintro rfl h
  cases rest with
  | nil => exact hlast ⟨rfl, rfl⟩
  | cons d rest =>
    cases h
    exact hshort rest rfl rfl

/-- The lines of a text that ends in a line feed stay as they are when something follows. -/
theorem splitLines_append_lineFeed (init cs : List Char) :
    splitLines (init ++ '\n' :: cs) = splitLines (init ++ ['\n']) ++ splitLines cs := by
  -- The induction follows the line ends, since the last character may be half of a longer one.
  fun_induction splitLines init with
  | case1 => simp [splitLines_lineFeed, splitLines]
  | case2 rest ih => simp only [List.cons_append, splitLines, ih]
  | case3 c rest hshort hend ih =>
    by_cases hlast : c = '\r' ∧ rest = []
    · obtain ⟨rfl, rfl⟩ := hlast
      simp [splitLines]
    · have hlong := head?_ne_lineFeed hshort hlast
      rw [List.cons_append, List.cons_append, splitLines_cons_of_isLineEnd hend (hlong cs),
        splitLines_cons_of_isLineEnd hend (hlong []), ih, List.cons_append]
  | case4 c rest _ hend _ ih =>
    exact splitLines_cons_append_lineFeed (by simpa using hend) ih
  | case5 c rest _ hend _ _ _ ih =>
    exact splitLines_cons_append_lineFeed (by simpa using hend) ih

/-- A line feed at the end of a text ends its last line, which may be an empty one. -/
theorem splitLines_append_singleton_lineFeed (cs : List Char) :
    splitLines (cs ++ ['\n']) = splitLines cs ∨
      splitLines (cs ++ ['\n']) = splitLines cs ++ [[]] := by
  fun_induction splitLines cs with
  | case1 => exact .inr rfl
  | case2 rest ih => simpa [splitLines] using ih
  | case3 c rest hshort hend ih =>
    by_cases hlast : c = '\r' ∧ rest = []
    -- A carriage return at the end and the line feed are one line end.
    · obtain ⟨rfl, rfl⟩ := hlast
      exact .inl rfl
    · rw [List.cons_append, splitLines_cons_of_isLineEnd hend (head?_ne_lineFeed hshort hlast [])]
      simpa using ih
  | case4 c rest _ hend hrest ih =>
    rw [List.cons_append, splitLines_cons_of_not_isLineEnd (by simpa using hend)]
    have hempty : rest = [] := Classical.byContradiction fun h => splitLines_ne_nil h hrest
    subst hempty
    exact .inl rfl
  | case5 c rest _ hend line lines hrest ih =>
    rw [List.cons_append, splitLines_cons_of_not_isLineEnd (by simpa using hend)]
    rcases ih with ih | ih
    · exact .inl (by rw [ih, hrest])
    · exact .inr (by rw [ih, hrest]; rfl)

/-- The lines of a text whose last line is ended come before those of what follows. -/
theorem splitLines_append {cs : List Char} (h : LinesEnded cs) (others : List Char) :
    splitLines (cs ++ others) = splitLines cs ++ splitLines others := by
  rcases h with rfl | ⟨init, rfl⟩
  · rfl
  · rw [List.append_assoc, List.singleton_append, splitLines_append_lineFeed]

/-- A text without line ends is one line once a line feed follows. -/
theorem splitLines_line {line : List Char} (h : ∀ c ∈ line, isLineEnd c = false) :
    splitLines (line ++ ['\n']) = [line] := by
  induction line with
  | nil => rfl
  | cons c line ih =>
    rw [List.cons_append, splitLines_cons_of_not_isLineEnd (h c List.mem_cons_self),
      ih fun d hd => h d (List.mem_cons_of_mem _ hd)]

/-! ## File lines -/

/-- No carriage return is left when line ends are turned. -/
theorem return_notMem_unifyLineEnds (cs : List Char) : '\r' ∉ unifyLineEnds cs := by
  fun_induction unifyLineEnds cs with
  | case1 => simp
  | case2 cs ih => simpa using ih
  | case3 c cs _ ih =>
    by_cases hc : c = '\r'
    · simp [hc, ih]
    · simp [hc, ih, Ne.symm hc]

/-- Turning line ends again changes nothing. -/
theorem unifyLineEnds_unifyLineEnds (cs : List Char) :
    unifyLineEnds (unifyLineEnds cs) = unifyLineEnds cs :=
  unifyLineEnds_eq_self (return_notMem_unifyLineEnds cs)

end SyntaxBridge.Text
