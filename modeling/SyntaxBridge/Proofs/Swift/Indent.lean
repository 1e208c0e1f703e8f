import SyntaxBridge.Proofs.Text.Splitting
import SyntaxBridge.Swift.Indent

/-!
# Indentation as a normal form

Indenting a text places each of its lines at a level that depends on the lines before it, white
space around them aside. `placeLines` are the lines so placed, and the indented text is these lines
joined again (`prettyChars_eq`). Placing a line neither changes what is left of it after trimming
nor the depth behind it, so a text that was indented before is indented as if it had not been.

The main statement is `pretty_normalForm`: how a text was indented is forgotten, the result ends in
a line feed, and its lines are those of the text up to white space around them.
-/

namespace SyntaxBridge.Swift

open Text

variable {width width' depth depth' : Int} {line : List Char} {lines : List (List Char)}

/-! ## Placing lines -/

/-- A line placed at a depth, without the line feed that ends it. -/
def placeLine (width depth : Int) (line : List Char) : List Char :=
  if (trim line).isEmpty then []
  else indentation (lineLevel depth (trim line)) width ++ trim line

/-- Lines placed one after the other from a depth on. -/
def placeLines (width depth : Int) : List (List Char) → List (List Char)
  | [] => []
  | line :: lines => placeLine width depth line :: placeLines width (depthAfter depth line) lines

/-- A line is written as it is placed. -/
theorem indentLine_eq (width depth : Int) (line : List Char) :
    indentLine width depth line = placeLine width depth line ++ ['\n'] := by
  rw [indentLine, placeLine]
  split <;> rfl

/-- Nothing but spaces stands in front of a line. -/
theorem eq_space_of_mem_indentation {c : Char} (h : c ∈ indentation depth width) : c = ' ' :=
  List.eq_of_mem_replicate h

/-- A placed line is still the same after trimming. -/
@[simp]
theorem trim_placeLine (width depth : Int) (line : List Char) :
    trim (placeLine width depth line) = trim line := by
  rw [placeLine]
  split
  next hempty =>
    rw [List.isEmpty_iff.mp hempty]
    rfl
  next =>
    have hspaces : allBlank (indentation (lineLevel depth (trim line)) width) = true :=
      List.all_eq_true.mpr fun c hc => by
        rw [eq_space_of_mem_indentation hc]
        rfl
    simpa using trim_append hspaces (isBare_trim line) (rfl : allBlank [] = true)

/-- A line placed before is placed as if it had not been. -/
@[simp]
theorem placeLine_placeLine : placeLine width' depth' (placeLine width depth line) =
    placeLine width' depth' line := by
  rw [placeLine, trim_placeLine, ← placeLine]

/-- The depth behind a line does not depend on where it was placed. -/
@[simp]
theorem depthAfter_placeLine :
    depthAfter depth' (placeLine width depth line) = depthAfter depth' line := by
  rw [depthAfter, trim_placeLine, ← depthAfter]

/-- A line without a line feed is placed without one. -/
theorem lineFeed_notMem_placeLine (h : '\n' ∉ line) : '\n' ∉ placeLine width depth line := by
  rw [placeLine]
  split
  · exact List.not_mem_nil
  · rw [List.mem_append, not_or]
    refine ⟨fun hmem => ?_, fun hmem => h ((trim_sublist line).subset hmem)⟩
    exact absurd (eq_space_of_mem_indentation hmem) (by decide)

/-- Lines placed before are placed as if they had not been, whatever depth they were placed from. -/
theorem placeLines_placeLines (width width' depth depth' : Int) (lines : List (List Char)) :
    placeLines width' depth' (placeLines width depth lines) = placeLines width' depth' lines := by
  -- Both passes change their depth by the same amount at each line, but from starts of their own.
  induction lines generalizing depth depth' with
  | nil => rfl
  | cons line lines ih =>
    rw [placeLines, placeLines, placeLine_placeLine, depthAfter_placeLine, ih, ← placeLines]

/-- Placed lines are still the same after trimming. -/
theorem map_trim_placeLines (width depth : Int) (lines : List (List Char)) :
    (placeLines width depth lines).map trim = lines.map trim := by
  induction lines generalizing depth with
  | nil => rfl
  | cons line lines ih => rw [placeLines, List.map_cons, List.map_cons, trim_placeLine, ih]

/-- Lines are placed one by one, so there are as many as before. -/
theorem placeLines_eq_nil_iff : placeLines width depth lines = [] ↔ lines = [] := by
  cases lines <;> simp [placeLines]

/-- Lines in front are placed in front, and only the depth behind them matters for the others. -/
theorem placeLines_append (width depth : Int) (front back : List (List Char)) :
    placeLines width depth (front ++ back) =
      placeLines width depth front ++ placeLines width (front.foldl depthAfter depth) back := by
  induction front generalizing depth with
  | nil => rfl
  | cons line front ih => rw [List.cons_append, placeLines, placeLines, ih]; rfl

/-- Lines without line feeds are placed without any. -/
theorem lineFeed_notMem_of_mem_placeLines (h : ∀ line ∈ lines, '\n' ∉ line) :
    ∀ line ∈ placeLines width depth lines, '\n' ∉ line := by
  induction lines generalizing depth with
  | nil => exact List.forall_mem_nil _
  | cons line lines ih =>
    rw [List.forall_mem_cons] at h
    exact List.forall_mem_cons.mpr ⟨lineFeed_notMem_placeLine h.1, ih h.2⟩

/-- An empty line stays where it is. -/
theorem placeLines_append_empty (width depth : Int) (lines : List (List Char)) :
    placeLines width depth (lines ++ [[]]) = placeLines width depth lines ++ [[]] :=
  placeLines_append width depth lines [[]]

/-! ## The indented text -/

/-- Lines are written one after the other, each with a line feed behind it. -/
theorem indentLines_eq (width depth : Int) (lines : List (List Char)) :
    indentLines width depth lines = ['\n'].intercalate (placeLines width depth lines ++ [[]]) := by
  induction lines generalizing depth with
  | nil => rfl
  | cons line lines ih =>
    rw [indentLines, placeLines, List.cons_append, List.intercalate_cons_of_ne_nil (by simp),
      indentLine_eq, ih]

/-- Lines joined with line feeds end in one if the last of them is empty. -/
theorem intercalate_append_empty (hne : lines ≠ []) :
    ['\n'].intercalate (lines ++ [[]]) = ['\n'].intercalate lines ++ ['\n'] := by
  rw [intercalate_append _ hne (List.cons_ne_nil _ _), List.intercalate_singleton, List.append_nil]

/-- The indented text is its placed lines, joined with line feeds. -/
theorem prettyChars_eq (code : List Char) (width : Int) :
    prettyChars code width = ['\n'].intercalate (placeLines width 0 (endedLines code)) := by
  rw [prettyChars, indentLines_eq, endedLines]
  have hne : placeLines width 0 (splitOn '\n' code) ≠ [] :=
    placeLines_eq_nil_iff.not.mpr (splitOn_ne_nil _ _)
  split
  · -- The writer ended the empty part behind the last line feed, and that line feed is taken back.
    rw [intercalate_append_empty hne, List.dropLast_concat, List.append_nil]
  · rw [placeLines_append_empty]

/-- The indented text ends in a line feed. -/
theorem getLast?_prettyChars (code : List Char) (width : Int) :
    (prettyChars code width).getLast? = some '\n' := by
  obtain ⟨lines, hne, hlines⟩ := exists_endedLines code
  rw [prettyChars_eq, hlines, placeLines_append_empty,
    intercalate_append_empty (placeLines_eq_nil_iff.not.mpr hne), List.getLast?_concat]

/-- The lines of the indented text are those of the text, placed. -/
theorem splitOn_prettyChars (code : List Char) (width : Int) :
    splitOn '\n' (prettyChars code width) = placeLines width 0 (endedLines code) := by
  obtain ⟨lines, _, hlines⟩ := exists_endedLines code
  rw [prettyChars_eq]
  refine splitOn_intercalate_lineFeed (placeLines_eq_nil_iff.not.mpr ?_) ?_
  · simp [hlines]
  · exact lineFeed_notMem_of_mem_placeLines fun _ => lineFeed_notMem_of_mem_endedLines

/-- Indenting forgets how a text was indented. -/
theorem prettyChars_prettyChars (code : List Char) (width width' : Int) :
    prettyChars (prettyChars code width) width' = prettyChars code width' := by
  rw [prettyChars_eq, endedLines_of_getLast? (getLast?_prettyChars code width),
    splitOn_prettyChars, placeLines_placeLines, ← prettyChars_eq]

/-- Indenting computes a normal form, and changes nothing but the white space around lines: what was
indented before is indented as if it had not been, the result ends in a line feed, and its lines are
those of the source after trimming, with an empty one behind them unless the source ends in a line
feed. -/
theorem pretty_normalForm (code : String) (width width' : Int) :
    pretty (pretty code width) width' = pretty code width' ∧
      (pretty code width).toList.getLast? = some '\n' ∧
      (splitOn '\n' (pretty code width).toList).map trim =
        (splitOn '\n' code.toList).map trim ++
          if code.toList.getLast? = some '\n' then [] else [[]] := by
  simp only [pretty, String.toList_ofList]
  refine ⟨?_, getLast?_prettyChars _ _, ?_⟩
  · rw [prettyChars_prettyChars]
  · rw [splitOn_prettyChars, map_trim_placeLines, endedLines, List.map_append]
    split <;> rfl

end SyntaxBridge.Swift
