import Mathlib.Data.List.Forall2
import SyntaxBridge.Proofs.Swift.Block
import SyntaxBridge.Proofs.Swift.Nesting

/-!
# Indented blocks

A source is written block by block, and then indented as a whole. If every block is code of its own,
the depth is zero again behind each of them, so the blocks are indented as if each stood alone
(`placeLines_intercalate`), and all that holds of indented code holds of the source
(`wellIndented_pretty`).
-/

namespace SyntaxBridge.Swift

open Text

/-- Lines of code, each of which is written as one line. -/
structure IsSource (lines : List String) : Prop where
  isCode : IsCode (lines.map String.toList)
  lineFeed_notMem : ∀ line ∈ lines, '\n' ∉ line.toList

/-- A block of a source: lines of code, the last of which is not empty. -/
structure IsBlock (block : List String) : Prop extends IsSource block where
  last : ∃ last, block.getLast? = some last ∧ last ≠ ""

/-- A text is the indented source of blocks. Its lines are those of the text cut at line feeds, with
the empty one behind the last line feed. -/
structure WellIndented (blocks : List (List String)) (text : String) : Prop where
  /-- No line, and no other place between two lines, is at a depth below zero. -/
  depth_nonneg : ∀ before after, splitOn '\n' text.toList = before ++ after →
    0 ≤ before.foldl depthAfter 0
  /-- The text ends at depth zero. -/
  depth_eq_zero : (splitOn '\n' text.toList).foldl depthAfter 0 = 0
  /-- The lines are those of the blocks up to white space around them, with an empty line between
  neighbours, and the first line of each block starts at the first column. -/
  written : blocks ≠ [] → ∃ written,
    splitOn '\n' text.toList = [[]].intercalate written ++ [[]] ∧
      List.Forall₂ (fun block lines => lines.map trim = block.map (trim ·.toList) ∧
        ∀ first ∈ lines.head?, margin first = 0) blocks written
  /-- The lines are aligned with those that they belong to. -/
  aligned : AllAligned (splitOn '\n' text.toList)

/-! ## Code in parts -/

/-- Code in parts is code. -/
theorem IsCode.append {first second : List (List Char)} (hfirst : IsCode first)
    (hsecond : IsCode second) : IsCode (first ++ second) := by
  induction hfirst with
  | nil => exact hsecond
  | line hline _ ih => exact .line hline ih
  | @block head front closing body lines hhead hfront hlabel hclosing hswitch henum hbody _ _ ih =>
    have hassoc : head :: (body ++ closing :: lines) ++ second =
        head :: (body ++ closing :: (lines ++ second)) := by simp
    rw [hassoc]
    exact .block hhead hfront hlabel hclosing hswitch henum hbody ih

/-- An empty line is code. -/
theorem isCode_empty : IsCode [[]] :=
  .line (balanced_of_forall (List.forall_mem_nil _)) .nil

variable {codes : List (List (List Char))}

/-- Code with empty lines between its parts is code. -/
theorem isCode_intercalate (h : ∀ code ∈ codes, IsCode code) : IsCode ([[]].intercalate codes) := by
  induction codes with
  | nil => exact .nil
  | cons code codes ih =>
    rw [List.forall_mem_cons] at h
    cases codes with
    | nil => simpa using h.1
    | cons next codes =>
      rw [List.intercalate_cons_cons]
      exact (h.1.append isCode_empty).append (ih h.2)

/-- Each part of code is indented as if it stood alone. -/
theorem placeLines_intercalate (h : ∀ code ∈ codes, IsCode code) (width : Int) :
    placeLines width 0 ([[]].intercalate codes) =
      [[]].intercalate (codes.map (placeLines width 0)) := by
  induction codes with
  | nil => rfl
  | cons code codes ih =>
    rw [List.forall_mem_cons] at h
    cases codes with
    | nil => simp
    | cons next codes =>
      have hrest := ih h.2
      rw [List.map_cons] at hrest
      rw [List.intercalate_cons_cons, placeLines_append, (h.1.append isCode_empty).foldl_depthAfter,
        hrest, placeLines_append_empty, List.map_cons, List.map_cons, List.intercalate_cons_cons]

/-- The first line of code that is indented from depth zero starts at the first column. -/
theorem margin_head?_placeLines {lines : List (List Char)} {first : List Char}
    (h : first ∈ (placeLines 4 0 lines).head?) : margin first = 0 := by
  cases lines with
  | nil => cases h
  | cons line lines =>
    obtain rfl : placeLine 4 0 line = first := Option.some.inj h
    by_cases hempty : trim line = []
    · rw [placeLine, hempty]
      rfl
    · -- The level of the line is zero or below, and then there are no spaces.
      rw [margin_placeLine hempty, lineLevel]
      split <;> split <;> decide

/-! ## Blocks -/

variable {blocks : List (List String)}

/-- A block of code is written line by line. -/
theorem IsBlock.isWritten {block : List String} (h : IsBlock block) : IsWritten block where
  lineFeed_notMem := h.lineFeed_notMem
  last := h.last

/-- The lines of a source of blocks, once the last one is ended. -/
theorem endedLines_renderBlocks (h : ∀ block ∈ blocks, IsBlock block) (hne : blocks ≠ []) :
    endedLines (renderBlocks blocks).toList =
      [[]].intercalate (blocks.map (·.map String.toList)) ++ [[]] := by
  have hwritten : ∀ block ∈ blocks, IsWritten block := fun block hblock =>
    (h block hblock).isWritten
  have hlines := splitOn_renderBlocks hwritten hne
  obtain ⟨lines, last, heq, hlast⟩ := exists_intercalate_eq_append hwritten hne
  have hend : (renderBlocks blocks).toList.getLast? ≠ some '\n' := by
    intro hend
    -- Then the last line would be the empty one behind that line feed.
    obtain ⟨init, hinit⟩ := List.getLast?_eq_some_iff.mp hend
    rw [hinit, splitOn_append_cons, heq] at hlines
    exact hlast (List.cons_eq_cons.mp (List.append_inj' hlines rfl).2).1.symm
  rw [endedLines, hlines, if_neg hend]

/-- The lines of an indented source of blocks. -/
theorem splitOn_pretty_renderBlocks (h : ∀ block ∈ blocks, IsBlock block) (hne : blocks ≠ []) :
    splitOn '\n' (pretty (renderBlocks blocks)).toList =
      [[]].intercalate (blocks.map fun block => placeLines 4 0 (block.map String.toList)) ++
        [[]] := by
  have hcodes : ∀ code ∈ blocks.map (·.map String.toList), IsCode code := by
    intro code hcode
    obtain ⟨block, hblock, rfl⟩ := List.mem_map.mp hcode
    exact (h block hblock).isCode
  rw [pretty, String.toList_ofList, splitOn_prettyChars, endedLines_renderBlocks h hne,
    placeLines_append_empty, placeLines_intercalate hcodes, List.map_map]
  rfl

/-- The lines of an indented source of blocks are code, indented from depth zero. -/
theorem exists_isCode (h : ∀ block ∈ blocks, IsBlock block) :
    ∃ lines, IsCode lines ∧
      splitOn '\n' (pretty (renderBlocks blocks)).toList = placeLines 4 0 lines := by
  refine ⟨endedLines (renderBlocks blocks).toList, ?_, ?_⟩
  · by_cases hne : blocks = []
    -- A source without blocks is empty, and the indenter ends its only line.
    · rw [hne]
      exact isCode_empty.append isCode_empty
    · rw [endedLines_renderBlocks h hne]
      refine (isCode_intercalate fun code hcode => ?_).append isCode_empty
      obtain ⟨block, hblock, rfl⟩ := List.mem_map.mp hcode
      exact (h block hblock).isCode
  · rw [pretty, String.toList_ofList, splitOn_prettyChars]

/-- The indented source of blocks of code is well indented. -/
theorem wellIndented_pretty (h : ∀ block ∈ blocks, IsBlock block) :
    WellIndented blocks (pretty (renderBlocks blocks)) := by
  obtain ⟨lines, hcode, hlines⟩ := exists_isCode h
  have hbalanced := hcode.balanced 4 0
  refine ⟨?_, ?_, ?_, ?_⟩
  · intro before after hparts
    rw [hlines] at hparts
    rw [foldl_depthAfter, Int.zero_add]
    refine hbalanced.nonneg before.flatten ⟨after.flatten, ?_⟩
    rw [hparts, List.flatten_append]
  · rw [hlines, foldl_depthAfter, hbalanced.braceChange_eq]
    rfl
  · intro hne
    refine ⟨_, splitOn_pretty_renderBlocks h hne, ?_⟩
    rw [List.forall₂_map_right_iff]
    refine List.forall₂_same.mpr fun block _ => ⟨?_, fun first => margin_head?_placeLines⟩
    rw [map_trim_placeLines, List.map_map]
    rfl
  · rw [hlines]
    exact hcode.aligned (Int.le_refl 0)

end SyntaxBridge.Swift
