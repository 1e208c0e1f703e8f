import Mathlib.Data.List.Basic
import SyntaxBridge.Proofs.Text.Splitting
import SyntaxBridge.Swift.BlockWriter

/-!
# The blocks of a source

A source is the texts of its blocks, with an empty line between neighbours (`renderBlocks_eq`). The
text of a block that ends in a line of its own is the lines with line feeds between them, so a
source holds the block as it was given (`holdsBlock_of_mem`). If that is so of all blocks, the lines
of the source are those of the blocks (`splitOn_renderBlocks`, `writtenLines_renderBlocks`).
-/

namespace SyntaxBridge.Swift

open Text

/-- A text without the line feeds at its end, if anything is left. -/
def keptText? (text : String) : Option String :=
  let kept := Text.dropEndWhile (· == '\n') text.toList
  if kept.isEmpty then none else some (String.ofList kept)

/-- The text of a block without the line feeds at its end, if anything is left. -/
def blockText? (lines : List String) : Option String :=
  let text := Text.dropEndWhile (· == '\n') (String.join (lines.map (· ++ "\n"))).toList
  if text.isEmpty then none else some (String.ofList text)

namespace BlockWriter

/-- Writing lines adds them, with a line feed after each, to what was written since the last
block. -/
theorem foldl_line (writer : BlockWriter) (lines : List String) :
    lines.foldl (fun writer text => writer.line text) writer =
      { writer with pending := writer.pending ++ lines.flatMap (fun text => [text, "\n"]) } := by
  induction lines generalizing writer with
  | nil => simp
  | cons text lines ih =>
    rw [List.foldl_cons, ih]
    simp [line, write]

/-- Lines and the line feeds after them make the same text one by one. -/
theorem join_flatMap_lineFeed (lines : List String) :
    String.join (lines.flatMap fun text => [text, "\n"]) = String.join (lines.map (· ++ "\n")) := by
  induction lines with
  | nil => rfl
  | cons text lines ih => simp [ih, String.append_assoc]

/-- Ending the block adds what is kept of the text written since the last one. -/
theorem endBlock_eq (writer : BlockWriter) :
    writer.endBlock = ⟨writer.blocks ++ (keptText? writer.pendingText).toList, []⟩ := by
  rw [endBlock, keptText?]
  split <;> simp

/-- Where nothing is left to be ended, a block adds its text, if it has one. -/
theorem block_eq {writer : BlockWriter} (h : writer.pending = []) (lines : List String) :
    writer.block lines = ⟨writer.blocks ++ (blockText? lines).toList, []⟩ := by
  rw [block, foldl_line, h, List.nil_append, endBlock_eq, pendingText, join_flatMap_lineFeed]
  rfl

/-- A sequence of blocks adds the texts of those that have one. -/
theorem foldl_block {writer : BlockWriter} (h : writer.pending = []) (blocks : List (List String)) :
    blocks.foldl block writer = ⟨writer.blocks ++ blocks.filterMap blockText?, []⟩ := by
  induction blocks generalizing writer with
  | nil => rw [List.foldl_nil, List.filterMap_nil, List.append_nil, ← h]
  | cons lines blocks ih =>
    rw [List.foldl_cons, block_eq h, ih rfl, List.append_assoc]
    cases htext : blockText? lines <;> simp [htext]

end BlockWriter

/-- A source is the texts of its blocks with an empty line between neighbours. -/
theorem renderBlocks_eq (blocks : List (List String)) :
    renderBlocks blocks = "\n\n".intercalate (blocks.filterMap blockText?) := by
  rw [renderBlocks, BlockWriter.foldl_block rfl, BlockWriter.value, List.nil_append]

/-! ## Lines of a block -/

/-- Ending each line is putting line feeds between the lines and one at the end. -/
theorem join_map_append_lineFeed {lines : List String} (h : lines ≠ []) :
    String.join (lines.map (· ++ "\n")) = "\n".intercalate lines ++ "\n" := by
  induction lines with
  | nil => exact absurd rfl h
  | cons line lines ih =>
    cases lines with
    | nil => simp
    | cons next lines =>
      rw [List.map_cons, String.join_cons, ih (List.cons_ne_nil _ _),
        String.intercalate_cons_of_ne_nil (List.cons_ne_nil _ _)]
      simp [String.append_assoc]

/-- Texts that are joined end like the last one. -/
theorem exists_toList_intercalate_eq (sep : String) (init : List String) (last : String) :
    ∃ start, (sep.intercalate (init ++ [last])).toList = start ++ last.toList := by
  cases init with
  | nil => exact ⟨[], by simp⟩
  | cons first init =>
    rw [String.intercalate_append_of_ne_nil (List.cons_ne_nil _ _) (List.cons_ne_nil _ _),
      String.toList_append, String.intercalate_singleton]
    exact ⟨_, rfl⟩

/-- A text that does not end in a line feed is what is left of it with a line feed at its end. -/
theorem dropEndWhile_lineFeed {text : List Char} {c : Char} (hc : c ≠ '\n') :
    Text.dropEndWhile (· == '\n') (text ++ [c] ++ ['\n']) = text ++ [c] := by
  simp [Text.dropEndWhile, hc]

/-- The text of a block whose last line does not end in a line feed is its lines with line feeds
between them. -/
theorem blockText?_eq_some {lines : List String} {last : String} {text : List Char} {c : Char}
    (hlast : lines.getLast? = some last) (htext : last.toList = text ++ [c]) (hc : c ≠ '\n') :
    blockText? lines = some ("\n".intercalate lines) := by
  obtain ⟨init, rfl⟩ := List.getLast?_eq_some_iff.mp hlast
  -- The lines put together end like the last one, so only the line feed after them is cut off.
  obtain ⟨start, hstart⟩ := exists_toList_intercalate_eq "\n" init last
  obtain ⟨front, hfront⟩ : ∃ front, ("\n".intercalate (init ++ [last])).toList = front ++ [c] :=
    ⟨start ++ text, by rw [hstart, htext, List.append_assoc]⟩
  have hne : (String.join ((init ++ [last]).map (· ++ "\n"))).toList = front ++ [c] ++ ['\n'] := by
    rw [join_map_append_lineFeed (by simp), String.toList_append, hfront]
    rfl
  rw [blockText?, hne, dropEndWhile_lineFeed hc, ← hfront, String.ofList_toList]
  simp [hfront]

/-- A source holds lines as a block of their own: they stand in it with line feeds between them, and
with an empty line before and after them unless the source starts or ends there. -/
def HoldsBlock (source : String) (lines : List String) : Prop :=
  ∃ before after : List String,
    source = "\n\n".intercalate (before ++ "\n".intercalate lines :: after)

/-- A source holds each of its blocks that ends in a closing brace. -/
theorem holdsBlock_of_mem {blocks : List (List String)} {lines : List String}
    (hmem : lines ∈ blocks) (hlast : lines.getLast? = some "\x7d") :
    HoldsBlock (renderBlocks blocks) lines := by
  -- A closing brace is no line feed, so the block is written as it is.
  have htext : blockText? lines = some ("\n".intercalate lines) := by
    have hbrace : "\x7d".toList = [] ++ ['\x7d'] := rfl
    exact blockText?_eq_some hlast hbrace (by decide)
  obtain ⟨before, after, rfl⟩ := List.append_of_mem hmem
  refine ⟨before.filterMap blockText?, after.filterMap blockText?, ?_⟩
  rw [renderBlocks_eq, List.filterMap_append, List.filterMap_cons_some htext]

/-! ## Lines of a source -/

/-- A block that is written line by line: no line holds a line feed, and the last one is not
empty. -/
structure IsWritten (block : List String) : Prop where
  lineFeed_notMem : ∀ line ∈ block, '\n' ∉ line.toList
  last : ∃ last, block.getLast? = some last ∧ last ≠ ""

variable {blocks : List (List String)} {codes : List (List (List Char))}

theorem IsWritten.ne_nil {block : List String} (h : IsWritten block) : block ≠ [] := by
  rintro rfl
  obtain ⟨last, hlast, -⟩ := h.last
  cases hlast

/-- A block is written as its lines with line feeds between them. -/
theorem IsWritten.blockText?_eq {block : List String} (h : IsWritten block) :
    blockText? block = some ("\n".intercalate block) := by
  obtain ⟨last, hlast, hne⟩ := h.last
  have hnonempty : last.toList ≠ [] := by simpa using hne
  obtain ⟨text, c, hc⟩ := (List.eq_nil_or_concat last.toList).resolve_left hnonempty
  rw [List.concat_eq_append] at hc
  refine blockText?_eq_some hlast hc ?_
  rintro rfl
  -- The line would end in a line feed, but it holds none.
  refine h.lineFeed_notMem last (List.mem_of_getLast? hlast) ?_
  simp [hc]

/-- Lines that are joined part by part, with an empty line between the parts, are joined at once
with that line among them. -/
theorem intercalate_map_intercalate (h : ∀ code ∈ codes, code ≠ []) :
    ['\n', '\n'].intercalate (codes.map (['\n'].intercalate ·)) =
      ['\n'].intercalate ([[]].intercalate codes) := by
  induction codes with
  | nil => rfl
  | cons code codes ih =>
    rw [List.forall_mem_cons] at h
    cases codes with
    | nil => simp
    | cons next codes =>
      have hrest := ih h.2
      have hne : [[]].intercalate (next :: codes) ≠ [] := by
        cases codes <;> simp [List.intercalate_cons_cons, h.2 next List.mem_cons_self]
      rw [List.map_cons] at hrest
      calc ['\n', '\n'].intercalate ((code :: next :: codes).map (['\n'].intercalate ·))
          = ['\n'].intercalate code ++ ['\n', '\n'] ++
              ['\n'].intercalate ([[]].intercalate (next :: codes)) := by
            rw [List.map_cons, List.map_cons, List.intercalate_cons_cons, hrest]
        _ = ['\n'].intercalate (code ++ ([[]] ++ [[]].intercalate (next :: codes))) := by
            rw [intercalate_append _ h.1 (by simp), List.singleton_append,
              List.intercalate_cons_of_ne_nil hne]
            simp
        _ = ['\n'].intercalate ([[]].intercalate (code :: next :: codes)) := by
            rw [List.intercalate_cons_cons, List.append_assoc]

/-- The lines of code in parts are those of the parts, and the empty ones between them. -/
theorem mem_intercalate_empty {line : List Char} (h : line ∈ [[]].intercalate codes) :
    line = [] ∨ ∃ code ∈ codes, line ∈ code := by
  induction codes with
  | nil => cases h
  | cons code codes ih =>
    cases codes with
    | nil =>
      rw [List.intercalate_singleton] at h
      exact .inr ⟨code, List.mem_cons_self, h⟩
    | cons next codes =>
      rw [List.intercalate_cons_cons, List.append_assoc] at h
      rcases List.mem_append.mp h with h | h
      · exact .inr ⟨code, List.mem_cons_self, h⟩
      rcases List.mem_cons.mp h with h | h
      · exact .inl h
      · exact (ih h).imp_right fun ⟨code, hcode, h⟩ => ⟨code, List.mem_cons_of_mem _ hcode, h⟩

/-- What is read off the lines of code in parts is read off the parts, if nothing is read off an
empty line. -/
theorem filterMap_intercalate_empty {β : Type} {f : List Char → Option β} (h : f [] = none)
    (codes : List (List (List Char))) :
    ([[]].intercalate codes).filterMap f = codes.flatMap (·.filterMap f) := by
  induction codes with
  | nil => rfl
  | cons code codes ih =>
    cases codes with
    | nil => rw [List.intercalate_singleton, List.flatMap_singleton]
    | cons next codes =>
      rw [List.intercalate_cons_cons, List.append_assoc, List.singleton_append,
        List.filterMap_append, List.filterMap_cons_none h, ih]
      rfl

/-- A source of blocks is the lines of all blocks, with an empty line between neighbours, joined
with line feeds. -/
theorem toList_renderBlocks (h : ∀ block ∈ blocks, IsWritten block) :
    (renderBlocks blocks).toList =
      ['\n'].intercalate ([[]].intercalate (blocks.map (·.map String.toList))) := by
  have htexts : blocks.filterMap blockText? = blocks.map ("\n".intercalate ·) := by
    rw [← List.filterMap_eq_map]
    exact List.filterMap_congr fun block hblock => (h block hblock).blockText?_eq
  have hne : ∀ code ∈ blocks.map (·.map String.toList), code ≠ [] := by
    intro code hcode
    obtain ⟨block, hblock, rfl⟩ := List.mem_map.mp hcode
    simpa using (h block hblock).ne_nil
  rw [renderBlocks_eq, htexts, String.toList_intercalate, List.map_map,
    ← intercalate_map_intercalate hne, List.map_map]
  refine congrArg _ (List.map_congr_left fun block _ => ?_)
  exact String.toList_intercalate

/-- The last line of all blocks is not empty. -/
theorem exists_intercalate_eq_append (h : ∀ block ∈ blocks, IsWritten block) (hne : blocks ≠ []) :
    ∃ lines last, [[]].intercalate (blocks.map (·.map String.toList)) = lines ++ [last] ∧
      last ≠ [] := by
  induction blocks with
  | nil => exact absurd rfl hne
  | cons block blocks ih =>
    rw [List.forall_mem_cons] at h
    cases blocks with
    | nil =>
      obtain ⟨last, hlast, hnonempty⟩ := h.1.last
      obtain ⟨init, rfl⟩ := List.getLast?_eq_some_iff.mp hlast
      exact ⟨init.map String.toList, last.toList, by simp, by simpa using hnonempty⟩
    | cons next blocks =>
      obtain ⟨lines, last, heq, hnonempty⟩ := ih h.2 (List.cons_ne_nil _ _)
      rw [List.map_cons] at heq
      refine ⟨block.map String.toList ++ [[]] ++ lines, last, ?_, hnonempty⟩
      rw [List.map_cons, List.map_cons, List.intercalate_cons_cons, heq, List.append_assoc,
        List.append_assoc, List.append_assoc]

/-- The lines of a source of blocks are those of the blocks, with an empty one between
neighbours. -/
theorem splitOn_renderBlocks (h : ∀ block ∈ blocks, IsWritten block) (hne : blocks ≠ []) :
    splitOn '\n' (renderBlocks blocks).toList =
      [[]].intercalate (blocks.map (·.map String.toList)) := by
  obtain ⟨lines, last, heq, -⟩ := exists_intercalate_eq_append h hne
  rw [toList_renderBlocks h]
  refine splitOn_intercalate_lineFeed (by simp [heq]) fun line hline => ?_
  rcases mem_intercalate_empty hline with rfl | ⟨code, hcode, hline⟩
  · exact List.not_mem_nil
  · obtain ⟨block, hblock, rfl⟩ := List.mem_map.mp hcode
    obtain ⟨text, htext, rfl⟩ := List.mem_map.mp hline
    exact (h block hblock).lineFeed_notMem text htext

/-- What is read off the lines of a source of blocks is read off the lines of the blocks, if nothing
is read off an empty line. -/
theorem filterMap_splitOn_renderBlocks {β : Type} {f : List Char → Option β} (hf : f [] = none)
    (h : ∀ block ∈ blocks, IsWritten block) :
    (splitOn '\n' (renderBlocks blocks).toList).filterMap f =
      blocks.flatMap (·.filterMap (f ·.toList)) := by
  by_cases hne : blocks = []
  · -- The source is empty, and so is its only line.
    subst hne
    exact List.filterMap_cons_none hf
  rw [splitOn_renderBlocks h hne, filterMap_intercalate_empty hf, List.flatMap_map]
  simp only [List.filterMap_map, Function.comp_def]

/-- The lines of a text that are not empty. -/
def writtenLines (text : String) : List String :=
  (splitOn '\n' text.toList).filterMap fun line =>
    if line.isEmpty then none else some (String.ofList line)

/-- In a source of blocks, these are the lines of the blocks. -/
theorem writtenLines_renderBlocks (h : ∀ block ∈ blocks, IsWritten block) :
    writtenLines (renderBlocks blocks) = blocks.flatten.filter (· ≠ "") := by
  rw [writtenLines, filterMap_splitOn_renderBlocks rfl h, List.filter_flatten, List.flatMap_def]
  refine congrArg List.flatten (List.map_congr_left fun block _ => ?_)
  rw [← List.filterMap_eq_filter]
  refine List.filterMap_congr fun line _ => ?_
  by_cases hline : line = "" <;> simp [Option.guard, hline]

end SyntaxBridge.Swift
