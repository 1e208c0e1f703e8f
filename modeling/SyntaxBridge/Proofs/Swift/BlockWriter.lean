import SyntaxBridge.Proofs.Swift.Block

/-!
# What a block writer keeps

A writer may be told anything in any order: to write, to end the block, to go into a block that
stands apart and to leave it, to tell all blocks. No step loses a character other than a line feed
(`letters_held_step`), leaves a block that is empty or ends in a line feed (`isNormal_step`), or
looks at the blocks that are there already (`step_behind`). What holds of a whole sequence of steps
follows by induction (`keepsBlocks`).
-/

namespace SyntaxBridge.Swift

open Text

/-- The characters of a text other than line feeds. -/
def letters (text : List Char) : List Char :=
  text.filter (· != '\n')

/-- A text that is not empty and does not end in a line feed. -/
structure IsNormal (block : String) : Prop where
  ne_empty : block ≠ ""
  getLast?_ne : block.toList.getLast? ≠ some '\n'

/-! ## Ending a block -/

theorem letters_append (front back : List Char) :
    letters (front ++ back) = letters front ++ letters back :=
  List.filter_append front back

/-- What is kept of a text is the text without line feeds at its end. -/
theorem exists_eq_keptText?_append (text : String) :
    ∃ back, letters back = [] ∧ text.toList = ((keptText? text).getD "").toList ++ back := by
  obtain ⟨back, hback, htext⟩ := exists_eq_dropEndWhile_append (· == '\n') text.toList
  have hnone : letters back = [] := by
    refine List.filter_eq_nil_iff.mpr fun c hc => ?_
    simpa using hback c hc
  refine ⟨back, hnone, ?_⟩
  rw [keptText?]
  split
  next hempty =>
    rw [List.isEmpty_iff.mp hempty] at htext
    exact htext
  next => rw [Option.getD_some, String.toList_ofList, ← htext]

/-- Only line feeds are dropped at the end of a text. -/
theorem letters_keptText? (text : String) :
    letters ((keptText? text).toList.flatMap String.toList) = letters text.toList := by
  obtain ⟨back, hback, htext⟩ := exists_eq_keptText?_append text
  rw [htext, letters_append, hback, List.append_nil]
  cases keptText? text <;> simp

/-- What is kept of a text is not empty and does not end in a line feed. -/
theorem isNormal_of_keptText? {text block : String} (h : keptText? text = some block) :
    IsNormal block := by
  rw [keptText?] at h
  split at h
  next => cases h
  next hne =>
    obtain rfl : String.ofList _ = block := Option.some.inj h
    refine ⟨fun hempty => hne ?_, fun hlast => ?_⟩
    · rw [String.ofList_eq_empty_iff.mp hempty]
      rfl
    · -- The last character that is kept is the first one that is not dropped from the end.
      rw [String.toList_ofList, dropEndWhile, List.getLast?_reverse] at hlast
      have hfirst := List.head?_dropWhile_not (· == '\n') text.toList.reverse
      rw [hlast] at hfirst
      exact absurd hfirst (by decide)

namespace BlockWriter

/-- The texts that a step writes. -/
def Step.texts : Step → List String
  | .write text => [text]
  | .line text => [text, "\n"]
  | .endBlock | .enter | .leave | .value => []

/-- Whether a step ends the block. -/
def Step.endsBlock : Step → Bool
  | .write _ | .line _ => false
  | .endBlock | .enter | .leave | .value => true

/-- All that some steps write. -/
def written (steps : List Step) : List Char :=
  (steps.flatMap Step.texts).flatMap String.toList

/-- All that a writer holds: the blocks, and the texts that are in none yet. -/
def held (writer : BlockWriter) : List Char :=
  writer.blocks.flatMap String.toList ++ writer.pending.flatMap String.toList

/-- What is seen of a writer: the blocks, and the text that is in none yet. -/
def seen (writer : BlockWriter) : List String × String :=
  (writer.blocks, writer.pendingText)

/-- The writer after some steps. -/
def after (writer : BlockWriter) (steps : List Step) : BlockWriter :=
  steps.foldl (fun writer step => (writer.step step).1) writer

/-- The writer as it is behind other blocks. -/
def behind (front : List String) (writer : BlockWriter) : BlockWriter :=
  { writer with blocks := front ++ writer.blocks }

variable {writer other : BlockWriter} {step : Step}

/-! ## One step -/

/-- A step either writes its texts or ends the block. -/
theorem step_eq (writer : BlockWriter) (step : Step) :
    (writer.step step).1 =
      if step.endsBlock then writer.endBlock
      else { writer with pending := writer.pending ++ step.texts } := by
  cases step with
  | line text => simp [BlockWriter.step, line, write, Step.texts, Step.endsBlock]
  | write | endBlock | enter | leave | value => rfl

theorem step_of_endsBlock (h : step.endsBlock = true) (writer : BlockWriter) :
    (writer.step step).1 = writer.endBlock := by
  rw [step_eq, if_pos h]

/-- A step that ends the block writes nothing. -/
theorem texts_of_endsBlock (h : step.endsBlock = true) : step.texts = [] := by
  cases step with
  | write | line => cases h
  | endBlock | enter | leave | value => rfl

/-- Once the block is ended, the writer is a new one behind the blocks that there are. -/
theorem endBlock_eq_behind (writer : BlockWriter) :
    writer.endBlock = behind writer.endBlock.blocks {} := by
  rw [endBlock_eq, behind, List.append_nil]

/-- Ending the block loses no character other than a line feed. -/
theorem letters_held_endBlock (writer : BlockWriter) :
    letters writer.endBlock.held = letters writer.held := by
  rw [endBlock_eq, held, List.flatMap_nil, List.append_nil, List.flatMap_append, letters_append,
    letters_keptText?, pendingText, String.toList_join, ← letters_append]
  rfl

/-- No step loses a character other than a line feed. -/
theorem letters_held_step (writer : BlockWriter) (step : Step) :
    letters (writer.step step).1.held =
      letters writer.held ++ letters (step.texts.flatMap String.toList) := by
  rw [step_eq]
  split
  next hends =>
    rw [letters_held_endBlock, texts_of_endsBlock hends]
    exact (List.append_nil _).symm
  next => simp [held, letters_append]

/-- Every step leaves blocks that are not empty and do not end in a line feed. -/
theorem isNormal_step (h : ∀ block ∈ writer.blocks, IsNormal block) (step : Step) :
    ∀ block ∈ (writer.step step).1.blocks, IsNormal block := by
  rw [step_eq]
  split
  next =>
    rw [endBlock_eq]
    intro block hblock
    rcases List.mem_append.mp hblock with hold | hnew
    · exact h block hold
    · exact isNormal_of_keptText? (Option.mem_toList.mp hnew)
  next => exact h

/-- No step looks at the blocks that are there already. -/
theorem step_behind (front : List String) (writer : BlockWriter) (step : Step) :
    ((writer.behind front).step step).1 = (writer.step step).1.behind front := by
  rw [step_eq, step_eq]
  split
  next => simp [endBlock_eq, behind, pendingText]
  next => rfl

/-- Ending the block does not tell apart how its text was written. -/
theorem endBlock_congr (h : writer.seen = other.seen) : writer.endBlock = other.endBlock := by
  obtain ⟨hblocks, htext⟩ := Prod.mk.inj h
  rw [endBlock_eq, endBlock_eq, hblocks, htext]

/-- Nor does any other step. -/
theorem seen_step (h : writer.seen = other.seen) (step : Step) :
    (writer.step step).map seen id = (other.step step).map seen id := by
  have htold : (writer.step step).2 = (other.step step).2 := by
    cases step with
    | value => rw [BlockWriter.step, BlockWriter.step, endBlock_congr h]
    | write | line | endBlock | enter | leave => rfl
  refine Prod.ext ?_ htold
  rw [Prod.map_fst, Prod.map_fst, step_eq, step_eq]
  split
  next => rw [endBlock_congr h]
  next =>
    obtain ⟨hblocks, htext⟩ := Prod.mk.inj h
    rw [pendingText, pendingText] at htext
    rw [seen, seen, pendingText, pendingText, String.join_append, String.join_append, hblocks,
      htext]

/-! ## Some steps -/

@[simp]
theorem after_nil (writer : BlockWriter) : writer.after [] = writer :=
  rfl

@[simp]
theorem after_cons (writer : BlockWriter) (step : Step) (steps : List Step) :
    writer.after (step :: steps) = (writer.step step).1.after steps :=
  rfl

theorem after_append (writer : BlockWriter) (steps later : List Step) :
    writer.after (steps ++ later) = (writer.after steps).after later :=
  List.foldl_append

theorem after_behind (front : List String) (writer : BlockWriter) (steps : List Step) :
    (writer.behind front).after steps = (writer.after steps).behind front := by
  induction steps generalizing writer with
  | nil => rfl
  | cons step steps ih => rw [after_cons, step_behind, ih, after_cons]

theorem letters_held_after (writer : BlockWriter) (steps : List Step) :
    letters (writer.after steps).held = letters writer.held ++ letters (written steps) := by
  induction steps generalizing writer with
  | nil => exact (List.append_nil _).symm
  | cons step steps ih =>
    rw [after_cons, ih, letters_held_step, List.append_assoc, ← letters_append, written, written,
      List.flatMap_cons, List.flatMap_append]

theorem isNormal_after (h : ∀ block ∈ writer.blocks, IsNormal block) (steps : List Step) :
    ∀ block ∈ (writer.after steps).blocks, IsNormal block := by
  induction steps generalizing writer with
  | nil => exact h
  | cons step steps ih => exact ih (isNormal_step h step)

theorem after_map_write (writer : BlockWriter) (pieces : List String) :
    writer.after (pieces.map .write) = { writer with pending := writer.pending ++ pieces } := by
  induction pieces generalizing writer with
  | nil => simp
  | cons piece pieces ih =>
    rw [List.map_cons, after_cons, ih]
    simp [BlockWriter.step, write]

/-- Nothing that is seen or told later tells apart how the text that is in no block yet was
written. -/
theorem map_seen_trace (h : writer.seen = other.seen) (steps : List Step) :
    (writer.trace steps).map (Prod.map seen id) = (other.trace steps).map (Prod.map seen id) := by
  induction steps generalizing writer other with
  | nil => rfl
  | cons step steps ih =>
    have hstep := seen_step h step
    have hnext : (writer.step step).1.seen = (other.step step).1.seen := congrArg Prod.fst hstep
    rw [trace, trace, List.map_cons, List.map_cons, hstep, ih hnext]

/-- The entries for some steps are followed by those for the steps behind them. -/
theorem trace_append (writer : BlockWriter) (steps later : List Step) :
    writer.trace (steps ++ later) = writer.trace steps ++ (writer.after steps).trace later := by
  induction steps generalizing writer with
  | nil => rfl
  | cons step steps ih => rw [List.cons_append, trace, trace, ih, List.cons_append, after_cons]

theorem length_trace (writer : BlockWriter) (steps : List Step) :
    (writer.trace steps).length = steps.length := by
  induction steps generalizing writer with
  | nil => rfl
  | cons step steps ih => rw [trace, List.length_cons, List.length_cons, ih]

/-! ## The text of all blocks -/

/-- Blocks that do not end in a line feed make a text that does not end in one either. -/
theorem getLast?_value_ne (h : ∀ block ∈ writer.blocks, IsNormal block) :
    writer.value.toList.getLast? ≠ some '\n' := by
  rw [value]
  rcases List.eq_nil_or_concat writer.blocks with hnil | ⟨front, block, hblocks⟩
  · rw [hnil]
    decide
  · rw [List.concat_eq_append] at hblocks
    have hblock : IsNormal block := h block (by simp [hblocks])
    obtain ⟨start, hstart⟩ := exists_toList_intercalate_eq "\n\n" front block
    have hne : block.toList ≠ [] := by simpa using hblock.ne_empty
    rw [hblocks, hstart, List.getLast?_append_of_ne_nil _ hne]
    exact hblock.getLast?_ne

/-- Where nothing is left to be ended, the writer tells its blocks and stays as it is. -/
theorem step_value_of_pending (h : writer.pending = []) :
    writer.step .value = (writer, some writer.value) := by
  have hends : writer.endBlock = writer := by
    rw [endBlock_eq, pendingText, h]
    exact congrArg₂ BlockWriter.mk (List.append_nil _) h.symm
  rw [BlockWriter.step, hends]

/-- What holds of a writer that starts with nothing once it has taken some steps. -/
structure KeepsBlocks (steps : List Step) : Prop where
  /-- What a step does, it does to the writer after the steps before. -/
  entry : ∀ before step later, steps = before ++ step :: later →
    (trace {} steps)[before.length]? = some ((after {} before).step step)
  /-- No block is empty or ends in a line feed. -/
  normal : ∀ block ∈ (after {} steps).blocks, IsNormal block
  /-- Line feeds apart, the blocks and the texts behind them are what was written, in order. -/
  letters_eq : letters (after {} steps).held = letters (written steps)
  /-- What is written before a block is ended is in the blocks that there are then, and what is
  written later is held as by a writer that starts then. -/
  apart : ∀ before step later, steps = before ++ step :: later → step.endsBlock = true →
    (after {} (before ++ [step])).pending = [] ∧
      (after {} steps).blocks = (after {} (before ++ [step])).blocks ++ (after {} later).blocks ∧
      (after {} steps).pending = (after {} later).pending
  /-- Asked for all blocks, the writer tells them with two line feeds between neighbours, and none
  at the end. Asked again, it tells the same and stays as it is. -/
  value : ∃ writer text, (after {} steps).step .value = (writer, some text) ∧
    text = "\n\n".intercalate writer.blocks ∧ text.toList.getLast? ≠ some '\n' ∧
    writer.step .value = (writer, some text)
  /-- It makes no difference to what is seen and told later if a text is written in pieces. -/
  pieces : ∀ pieces later,
    (after {} (steps ++ pieces.map .write)).seen =
        (after {} (steps ++ [.write (String.join pieces)])).seen ∧
      ((after {} (steps ++ pieces.map .write)).trace later).map (Prod.map seen id) =
        ((after {} (steps ++ [.write (String.join pieces)])).trace later).map (Prod.map seen id)

/-- Whatever steps a writer takes, it loses nothing but line feeds and keeps its blocks apart and
normal. -/
theorem keepsBlocks (steps : List Step) : KeepsBlocks steps where
  entry before step later hsteps := by
    rw [hsteps, trace_append, List.getElem?_append_right (Nat.le_of_eq (length_trace _ _)),
      length_trace, Nat.sub_self]
    rfl
  normal := isNormal_after (List.forall_mem_nil _) steps
  letters_eq := letters_held_after {} steps
  apart before step later hsteps hends := by
    -- The blocks that there are when the block is ended stay in front, whatever is written later.
    have hended : after {} (before ++ [step]) = (after {} before).endBlock := by
      rw [after_append, after_cons, after_nil, step_of_endsBlock hends]
    have hlater : after {} steps = (after {} later).behind (after {} before).endBlock.blocks := by
      rw [hsteps, after_append, after_cons, step_of_endsBlock hends, ← after_behind,
        ← endBlock_eq_behind]
    rw [hended, hlater]
    exact ⟨by rw [endBlock_eq], rfl, rfl⟩
  value := by
    have hpending : (after {} steps).endBlock.pending = [] := by rw [endBlock_eq]
    have hnormal : ∀ block ∈ (after {} steps).endBlock.blocks, IsNormal block :=
      isNormal_step (isNormal_after (List.forall_mem_nil _) steps) .endBlock
    exact ⟨_, _, rfl, rfl, getLast?_value_ne hnormal, step_value_of_pending hpending⟩
  pieces pieces later := by
    have hseen : (after {} (steps ++ pieces.map .write)).seen =
        (after {} (steps ++ [.write (String.join pieces)])).seen := by
      rw [after_append, after_map_write, after_append]
      simp [seen, pendingText, BlockWriter.step, write]
    exact ⟨hseen, map_seen_trace hseen later⟩

/-- A block apart that nothing is written in is none, nor do line feeds at its end count. -/
example :
    (trace {} [.write "head", .enter, .leave, .enter, .line "body", .line, .leave, .write "tail",
      .value]).getLast?.bind (·.2) = some "head\n\nbody\n\ntail" := by
  decide +kernel

end BlockWriter

end SyntaxBridge.Swift
