import SyntaxBridge.Text.Blank

/-!
# Blocks of text

Generated source is a sequence of blocks with one empty line between neighbours. A writer collects
text until the block is ended; line feeds at the end of a block are dropped, and a block of
nothing else is no block.
-/

namespace SyntaxBridge.Swift

/-- The blocks that have been ended, and what has been written of the one that has not. -/
structure BlockWriter where
  /-- The blocks that have been ended, in order. -/
  blocks : List String := []
  /-- The texts written since, in order. -/
  pending : List String := []
  deriving DecidableEq, Repr

namespace BlockWriter

/-- The text of the block that has not been ended. -/
def pendingText (writer : BlockWriter) : String :=
  String.join writer.pending

/-- Write a text. -/
def write (writer : BlockWriter) (text : String) : BlockWriter :=
  { writer with pending := writer.pending ++ [text] }

/-- Write a line. -/
def line (writer : BlockWriter) (text : String := "") : BlockWriter :=
  (writer.write text).write "\n"

/-- End the block. -/
def endBlock (writer : BlockWriter) : BlockWriter :=
  let text := Text.dropEndWhile (· == '\n') writer.pendingText.toList
  if text.isEmpty then { writer with pending := [] }
  else { blocks := writer.blocks ++ [String.ofList text], pending := [] }

/-- The blocks with an empty line between neighbours. The block being written must have been
ended. -/
def value (writer : BlockWriter) : String :=
  "\n\n".intercalate writer.blocks

/-- A step of writing. -/
inductive Step where
  /-- Write a text. -/
  | write (text : String)
  /-- Write a line. -/
  | line (text : String := "")
  /-- End the block. -/
  | endBlock
  /-- Go into a block that stands apart from what was written before. -/
  | enter
  /-- Leave a block that stands apart from what is written later. -/
  | leave
  /-- Ask for the text of all blocks. -/
  | value
  deriving DecidableEq, Repr

/-- Take a step. The writer tells the text of all blocks if it is asked for it, and ends the block
being written before. -/
def step (writer : BlockWriter) : Step → BlockWriter × Option String
  | .write text => (writer.write text, none)
  | .line text => (writer.line text, none)
  | .endBlock | .enter | .leave => (writer.endBlock, none)
  | .value => (writer.endBlock, some writer.endBlock.value)

/-- Take some steps. There is an entry for each: the writer after it, and what it told. -/
def trace (writer : BlockWriter) : List Step → List (BlockWriter × Option String)
  | [] => []
  | step :: steps => writer.step step :: (writer.step step).1.trace steps

/-- Write a block of lines and end it. -/
def block (writer : BlockWriter) (lines : List String) : BlockWriter :=
  (lines.foldl (fun writer text => writer.line text) writer).endBlock

end BlockWriter

/-- The text of a sequence of blocks, each given by its lines. -/
def renderBlocks (blocks : List (List String)) : String :=
  (blocks.foldl BlockWriter.block {}).value

end SyntaxBridge.Swift
