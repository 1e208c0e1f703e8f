import SyntaxBridge.Proofs.Grammar.Relocation.Reading
import SyntaxBridge.Proofs.Text.Lines

/-!
# Numbered lines

A grammar is read as a list of numbered lines. `readLines` reads such a list, and it reads the parts
of a list one after the other (`readLines_append`). Lines that are numbered anew give the relocated
rules (`readLines_map`).
-/

namespace SyntaxBridge

open Outcome

/-- Lines that are not blank, with their numbers from a given number on. -/
def numberFrom (start : Nat) (lines : List (List Char)) : List (String × Nat) :=
  (lines.zipIdx start).filterMap fun (line, number) =>
    if Text.allBlank line then none else some (String.ofList line, number)

/-- The rules that numbered lines declare. -/
def readLines (lines : List (String × Nat)) : Except GrammarError (List Rule) :=
  List.flatten <$> lines.mapM fun (line, number) => Parser.parseLine line (.number number)

theorem declaredRules_eq_readLines (text : String) :
    declaredRules text = readLines (numberFrom 1 (Text.splitLines text.toList)) := rfl

theorem numberFrom_append (start : Nat) (lines others : List (List Char)) :
    numberFrom start (lines ++ others) =
      numberFrom start lines ++ numberFrom (start + lines.length) others := by
  rw [numberFrom, List.zipIdx_append, List.filterMap_append]
  rfl

/-- Counting from the next number adds one to each number. -/
theorem numberFrom_succ (start : Nat) (lines : List (List Char)) :
    numberFrom (start + 1) lines =
      (numberFrom start lines).map fun entry => (entry.1, entry.2 + 1) := by
  rw [numberFrom, List.zipIdx_succ, List.filterMap_map, numberFrom, List.map_filterMap]
  refine List.filterMap_congr fun entry _ => ?_
  by_cases h : Text.allBlank entry.1 <;> simp [h]

/-- Counting from a later number adds as much to each number. -/
theorem numberFrom_add (start count : Nat) (lines : List (List Char)) :
    numberFrom (start + count) lines =
      (numberFrom start lines).map fun entry => (entry.1, entry.2 + count) := by
  induction count with
  | zero => simp
  | succ count ih =>
    rw [← Nat.add_assoc, numberFrom_succ, ih, List.map_map]
    rfl

/-- A later line has a greater number. -/
theorem pairwise_lt_numberFrom (start : Nat) (lines : List (List Char)) :
    (numberFrom start lines).Pairwise fun entry later => entry.2 < later.2 := by
  have hindices : (lines.zipIdx start).Pairwise fun entry later => entry.2 < later.2 := by
    rw [← List.pairwise_map (f := Prod.snd) (R := (· < ·)), List.zipIdx_map_snd]
    exact List.pairwise_lt_range'
  refine hindices.filterMap _ fun entry later hlt kept hkept laterKept hlaterKept => ?_
  -- A line that is kept is kept with its number.
  simp only [Option.ite_none_left_eq_some, Option.some.injEq] at hkept hlaterKept
  obtain ⟨_, rfl⟩ := hkept
  obtain ⟨_, rfl⟩ := hlaterKept
  exact hlt

/-- The numbers of lines lie in a row. -/
theorem le_and_lt_of_mem_numberFrom {start : Nat} {lines : List (List Char)} {entry : String × Nat}
    (h : entry ∈ numberFrom start lines) :
    start ≤ entry.2 ∧ entry.2 < start + lines.length := by
  obtain ⟨⟨line, number⟩, hmem, hsome⟩ := List.mem_filterMap.mp h
  have hnumber : entry.2 = number := by
    dsimp only at hsome
    split at hsome
    · cases hsome
    · cases hsome
      rfl
  have hindex := List.mem_zipIdx hmem
  omega

/-- A list of lines is read part by part. -/
theorem readLines_append (lines others : List (String × Nat)) :
    readLines (lines ++ others) = do
      let rules ← readLines lines
      let more ← readLines others
      return rules ++ more := by
  rw [readLines, List.mapM_append, readLines, readLines]
  cases lines.mapM fun entry => Parser.parseLine entry.1 (.number entry.2) with
  | error e => rfl
  | ok rules =>
    cases others.mapM fun entry => Parser.parseLine entry.1 (.number entry.2) with
    | error e => rfl
    | ok more => exact congrArg Except.ok List.flatten_append

/-- Lines that are numbered anew give the same rules on their new lines. -/
theorem readLines_map {f : LineNumber → LineNumber} {g : Nat → Nat}
    (h : ∀ n : Nat, f (.number n) = .number (g n)) (lines : List (String × Nat)) :
    readLines (lines.map fun entry => (entry.1, g entry.2)) =
      relocateRules f (readLines lines) := by
  have hlines : (lines.map fun entry => (entry.1, g entry.2)).mapM (fun entry =>
      Parser.parseLine entry.1 (.number entry.2)) =
      mapBoth (GrammarError.relocate f) (List.map (List.map (Rule.relocate f)))
        (lines.mapM fun entry => Parser.parseLine entry.1 (.number entry.2)) :=
    mapM_mapBoth lines fun entry _ => by rw [← h, Parser.parseLine_relocate]; rfl
  -- Relocating the rules of each line and then joining them is joining them first.
  rw [readLines, readLines]
  refine (congrArg (List.flatten <$> ·) hlines).trans ?_
  cases lines.mapM fun entry => Parser.parseLine entry.1 (.number entry.2) with
  | error e => rfl
  | ok rules => exact congrArg Except.ok List.map_flatten.symm

end SyntaxBridge
