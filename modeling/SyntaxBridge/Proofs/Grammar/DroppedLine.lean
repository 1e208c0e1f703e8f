import SyntaxBridge.Proofs.Grammar.Numbering
import SyntaxBridge.Proofs.Swift.Relocation

/-!
# Lines that declare nothing

A line that is blank, or that is read without giving a rule, may be put in between the lines of a
grammar. The lines after it are counted one further (`LineNumber.makeRoom`), and this is all that
changes: reading gives the relocated rules (`parseGrammar_insert`), so that the analysis and the
generated files are the same (`agree_of_dropped_line`).
-/

namespace SyntaxBridge

open Outcome

/-- A line after a new one has been put in behind the first lines: those stay, and the later ones
are one further. -/
def LineNumber.makeRoom (first : Nat) (line : LineNumber) : LineNumber :=
  if line.toInt ≤ first then line else number (line.toInt + 1)

theorem LineNumber.makeRoom_of_le {first : Nat} {line : LineNumber} (h : line.toInt ≤ first) :
    line.makeRoom first = line := if_pos h

theorem LineNumber.makeRoom_of_lt {first : Nat} {line : LineNumber} (h : first < line.toInt) :
    line.makeRoom first = .number (line.toInt + 1) := if_neg (Int.not_le.mpr h)

/-- The unknown line stays unknown. -/
theorem LineNumber.makeRoom_unknown (first : Nat) : makeRoom first .unknown = .unknown :=
  makeRoom_of_le (Int.natCast_nonneg first)

/-- A line that no rule comes of: it is blank, or it is read without giving one. -/
def IsDropped (line : String) : Prop :=
  Text.allBlank line.toList = true ∨ Parser.parseLine line = .ok []

/-- What no rule comes of on one line gives no rule on any. -/
theorem parseLine_eq_ok_nil {line : String} (h : Parser.parseLine line = .ok [])
    (number : LineNumber) : Parser.parseLine line number = .ok [] := by
  have hrelocate := Parser.parseLine_relocate (fun _ => number) .unknown line
  rw [h] at hrelocate
  exact hrelocate

/-- A dropped line is read as no rules. -/
theorem readLines_of_isDropped {line : List Char} (h : IsDropped (String.ofList line))
    (number : Nat) : readLines (numberFrom number [line]) = .ok [] := by
  rw [IsDropped, String.toList_ofList] at h
  by_cases hblank : Text.allBlank line = true
  · simp [numberFrom, hblank, readLines, pure, Except.pure]
  · have hparse := parseLine_eq_ok_nil (h.resolve_left hblank) (.number number)
    simp [numberFrom, hblank, readLines, hparse, bind, Except.bind, pure, Except.pure]

/-- Lines that are counted from one keep their numbers up to the first that is put in. -/
theorem map_makeRoom_numberFrom_one (lines : List (List Char)) :
    (numberFrom 1 lines).map (fun entry => (entry.1,
      if entry.2 ≤ lines.length then entry.2 else entry.2 + 1)) = numberFrom 1 lines := by
  refine (List.map_congr_left fun entry hentry => ?_).trans (List.map_id _)
  have hbounds := le_and_lt_of_mem_numberFrom hentry
  rw [if_pos (by omega)]
  rfl

/-- Lines that come after those first ones are counted one further. -/
theorem map_makeRoom_numberFrom_later (first : Nat) (lines : List (List Char)) :
    (numberFrom (1 + first) lines).map (fun entry => (entry.1,
      if entry.2 ≤ first then entry.2 else entry.2 + 1)) = numberFrom (1 + first + 1) lines := by
  rw [numberFrom_succ]
  refine List.map_congr_left fun entry hentry => ?_
  have hbounds := le_and_lt_of_mem_numberFrom hentry
  rw [if_neg (by omega)]

variable {a s b : String}

/-- A dropped line in a text relocates the rules that the text declares. -/
theorem declaredRules_insert (ha : Text.LinesEnded a.toList)
    (hs : ∀ c ∈ s.toList, Text.isLineEnd c = false) (hdropped : IsDropped s) :
    declaredRules (a ++ s ++ "\n" ++ b) =
      relocateRules (.makeRoom (Text.splitLines a.toList).length) (declaredRules (a ++ b)) := by
  have htext : (a ++ s ++ "\n" ++ b).toList = a.toList ++ ((s.toList ++ ['\n']) ++ b.toList) := by
    simp [String.toList_append]
  have hline : Text.LinesEnded (s.toList ++ ['\n']) := .inr ⟨_, rfl⟩
  have hnone (number : Nat) : readLines (numberFrom number [s.toList]) = .ok [] :=
    readLines_of_isDropped (by rwa [String.ofList_toList]) number
  rw [declaredRules_eq_readLines, declaredRules_eq_readLines, htext, String.toList_append,
    Text.splitLines_append ha, Text.splitLines_append hline, Text.splitLines_line hs,
    Text.splitLines_append ha]
  -- There are three runs of lines now, of which the one in the middle is dropped.
  generalize Text.splitLines a.toList = first
  generalize Text.splitLines b.toList = later
  rw [← readLines_map (g := fun n => if n ≤ first.length then n else n + 1), numberFrom_append,
    numberFrom_append, numberFrom_append, List.map_append, map_makeRoom_numberFrom_one,
    map_makeRoom_numberFrom_later, readLines_append, readLines_append, readLines_append, hnone,
    List.length_singleton]
  · cases readLines (numberFrom (1 + first.length + 1) later) <;> rfl
  · intro n
    by_cases hn : n ≤ first.length
    · rw [if_pos hn]
      exact LineNumber.makeRoom_of_le (Int.ofNat_le.mpr hn)
    · rw [if_neg hn]
      exact LineNumber.makeRoom_of_lt (Int.ofNat_lt.mpr (Nat.lt_of_not_le hn))

/-- A dropped line in a text relocates the rules of its grammar, or the error. -/
theorem parseGrammar_insert (ha : Text.LinesEnded a.toList)
    (hs : ∀ c ∈ s.toList, Text.isLineEnd c = false) (hdropped : IsDropped s) :
    parseGrammar (a ++ s ++ "\n" ++ b) =
      relocateRules (.makeRoom (Text.splitLines a.toList).length) (parseGrammar (a ++ b)) := by
  rw [parseGrammar, declaredRules_insert ha hs hdropped]
  refine mapBoth_bind _ fun rules => ?_
  rw [entrypointTypes_relocate]
  refine mapBoth_bind _ fun entrypoints => congrArg Except.ok ?_
  exact injectIdent_relocate _ _ (LineNumber.makeRoom_unknown _)

/-- The error of a text, against that of the text without the line that has been put in behind the
first ones: only a line that comes later differs, and it is one further. -/
structure GrammarError.IsMoved (first : Nat) (e' e : GrammarError) : Prop where
  kind_eq : e'.cause.kind = e.cause.kind
  message_eq : e'.message = e.message
  text_eq : e'.text = e.text
  line_eq_of_le : e.line.toInt ≤ first → e'.line = e.line
  line_eq_of_lt : first < e.line.toInt → e'.line = .number (e.line.toInt + 1)

/-- Rules of which the same comes: they differ in their lines at most, an analysis refuses both
alike or accepts both as the same grammar, and the files of that have the same names and texts. -/
structure SameOutput (rules' rules : List Rule) : Prop where
  rules_eq : rules'.map Rule.withoutLine = rules.map Rule.withoutLine
  analyze_agree : ∀ extra policy, Agree
    (fun (e' e : GrammarError) => e'.cause.kind = e.cause.kind ∧ e'.message = e.message)
    (fun (grammar' grammar : Grammar) => grammar'.same grammar = true ∧
      ∀ module grammarName, Swift.generateSources grammar' module grammarName =
        Swift.generateSources grammar module grammarName)
    (analyze rules' extra policy) (analyze rules extra policy)

/-- Relocated rules give the same output. -/
theorem sameOutput_relocate {f : LineNumber → LineNumber} (hf : f .unknown = .unknown)
    (rules : List Rule) : SameOutput (rules.map (Rule.relocate f)) rules where
  rules_eq := by simp
  analyze_agree := fun extra policy => by
    rw [analyze_relocate _ hf]
    refine agree_mapBoth (fun e _ => ⟨rfl, rfl⟩) (fun grammar _ => ⟨?_, ?_⟩)
    · exact Grammar.same_relocate _ grammar
    · exact fun module grammarName => Swift.generateSources_relocate _ grammar module grammarName

/-- A line that declares nothing has no influence on what is read, analyzed and generated. -/
theorem agree_of_dropped_line (ha : Text.LinesEnded a.toList)
    (hs : ∀ c ∈ s.toList, Text.isLineEnd c = false) (hdropped : IsDropped s) :
    Agree (GrammarError.IsMoved (Text.splitLines a.toList).length) SameOutput
      (parseGrammar (a ++ s ++ "\n" ++ b)) (parseGrammar (a ++ b)) := by
  rw [parseGrammar_insert ha hs hdropped, relocateRules]
  refine agree_mapBoth (fun e _ => ?_) (fun rules _ => ?_)
  · exact ⟨rfl, rfl, rfl, LineNumber.makeRoom_of_le, LineNumber.makeRoom_of_lt⟩
  · exact sameOutput_relocate (LineNumber.makeRoom_unknown _) rules

/-- A discarded rule between two others has no influence. -/
theorem agree_of_discarded_coercion :
    Agree (GrammarError.IsMoved (Text.splitLines "EInt. Exp ::= Integer ;\n".toList).length)
      SameOutput
      (parseGrammar ("EInt. Exp ::= Integer ;\n" ++ "_. Exp ::= Exp1 ;" ++ "\n" ++
        "EAdd. Exp ::= Exp \"+\" Exp1 ;"))
      (parseGrammar ("EInt. Exp ::= Integer ;\n" ++ "EAdd. Exp ::= Exp \"+\" Exp1 ;")) := by
  have hend : "_. Exp ::= Exp1 ;".toList.any Text.isLineEnd = false := by decide
  refine agree_of_dropped_line (.inr ⟨"EInt. Exp ::= Integer ;".toList, by decide⟩) ?_ ?_
  · exact fun c hc => Bool.eq_false_iff.mpr (List.any_eq_false.mp hend c hc)
  · exact .inr (by decide +kernel)

end SyntaxBridge
