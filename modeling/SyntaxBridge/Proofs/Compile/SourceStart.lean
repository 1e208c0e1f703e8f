import SyntaxBridge.Proofs.Compile.Output
import SyntaxBridge.Proofs.Grammar.Ident

/-!
# What sources start with

A source starts with a line that declares nothing, so it is no grammar
(`parseGrammar_ne_ok_of_unifiedText`). The next line starts with the name of the file, so the two
sources of a grammar differ (`exists_sources_eq`).
-/

namespace SyntaxBridge

open Text
open Swift (SourceFile)

variable {module grammarName : String} {grammar : Grammar} {file : SourceFile}
  {sources : List SourceFile}

/-- The line that a source starts with. -/
def firstSourceLine : List Char := ['/', '/', '\n']

/-- A text that starts like a source is no grammar, since its first line declares nothing. -/
theorem parseGrammar_ne_ok_of_firstSourceLine {text : String} {rest : List Char}
    (htext : text.toList = firstSourceLine ++ rest) (rules : List Rule) :
    parseGrammar text ≠ .ok rules := by
  intro h
  obtain ⟨haccepted, -⟩ := eq_injectIdent_of_parseGrammar h
  have hended : LinesEnded firstSourceLine := .inr ⟨['/', '/'], rfl⟩
  have hline : (splitLines text.toList)[0]? = some "//".toList := by
    rw [htext, splitLines_append hended]
    rfl
  -- It is not blank, and no semicolon ends it.
  have hrejected : Parser.parseLine "//" (.number 1) =
      .error { cause := .unterminatedRule, text := "//", line := .number 1 } := by
    decide +kernel
  exact haccepted 1 _ ⟨"//", ⟨by decide, hline, by decide⟩, hrejected⟩

/-- A header goes on with the name of the file after that line. -/
theorem exists_toList_header_eq (name grammarName : String) :
    ∃ rest, (Swift.header name grammarName).toList =
      firstSourceLine ++ ("//  ".toList ++ (name.toList ++ '\n' :: rest)) := by
  have hstart : "//".toList ++ "\n".toList = firstSourceLine := by decide +kernel
  have hend : "\n".toList = ['\n'] := by decide +kernel
  rw [Swift.header, String.intercalate_cons_cons, String.toList_append, String.toList_append,
    hstart, String.intercalate_cons_cons, String.toList_append, String.toList_append,
    String.toList_append, hend, List.append_assoc, List.append_assoc, List.singleton_append]
  exact ⟨_, rfl⟩

/-- So does what is read of a source. -/
theorem exists_toList_unifiedText_eq (name grammarName code : String) :
    ∃ rest, (SourceFile.ofCode name grammarName code).unifiedText.toList =
      firstSourceLine ++ ("//  ".toList ++ unifyLineEnds (name.toList ++ '\n' :: rest)) := by
  obtain ⟨rest, hrest⟩ := exists_toList_header_eq name grammarName
  have hmark : "//  ".toList = ['/', '/', ' ', ' '] := by decide +kernel
  have hunify (cs : List Char) : unifyLineEnds (firstSourceLine ++ ("//  ".toList ++ cs)) =
      firstSourceLine ++ ("//  ".toList ++ unifyLineEnds cs) := by
    simp [firstSourceLine, hmark, unifyLineEnds]
  refine ⟨rest ++ (Swift.pretty code).toList, ?_⟩
  rw [SourceFile.unifiedText, SourceFile.ofCode, String.toList_append, hrest, String.toList_ofList,
    ← hunify]
  simp only [List.append_assoc, List.cons_append]

/-- A source is no grammar. -/
theorem parseGrammar_ne_ok_of_unifiedText
    (h : Swift.generateSources grammar module grammarName = some sources) (hfile : file ∈ sources)
    (rules : List Rule) : parseGrammar file.unifiedText ≠ .ok rules := by
  obtain ⟨bridgeCode, -, rfl⟩ := Option.map_eq_some_iff.mp h
  simp only [List.mem_cons, List.not_mem_nil, or_false] at hfile
  rcases hfile with rfl | rfl
  all_goals
    obtain ⟨rest, hrest⟩ := exists_toList_unifiedText_eq ..
    exact parseGrammar_ne_ok_of_firstSourceLine hrest rules

/-- The first character of a text stays, unless it is a line end. -/
theorem head?_unifyLineEnds (c : Char) (cs : List Char) :
    (unifyLineEnds (c :: cs)).head? = some (if c = '\r' then '\n' else c) := by
  unfold unifyLineEnds
  split <;> simp_all

/-- There are two sources, which differ where they name themselves. -/
theorem exists_sources_eq (h : Swift.generateSources grammar module grammarName = some sources)
    (hmodule : module.toList.head? ≠ some 'A') :
    ∃ first second, sources = [first, second] ∧ first.name = Swift.abstractSyntaxFile ∧
      second.name = Swift.bridgeFile module ∧ first.unifiedText ≠ second.unifiedText := by
  obtain ⟨bridgeCode, -, rfl⟩ := Option.map_eq_some_iff.mp h
  refine ⟨_, _, rfl, rfl, rfl, fun heq => ?_⟩
  obtain ⟨rest, hrest⟩ := exists_toList_unifiedText_eq Swift.abstractSyntaxFile grammarName _
  obtain ⟨rest', hrest'⟩ := exists_toList_unifiedText_eq (Swift.bridgeFile module) grammarName _
  rw [heq, hrest'] at hrest
  have hnames := List.append_cancel_left (List.append_cancel_left hrest)
  have habstract : Swift.abstractSyntaxFile.toList = 'A' :: "bstractSyntax.swift".toList := by
    decide +kernel
  obtain ⟨c, cs, hbridge, hc⟩ : ∃ c cs, (Swift.bridgeFile module).toList = c :: cs ∧ c ≠ 'A' := by
    rw [Swift.bridgeFile, String.toList_append]
    cases hlist : module.toList with
    | nil => exact ⟨'T', "oSwiftBridge.swift".toList, by decide +kernel, by decide⟩
    | cons c cs =>
      rw [hlist] at hmodule
      exact ⟨c, _, rfl, fun hA => hmodule (congrArg some hA)⟩
  have hheads := congrArg List.head? hnames
  rw [habstract, hbridge, List.cons_append, List.cons_append, head?_unifyLineEnds,
    head?_unifyLineEnds, if_neg (show 'A' ≠ '\r' by decide)] at hheads
  split_ifs at hheads
  · exact absurd hheads (by decide)
  · exact hc (Option.some.inj hheads)

end SyntaxBridge
