import Mathlib
import SyntaxBridge.CommandLine.Program
import SyntaxBridge.Proofs.Compile.OpenTree

/-!
# The program writes all files or reports

A command line that asks for a compile run has the effects and the messages of that run, and the
exit code tells whether an error was counted (`runsOrReports`). This holds on every file system that
obeys the laws, and trees of files are some (`runsOrReports_barredTree`).
-/

namespace SyntaxBridge.CommandLine

variable {σ ι : Type} {files : FileSystem (StateM σ)} {view : σ → FileView ι} {s : σ}
  {arguments : List String} {path directory module : String} {extra : ExtraCases}
  {policy : BoxPolicy} {verbose : Bool}

/-- A command line asks for a compile run: it is read, and no option that was used is left without a
value. -/
def AsksFor (files : FileSystem (StateM σ)) (s : σ) (arguments : List String)
    (path directory module : String) (extra : ExtraCases) (policy : BoxPolicy) (verbose : Bool) :
    Prop :=
  ∃ options extraCases,
    (parseArguments files.isDirectory arguments).run s = (.ok options, s) ∧
    options.extraCases.mapM id = some extraCases ∧ .box ∉ options.lacking ∧
    options.file = path ∧ options.out = directory ∧ options.module = module ∧
    groupExtraCases extraCases = extra ∧ options.policy = policy ∧ options.verbose = verbose

/-- The program does what the compile run does that it is asked for. -/
theorem run_run_of_asksFor
    (h : AsksFor files s arguments path directory module extra policy verbose) :
    (run files arguments).run s =
      ({ ending := .ofRun (compileOn files s path directory module extra policy verbose).outcome,
         output := (compileOn files s path directory module extra policy verbose).log.printed },
        (compileOn files s path directory module extra policy verbose).state) := by
  obtain ⟨options, extraCases, hparse, hextra, hbox, rfl, rfl, rfl, rfl, rfl, rfl⟩ := h
  have hanalysis : options.analysis extraCases =
      .ofTyped (groupExtraCases extraCases) options.policy := by
    rw [Options.analysis, if_neg (by simpa using hbox)]
  rw [run, run_bind_state, hparse]
  dsimp only
  rw [compile, hextra]
  dsimp only
  rw [hanalysis]
  rfl

/-- A run that is asked for writes all files or reports, and the program exits with 0 if no error
was counted, and else with 1. -/
structure RunsOrReports (files : FileSystem (StateM σ)) (view : σ → FileView ι) (s : σ)
    (path directory module : String) (extra : ExtraCases) (policy : BoxPolicy) (verbose : Bool) :
    Prop where
  allOrReported : AllOrReported files view s path directory module extra policy verbose
    (compileOn files s path directory module extra policy verbose)
  exit_eq : ∀ arguments, AsksFor files s arguments path directory module extra policy verbose →
    (run files arguments).run s =
      ({ ending := .exit
           (if (compileOn files s path directory module extra policy verbose).log.errors = 0 then 0
            else 1)
         output := (compileOn files s path directory module extra policy verbose).log.printed },
        (compileOn files s path directory module extra policy verbose).state)

/-- A run that writes all or reports ends with the exit code that tells which. -/
theorem ofRun_of_allOrReported {ended : RunEnd σ (List Swift.SourceFile)}
    (h : AllOrReported files view s path directory module extra policy verbose ended) :
    Ending.ofRun ended.outcome = .exit (if ended.log.errors = 0 then 0 else 1) := by
  by_cases hgrammar : ∃ grammar, HoldsGrammar files s path extra policy grammar
  · obtain ⟨grammar, hgrammar⟩ := hgrammar
    obtain ⟨_, _, -, -, -, hattempted⟩ := h.of_grammar grammar hgrammar
    rw [hattempted.outcome_eq]
    by_cases herrors : ended.log.errors = 0
    · rw [if_pos herrors, if_pos herrors]
      rfl
    · rw [if_neg herrors, if_neg herrors]
      rfl
  · have hreported := h.of_fault (not_exists.mp hgrammar)
    rw [hreported.outcome_eq, hreported.errors_eq]
    rfl

/-- The program writes all files of a grammar or reports, and its exit code tells which. -/
theorem runsOrReports (laws : files.Laws view) (hpath : '\x00' ∉ path.toList)
    (hmodule : '\x00' ∉ module.toList)
    (hdirectory : ((files.isDirectory directory).run s).1 = true) (hname : module ≠ "")
    (hencode : EncodesSources files s path module extra policy) :
    RunsOrReports files view s path directory module extra policy verbose where
  allOrReported := compileOn_allOrReported laws hpath hmodule hdirectory hname hencode
  exit_eq arguments h := by
    rw [run_run_of_asksFor h,
      ofRun_of_allOrReported (compileOn_allOrReported laws hpath hmodule hdirectory hname hencode)]

/-- A tree with a grammar and a directory that stands in the way of one of its files. -/
def barredTree : FileTree :=
  singleRuleTree "Calc.cf" [(["out"], .directory), (["out", "AbstractSyntax.swift"], .directory)]

/-- Where a directory stands in the way of one file, the other is written all the same. -/
theorem runsOrReports_barredTree :
    (∃ grammar, HoldsGrammar FileTree.system barredTree "Calc.cf" [] .all grammar) ∧
      AsksFor FileTree.system barredTree ["Calc.cf", "-o", "out"] "Calc.cf" "out" "CGrammar" [] .all
        false ∧
      barredTree.view.Ordinary
        [Path.join "out" "AbstractSyntax.swift", Path.join "out" "CGrammarToSwiftBridge.swift"] ∧
      RunsOrReports FileTree.system FileTree.view barredTree "Calc.cf" "out" "CGrammar" [] .all
        false := by
  refine ⟨holdsGrammar_singleRule (by decide +kernel), ?_, ?_,
    runsOrReports FileTree.laws (by decide) (by decide) (by decide +kernel) (by decide)
      fun _ _ _ _ _ _ => ⟨_, rfl⟩⟩
  · exact ⟨{ file := "Calc.cf", out := "out" }, [], by cbv, rfl, by decide, rfl, rfl, rfl, rfl, rfl,
      rfl⟩
  · refine FileTree.ordinary_of_locate [(["out", "AbstractSyntax.swift"], some .directory),
      (["out", "CGrammarToSwiftBridge.swift"], none)] ?_ ?_ ?_ ?_
    all_goals decide +kernel

/-! ## Runs that go astray -/

/-- A tree where a file may be written, but not be read, in the place of the first file. -/
def unreadableTree : FileTree :=
  occupiedTree (.file [] { readable := false })

/-- There, both files can be written, and yet the first one fails. -/
theorem errors_unreadableTree :
    (∀ path ∈ outputPaths "." "CGrammar", ∀ bytes, ∃ after,
      unreadableTree.write path bytes = .ok after) ∧
    (unreadableTree.compiled "Calc.cf" false).log.errors ≠ 0 := by
  constructor
  · refine List.forall_mem_cons.mpr ⟨fun bytes => ?_, List.forall_mem_singleton.mpr fun bytes => ?_⟩
    · have hlocate : unreadableTree.locate (Path.join "." Swift.abstractSyntaxFile) =
          .ok (["AbstractSyntax.swift"], some (.file [] { readable := false })) := by
        decide +kernel
      have hslash : Path.endsInSlash (Path.join "." Swift.abstractSyntaxFile) = false := by
        decide +kernel
      refine ⟨unreadableTree.put ["AbstractSyntax.swift"] (.file bytes { readable := false }), ?_⟩
      simp [FileTree.write, hlocate, hslash, bind, Except.bind, pure, Except.pure]
    · have hopen : unreadableTree.IsOpen (Path.join "." (Swift.bridgeFile "CGrammar")) := by
        decide +kernel
      obtain ⟨after, hwrite, -⟩ := hopen.exists_write bytes
      exact ⟨after, hwrite⟩
  · have hread : unreadableTree.read "Calc.cf" = .ok (Text.encode singleRule.toList) := by
      decide +kernel
    obtain ⟨grammar, hgrammar⟩ := holdsGrammar_singleRule hread
    have hall : AllOrReported FileTree.system FileTree.view unreadableTree "Calc.cf" "." "CGrammar"
        [] .all false (unreadableTree.compiled "Calc.cf" false) :=
      compileOn_allOrReported FileTree.laws (by decide) (by decide) (by decide +kernel) (by decide)
        fun _ _ _ _ _ _ => ⟨_, rfl⟩
    obtain ⟨sources, turns, hsources, -, hturns, hattempted⟩ := hall.of_grammar grammar hgrammar
    obtain ⟨first, second, rfl, hfirst, -⟩ := exists_sources_eq hsources (by decide)
    -- The first turn is that of the file that cannot be read, and it comes before all writing.
    obtain ⟨before, -, hattempts⟩ := hattempted.attempts
    obtain ⟨⟨_, file⟩, turns, rfl, hfile, -⟩ := List.map_eq_cons_iff.mp hturns
    obtain rfl : file = first := hfile
    have hbarred : unreadableTree.isFile (Path.join "." file.name) = true ∧
        unreadableTree.read (Path.join "." file.name) = .error .accessDenied := by
      rw [hfirst]
      decide +kernel
    have hfails : FileTree.system.fails "." (unreadableTree, file) = true :=
      fails_of_read_eq_error FileTree.laws hbarred.1 hbarred.2
    cases hattempts with
    | cons hattempt hrest =>
      have herrors := hattempt.errors_eq
      rw [FileTree.system_read_run, hfails, if_pos rfl] at herrors
      rw [hrest.errors_eq]
      omega

/-- Access to the files of a tree where one character has no bytes, in the way that a half of a
surrogate pair has none. -/
def lossySystem : FileSystem (StateM FileTree) :=
  { FileTree.system with
    encode := fun text =>
      if '\uffff' ∈ text.toList then
        .error { start := text.toList.idxOf '\uffff', length := 1, shown := "\\uffff" }
      else .ok (Text.encode text.toList) }

theorem exists_encode_lossySystem {text : String} (h : '\uffff' ∈ text.toList) :
    ∃ fault, lossySystem.encode text = .error fault :=
  ⟨_, if_pos h⟩

/-- What stands in the name of a grammar stands in the header of its sources. -/
theorem mem_toList_text_ofCode {c : Char} {grammarName : String} (h : c ∈ grammarName.toList)
    (name code : String) :
    c ∈ (Swift.SourceFile.ofCode name grammarName code).text.toList := by
  rw [Swift.SourceFile.ofCode, Swift.header, String.intercalate_cons_cons,
    String.intercalate_cons_cons, String.intercalate_cons_cons]
  simp only [String.toList_append, List.mem_append, h, or_true, true_or]

/-- A run on a grammar whose name has that character in it. -/
def lossyRun : RunEnd FileTree (List Swift.SourceFile) :=
  compileOn lossySystem (singleRuleTree "\uffff.cf") "\uffff.cf" "." "CGrammar" [] .all false

/-- It ends at the first file, and the other one is not written. -/
theorem outcome_lossyRun :
    ∃ fault, lossyRun.outcome = .error (.badText fault) ∧
      lossyRun.state.isFile (Path.join "." "CGrammarToSwiftBridge.swift") = false := by
  have hread : (singleRuleTree "\uffff.cf").read "\uffff.cf" =
      .ok (Text.encode singleRule.toList) := by
    decide +kernel
  obtain ⟨grammar, text, htext, hgrammar⟩ := holdsGrammar_singleRule hread
  have htext : lossySystem.Reads (singleRuleTree "\uffff.cf") "\uffff.cf" text := htext
  obtain ⟨sources, hsources⟩ :=
    exists_generateSources grammar (Path.baseName "\uffff.cf") (show "CGrammar" ≠ "" by decide)
  have hended : lossyRun = _ := compileOn_eq htext hgrammar hsources
  obtain ⟨bridgeCode, -, rfl⟩ := Option.map_eq_some_iff.mp hsources
  -- The first file is opened, and then its header cannot be encoded.
  have hfile : (singleRuleTree "\uffff.cf").isFile (Path.join "." Swift.abstractSyntaxFile) =
      false := by
    decide +kernel
  have hcompare (text : String) : (fileHolds lossySystem (Path.join "." Swift.abstractSyntaxFile)
      text).run (singleRuleTree "\uffff.cf") = (.ok false, singleRuleTree "\uffff.cf") :=
    fileHolds_run_of_not_isFile FileTree.laws text hfile
  have hopened : (singleRuleTree "\uffff.cf").write (Path.join "." Swift.abstractSyntaxFile) [] =
      .ok (singleRuleTree "\uffff.cf" [(["AbstractSyntax.swift"], .file [])]) := by
    decide +kernel
  have hwrite : (lossySystem.write (Path.join "." Swift.abstractSyntaxFile) []).run
      (singleRuleTree "\uffff.cf") =
        (.ok (), singleRuleTree "\uffff.cf" [(["AbstractSyntax.swift"], .file [])]) := by
    rw [lossySystem, FileTree.system_write_run, hopened]
  have hmem : '\uffff' ∈ (Path.baseName "\uffff.cf").toList := by decide +kernel
  obtain ⟨fault, hfault⟩ := exists_encode_lossySystem
    (mem_toList_text_ofCode hmem Swift.abstractSyntaxFile (Swift.abstractSyntaxSource grammar))
  have hrun := writeOutput_on_of_encode_eq_error (parsedLog false "\uffff.cf" text grammar)
    (hcompare _) hwrite hfault
  have hstop := hended.trans
    (Run.on_bind_of_error (Run.on_bind_of_error (Run.on_bind_of_error hrun)))
  have hother : (singleRuleTree "\uffff.cf" [(["AbstractSyntax.swift"], .file [])]).isFile
      (Path.join "." "CGrammarToSwiftBridge.swift") = false := by
    decide +kernel
  rw [hstop]
  exact ⟨fault, rfl, hother⟩

/-- Runs that neither write all nor report. A path of another spelling than those of the files may
lead to one of them, and then that file is changed. Both files may be one, or a device may stand in
the place of one, and then not both hold their texts. A file that cannot be read fails even if it
can be written. A text that cannot be encoded ends the run, and the other file is not attempted. -/
theorem compiled_goesAstray :
    ("AbstractSyntax.swift" ∉ outputPaths "." "CGrammar" ∧
      (overwrittenTree.compiled "AbstractSyntax.swift" false).state.read "AbstractSyntax.swift" ≠
        overwrittenTree.read "AbstractSyntax.swift") ∧
    (∀ node ∈ [Node.link "CGrammarToSwiftBridge.swift", .device], ∃ sources,
      ((occupiedTree node).compiled "Calc.cf" false).outcome = .ok sources ∧
      ¬ ∀ file ∈ sources,
        FileTree.system.Reads ((occupiedTree node).compiled "Calc.cf" false).state
          (Path.join "." file.name) file.unifiedText) ∧
    ((∀ path ∈ outputPaths "." "CGrammar", ∀ bytes, ∃ after,
        unreadableTree.write path bytes = .ok after) ∧
      (unreadableTree.compiled "Calc.cf" false).log.errors ≠ 0) ∧
    ∃ fault, lossyRun.outcome = .error (.badText fault) ∧
      lossyRun.state.isFile (Path.join "." "CGrammarToSwiftBridge.swift") = false := by
  refine ⟨⟨by decide +kernel, fun hsame => ?_⟩,
    fun node hnode => exists_not_reads_occupiedTree hnode false, errors_unreadableTree,
    outcome_lossyRun⟩
  have hread : overwrittenTree.read "AbstractSyntax.swift" =
      .ok (Text.encode singleRule.toList) := by
    decide +kernel
  obtain ⟨_, -, hnone⟩ := exists_not_holdsGrammar_overwrittenTree false
  obtain ⟨grammar, hgrammar⟩ := holdsGrammar_singleRule (hsame.trans hread)
  exact hnone grammar hgrammar

end SyntaxBridge.CommandLine
