import Mathlib
import SyntaxBridge.Proofs.Compile.OpenTree
import SyntaxBridge.Proofs.Swift.Unified

/-!
# Compiling again

A run that finds all files of a grammar as they should be leaves them alone
(`findsUnchanged_of_holdsText`). A run that ended well has left them that way, so another one has
nothing to do (`findsUnchanged_of_compileOn`), as long as the grammar and the two files are three
different files.
-/

namespace SyntaxBridge

open Outcome Text
open Swift (SourceFile)

variable {σ ι : Type} {files : FileSystem (StateM σ)} {view : σ → FileView ι} {s : σ}
  {path directory module : String} {extra : ExtraCases} {policy : BoxPolicy} {verbose : Bool}
  {log : Log} {file : SourceFile} {sources : List SourceFile}

/-! ## Files that hold their texts -/

/-- The detail for a file that is left alone. -/
def unchangedMessage (file : SourceFile) : String :=
  "file " ++ file.name ++ " is unchanged"

/-- A file that is found to hold its text is left alone, whatever writing does. -/
theorem writeOutput_on_of_fileHolds {after : σ}
    (h : (fileHolds files (Path.join directory file.name) file.text).run s = (.ok true, after))
    (write : String → List UInt8 → StateM σ (Except FileError Unit)) :
    (writeOutput { files with write := write } directory file).on log s =
      ⟨.ok (), log.detail (unchangedMessage file), after⟩ := by
  have h : (fileHolds { files with write := write } (Path.join directory file.name) file.text).run
      s = (.ok true, after) := h
  -- The run takes the branch that does not write.
  rw [writeOutput, Run.on_files_bind, h]
  rfl

/-- Files that hold their texts are left alone, one after the other. -/
theorem exists_forM_writeOutput_on_of_holdsText (laws : files.Laws view) (log : Log)
    (hspecial : ∀ file ∈ sources, ¬ (view s).IsSpecial (Path.join directory file.name))
    (h : ∀ file ∈ sources, (view s).HoldsText (Path.join directory file.name) file.text) :
    ∃ after, view after = view s ∧ ∀ write,
      (sources.forM (writeOutput { files with write := write } directory)).on log s =
        ⟨.ok (), (sources.map unchangedMessage).foldl Log.detail log, after⟩ := by
  induction sources generalizing s log with
  | nil => exact ⟨s, rfl, fun _ => rfl⟩
  | cons file sources ih =>
    obtain ⟨hholds, hrest⟩ := List.forall_mem_cons.mp h
    obtain ⟨hfile, hspecials⟩ := List.forall_mem_cons.mp hspecial
    have hcompare : (fileHolds files (Path.join directory file.name) file.text).run s =
        (.ok true, ((fileHolds files (Path.join directory file.name) file.text).run s).2) :=
      Prod.ext ((fileHolds_eq_true_iff laws hfile).mpr hholds) rfl
    have hview := view_fileHolds laws s (Path.join directory file.name) file.text
    -- Comparing changes no file, so the others still hold their texts.
    rw [← hview] at hspecials hrest
    obtain ⟨after, hafter, hruns⟩ := ih (log.detail (unchangedMessage file)) hspecials hrest
    refine ⟨after, hafter.trans hview, fun write => ?_⟩
    rw [Run.on_forM_cons (writeOutput_on_of_fileHolds hcompare write)]
    exact hruns write

/-- Details are no errors, and all of them are printed if details are. -/
theorem Log.foldl_detail (log : Log) (texts : List String) :
    (texts.foldl detail log).errors = log.errors ∧
      (texts.foldl detail log).printed =
        log.printed ++ if log.verbose then String.join (texts.map (· ++ "\n")) else "" := by
  induction texts generalizing log with
  | nil => cases log.verbose <;> simp
  | cons text texts ih =>
    obtain ⟨herrors, hprinted⟩ := ih (log.detail text)
    rw [List.foldl_cons, herrors, hprinted, errors_detail, verbose_detail, printed_detail]
    cases log.verbose <;> simp [String.append_assoc]

/-- A run that found all files as they should be: it returned them, left all files as they were, and
printed that they are unchanged, if it printed details at all. -/
structure FindsUnchanged (files : FileSystem (StateM σ)) (view : σ → FileView ι) (s : σ)
    (path directory module : String) (extra : ExtraCases) (policy : BoxPolicy) (verbose : Bool)
    (sources : List SourceFile) : Prop where
  names_eq : sources.map (·.name) = ["AbstractSyntax.swift", module ++ "ToSwiftBridge.swift"]
  outcome_eq : (compileOn files s path directory module extra policy verbose).outcome = .ok sources
  /-- All files hold what they held before. -/
  view_eq : view (compileOn files s path directory module extra policy verbose).state = view s
  errors_eq : (compileOn files s path directory module extra policy verbose).log.errors = 0
  /-- Nothing but details is printed. -/
  printed_eq : ∃ grammar, HoldsGrammar files s path extra policy grammar ∧
    (compileOn files s path directory module extra policy verbose).log.printed =
      if verbose then
        "parsing...\n" ++ parsedMessage grammar ++ "\nparsing successful\n" ++
          String.join (sources.map fun file => unchangedMessage file ++ "\n")
      else ""
  /-- No file was written: it makes no difference what writing does. -/
  write_eq : ∀ write, compileOn { files with write := write } s path directory module extra policy
    verbose = compileOn files s path directory module extra policy verbose

/-- A run leaves the files of a grammar alone if all of them hold their texts. -/
theorem findsUnchanged_of_holdsText (laws : files.Laws view) {grammar : Grammar}
    (h : HoldsGrammar files s path extra policy grammar)
    (hsources : Swift.generateSources grammar module (Path.baseName path) = some sources)
    (hspecial : ∀ file ∈ sources, ¬ (view s).IsSpecial (Path.join directory file.name))
    (hholds : ∀ file ∈ sources, (view s).HoldsText (Path.join directory file.name) file.text)
    (verbose : Bool) :
    FindsUnchanged files view s path directory module extra policy verbose sources := by
  obtain ⟨text, htext, hgrammar⟩ := id h
  have hview := laws.view_read s path
  obtain ⟨herrors, hprinted⟩ := Log.foldl_detail (parsedLog verbose path text grammar)
    (sources.map unchangedMessage)
  rw [← hview] at hspecial hholds
  obtain ⟨after, hafter, hruns⟩ := exists_forM_writeOutput_on_of_holdsText laws
    (parsedLog verbose path text grammar) hspecial hholds
  -- No file is written, so the run ends alike whatever writing does.
  have hended (write : String → List UInt8 → StateM σ (Except FileError Unit)) :
      compileOn { files with write := write } s path directory module extra policy verbose =
        ⟨.ok sources, (sources.map unchangedMessage).foldl Log.detail
          (parsedLog verbose path text grammar), after⟩ := by
    have htext : FileSystem.Reads { files with write := write } s path text := htext
    rw [compileOn_eq htext hgrammar hsources, writeOutputs_on (hruns write),
      if_pos (herrors.trans (errors_parsedLog ..))]
  have hcompile : compileOn files s path directory module extra policy verbose = _ :=
    hended files.write
  exact {
    names_eq := names_of_generateSources hsources
    outcome_eq := by rw [hcompile]
    view_eq := by rw [hcompile, hafter, hview]
    errors_eq := by rw [hcompile, herrors, errors_parsedLog]
    printed_eq := by
      refine ⟨grammar, h, ?_⟩
      rw [hcompile, hprinted]
      cases verbose <;>
        simp [parsedLog, Log.printed_detail, Log.addSource, Function.comp_def, String.append_assoc]
    write_eq := fun write => (hended write).trans hcompile.symm }

/-! ## The second run -/

/-- No carriage return stands in the sources of a grammar that a file holds, if none comes in from
outside. -/
theorem isUnified_of_holdsGrammar {grammar : Grammar}
    (h : HoldsGrammar files s path extra policy grammar) (hmodule : IsUnified module)
    (hbase : IsUnified (Path.baseName path))
    (hextra : ∀ entry ∈ extra, ∀ text ∈ entry.2, IsUnified text)
    (hsources : Swift.generateSources grammar module (Path.baseName path) = some sources) :
    ∀ file ∈ sources, IsUnified file.text := by
  obtain ⟨text, -, hgrammar⟩ := h
  obtain ⟨rules, hparse, hanalyze⟩ := bind_eq_ok_iff.mp hgrammar
  have hnames := Swift.hasUnifiedNames_of_analyze hanalyze (isUnified_of_parseGrammar hparse) hextra
  exact hnames.isUnified_of_generateSources hanalyze hmodule hbase hsources

/-- After a run that ended well, another one finds all files as they should be, if the paths of the
grammar and the two files lead to three different files. -/
theorem findsUnchanged_of_compileOn (laws : files.Laws view) (hmodule : IsUnified module)
    (hbase : IsUnified (Path.baseName path))
    (hextra : ∀ entry ∈ extra, ∀ text ∈ entry.2, IsUnified text)
    (hapart : (view s).Apart
      [path, Path.join directory "AbstractSyntax.swift",
        Path.join directory (module ++ "ToSwiftBridge.swift")])
    (h : (compileOn files s path directory module extra policy verbose).outcome = .ok sources)
    (verbose' : Bool) :
    FindsUnchanged files view
      (compileOn files s path directory module extra policy verbose).state path directory module
      extra policy verbose' sources := by
  obtain ⟨grammar, _, _, hgrammar, hsources, -⟩ := exists_attempts_of_compileOn_eq_ok h
  have hframe := frame_of_outcome_eq_ok laws h
  have hspecial : ∀ other ∈ path :: outputPaths directory module,
      ¬ (view (compileOn files s path directory module extra policy verbose).state).IsSpecial
        other :=
    fun other hother => mt (hframe.isSpecial_iff other).mp (hapart.not_isSpecial other hother)
  -- The file of the grammar is none of those that were written.
  have hagain : HoldsGrammar files
      (compileOn files s path directory module extra policy verbose).state path extra policy
      grammar := by
    obtain ⟨text, htext, hread⟩ := hgrammar
    refine ⟨text, ?_, hread⟩
    rw [laws.reads_iff (hapart.not_isSpecial _ List.mem_cons_self)] at htext
    rw [laws.reads_iff (hspecial _ List.mem_cons_self)]
    refine htext.of_frame hframe ?_
    rintro place hplace ⟨other, hother, hotherPlace⟩
    exact List.rel_of_pairwise_cons hapart.pairwise hother place hplace hotherPlace
  have hpaths : ∀ file ∈ sources, Path.join directory file.name ∈ outputPaths directory module :=
    fun file hfile => paths_of_generateSources hsources ▸ List.mem_map_of_mem hfile
  refine findsUnchanged_of_holdsText laws hagain hsources
    (fun file hfile => hspecial _ (List.mem_cons_of_mem _ (hpaths file hfile)))
    (fun file hfile => ?_) verbose'
  -- What is read of a file is its text, since line ends are read as they were written.
  have hunified : IsUnified file.text :=
    isUnified_of_holdsGrammar hgrammar hmodule hbase hextra hsources file hfile
  have hholds := holdsText_of_outcome_eq_ok laws hapart.tail h file hfile
  rwa [SourceFile.unifiedText, hunified.unifyLineEnds_eq] at hholds

/-- A grammar that is compiled twice, next to its sources. -/
theorem findsUnchanged_singleRule :
    ∃ sources,
      (singleRuleTree "Calc.cf").view.Apart
        ["Calc.cf", Path.join "." "AbstractSyntax.swift",
          Path.join "." "CGrammarToSwiftBridge.swift"] ∧
      (compileOn FileTree.system (singleRuleTree "Calc.cf") "Calc.cf" "." "CGrammar" [] .all
        false).outcome = .ok sources ∧
      FindsUnchanged FileTree.system FileTree.view
        (compileOn FileTree.system (singleRuleTree "Calc.cf") "Calc.cf" "." "CGrammar" [] .all
          false).state "Calc.cf" "." "CGrammar" [] .all true sources := by
  have hread : (singleRuleTree "Calc.cf").read "Calc.cf" = .ok (Text.encode singleRule.toList) := by
    decide +kernel
  obtain ⟨sources, h⟩ := exists_outcome_eq_ok_singleRule hread (by decide +kernel) false
  have hapart : (singleRuleTree "Calc.cf").view.Apart ["Calc.cf",
      Path.join "." "AbstractSyntax.swift", Path.join "." "CGrammarToSwiftBridge.swift"] := by
    refine FileTree.apart_of_locate [(["Calc.cf"], some (.file (Text.encode singleRule.toList))),
      (["AbstractSyntax.swift"], none), (["CGrammarToSwiftBridge.swift"], none)] ?_ ?_ ?_
    all_goals decide +kernel
  exact ⟨sources, hapart, h, findsUnchanged_of_compileOn FileTree.laws (by decide)
    (by decide +kernel) (by decide) hapart h true⟩

/-! ## Files that are written again -/

/-- Access to the files of a tree where nothing can be written. -/
def FileTree.readOnly : FileSystem (StateM FileTree) :=
  { FileTree.system with write := fun _ _ => pure (.error .accessDenied) }

/-- Where nothing can be written, the files that do not fail can be read. -/
theorem Attempts.reads_of_readOnly {tree after : FileTree} {log' : Log}
    {turns : List (FileTree × SourceFile)}
    (h : Attempts FileTree.readOnly directory tree log turns after log')
    (hfails : ∀ turn ∈ turns, FileTree.readOnly.fails directory turn = false) :
    ∀ turn ∈ turns, FileTree.system.Reads tree (Path.join directory turn.2.name)
      turn.2.unifiedText := by
  induction h with
  | nil => exact List.forall_mem_nil _
  | @cons tree middle _ log log' _ file turns hfirst _ ih =>
    obtain ⟨hfile, hfiles⟩ := List.forall_mem_cons.mp hfails
    cases hfirst with
    | unchanged h =>
      have h : (fileHolds FileTree.system (Path.join directory file.name) file.text).run tree =
          (.ok true, middle) := h
      obtain rfl : middle = tree := by
        rw [← fileHolds_run_state tree (Path.join directory file.name) file.text, h]
      have hreads := reads_of_fileHolds_eq_true FileTree.laws (congrArg Prod.fst h)
      obtain ⟨_, -, hdecode⟩ := id hreads
      refine List.forall_mem_cons.mpr ⟨?_, ih hfiles⟩
      rwa [SourceFile.unifiedText, unifyLineEnds_of_decodeFile hdecode]
    | unread h =>
      rw [FileSystem.fails, h] at hfile
      cases hfile
    | written _ _ hwrite => cases hwrite
    | refused h hwrite =>
      rw [FileSystem.fails, h] at hfile
      cases hfile

/-- What a run finds unchanged can be read. -/
theorem FindsUnchanged.reads {tree : FileTree}
    (h : FindsUnchanged FileTree.system FileTree.view tree path directory module extra policy
      verbose sources) :
    ∀ file ∈ sources,
      FileTree.system.Reads tree (Path.join directory file.name) file.unifiedText := by
  -- The run ends as well where nothing can be written.
  have hended : (compileOn FileTree.readOnly tree path directory module extra policy
      verbose).outcome = .ok sources :=
    (congrArg RunEnd.outcome (h.write_eq _)).trans h.outcome_eq
  obtain ⟨_, _, turns, -, -, hturns, hfails, hattempts⟩ :=
    exists_attempts_of_compileOn_eq_ok hended
  rw [← hturns, List.forall_mem_map]
  exact hattempts.reads_of_readOnly hfails

/-- Runs that end well and are followed by others: a grammar that is found under another path than
its sources, and still is where one of them is written, is compiled once and not twice. Sources of
which one is a link to the other, or a device, are not found unchanged. -/
theorem overwritten_singleRule :
    (∃ sources, IsUnified "CGrammar" ∧ IsUnified (Path.baseName "AbstractSyntax.swift") ∧
      "AbstractSyntax.swift" ∉ outputPaths "." "CGrammar" ∧
      (overwrittenTree.compiled "AbstractSyntax.swift" true).outcome = .ok sources ∧
      ∀ verbose sources', ((overwrittenTree.compiled "AbstractSyntax.swift" true).state.compiled
        "AbstractSyntax.swift" verbose).outcome ≠ .ok sources') ∧
    ∀ node ∈ [Node.link "CGrammarToSwiftBridge.swift", .device], ∃ sources,
      IsUnified (Path.baseName "Calc.cf") ∧ "Calc.cf" ∉ outputPaths "." "CGrammar" ∧
      ((occupiedTree node).compiled "Calc.cf" true).outcome = .ok sources ∧
      ∀ verbose, ¬ FindsUnchanged FileTree.system FileTree.view
        ((occupiedTree node).compiled "Calc.cf" true).state "Calc.cf" "." "CGrammar" [] .all verbose
        sources := by
  constructor
  · obtain ⟨sources, h, hnone⟩ := exists_not_holdsGrammar_overwrittenTree true
    refine ⟨sources, by decide +kernel, by decide +kernel, by decide +kernel, h, ?_⟩
    intro verbose sources' h'
    obtain ⟨grammar, _, _, hgrammar, -⟩ := exists_attempts_of_compileOn_eq_ok h'
    exact hnone grammar hgrammar
  · intro node hnode
    obtain ⟨sources, h, hreads⟩ := exists_not_reads_occupiedTree hnode true
    exact ⟨sources, by decide +kernel, by decide +kernel, h, fun _ hfinds => hreads hfinds.reads⟩

end SyntaxBridge
