import SyntaxBridge.Proofs.Compile.Frontend

/-!
# All files or a report

A compile run either finds no grammar, reports the one error that it finds instead and leaves the
files alone (`Reported`), or it attempts both files that are generated from the grammar and reports
those that cannot be written (`Attempted`). Nothing else happens (`compileOn_allOrReported`).
-/

namespace SyntaxBridge

open Swift (SourceFile)

variable {σ ι : Type} {files : FileSystem (StateM σ)} {view : σ → FileView ι} {s : σ}
  {path directory module : String} {extra : ExtraCases} {policy : BoxPolicy} {verbose : Bool}
  {log : Log} {sources : List SourceFile} {turns : List (σ × SourceFile)}

/-! ## What a run comes to -/

/-- A run that found no grammar in a file: one error was reported, and nothing was written. -/
structure Reported (files : FileSystem (StateM σ)) (view : σ → FileView ι) (s : σ) (path : String)
    (extra : ExtraCases) (policy : BoxPolicy) (verbose : Bool)
    (ended : RunEnd σ (List SourceFile)) : Prop where
  /-- The error says what is wrong, and nothing was printed before it but the details. -/
  log_eq : ∃ (before : Log) (message : String) (line : LineNumber) (text : Option String),
    GrammarFault files s path extra policy message line text ∧
    before.errors = 0 ∧ before.printed = (if verbose then "parsing...\n" else "") ∧
    ended.log = before.errorAt message path line text
  /-- It is the only error. -/
  errors_eq : ended.log.errors = 1
  /-- It ended the run. -/
  outcome_eq : ended.outcome = .error (.halted ended.log.haltMessage)
  /-- Nothing was done but that the grammar was read. -/
  state_eq : ended.state = ((files.read path).run s).2
  /-- No file was touched. -/
  view_eq : view ended.state = view s

open scoped Classical in
/-- The number of files that are refused when it is their turn. -/
noncomputable def FileSystem.refusals (files : FileSystem (StateM σ)) (view : σ → FileView ι)
    (directory : String) (turns : List (σ × SourceFile)) : Nat :=
  turns.countP fun turn => decide (files.Refuses view directory turn)

/-- A run that attempted to write files: those that can be written hold their texts, the others were
reported, and nothing else changed. -/
structure Attempted (files : FileSystem (StateM σ)) (view : σ → FileView ι) (s : σ)
    (path directory : String) (turns : List (σ × SourceFile))
    (ended : RunEnd σ (List SourceFile)) : Prop where
  /-- After the grammar was read, all files were attempted in order, whether or not some failed. -/
  attempts : ∃ before, before.errors = 0 ∧
    Attempts files directory ((files.read path).run s).2 before turns ended.state ended.log
  /-- No place changed but those that the files have. -/
  frame : FileView.Frame ((view s).IsPlaceOf (turnPaths directory turns)) (view s)
    (view ended.state)
  /-- Each file that was not refused holds its text. -/
  holdsText : (view s).Ordinary (turnPaths directory turns) →
    ∀ turn ∈ turns, ¬ files.Refuses view directory turn →
      (view ended.state).HoldsText (Path.join directory turn.2.name) turn.2.unifiedText
  /-- Each file that was refused was counted. -/
  errors_eq : (view s).Ordinary (turnPaths directory turns) →
    ended.log.errors = files.refusals view directory turns
  /-- The run ended well exactly if there were no errors. -/
  outcome_eq : ended.outcome =
    if ended.log.errors = 0 then .ok (turns.map Prod.snd)
    else .error (.halted ended.log.haltMessage)

/-- A compile run reports what keeps it from a grammar, or attempts the two files of the grammar. -/
structure AllOrReported (files : FileSystem (StateM σ)) (view : σ → FileView ι) (s : σ)
    (path directory module : String) (extra : ExtraCases) (policy : BoxPolicy) (verbose : Bool)
    (ended : RunEnd σ (List SourceFile)) : Prop where
  of_fault : (∀ grammar, ¬ HoldsGrammar files s path extra policy grammar) →
    Reported files view s path extra policy verbose ended
  of_grammar : ∀ grammar, HoldsGrammar files s path extra policy grammar →
    ∃ sources turns, Swift.generateSources grammar module (Path.baseName path) = some sources ∧
      sources.map (·.name) = ["AbstractSyntax.swift", module ++ "ToSwiftBridge.swift"] ∧
      turns.map Prod.snd = sources ∧ Attempted files view s path directory turns ended

/-- A compile run on files in a state. -/
def compileOn (files : FileSystem (StateM σ)) (s : σ) (path directory module : String)
    (extra : ExtraCases) (policy : BoxPolicy) (verbose : Bool) : RunEnd σ (List SourceFile) :=
  (compileGrammar files path directory module (.ofTyped extra policy)).on { verbose } s

/-- The texts that are generated from the grammar in a file can be encoded. -/
def EncodesSources (files : FileSystem (StateM σ)) (s : σ) (path module : String)
    (extra : ExtraCases) (policy : BoxPolicy) : Prop :=
  ∀ grammar sources, HoldsGrammar files s path extra policy grammar →
    Swift.generateSources grammar module (Path.baseName path) = some sources →
    ∀ file ∈ sources, ∃ bytes, files.encode file.text = .ok bytes

/-! ## Reported errors -/

/-- Reporting an error counts one more. -/
theorem Log.errors_errorAt (log : Log) (message file : String) (line : LineNumber)
    (text : Option String) : (log.errorAt message file line text).errors = log.errors + 1 := by
  unfold errorAt showError
  dsimp only
  split_ifs <;> rfl

/-- A run on a file that holds no grammar reports why. -/
theorem reported_compileOn (laws : files.Laws view) (hnull : '\x00' ∉ path.toList)
    (h : ∀ grammar, ¬ HoldsGrammar files s path extra policy grammar) :
    Reported files view s path extra policy verbose
      (compileOn files s path directory module extra policy verbose) := by
  obtain ⟨message, line, text, hfault⟩ := exists_grammarFault h
  obtain ⟨before, herrors, hprinted, hfrontend⟩ :=
    exists_frontend_on_fault (({ verbose } : Log).detail "parsing...")
      (laws.read_ne_null s path hnull) hfault
  -- Reading the grammar ends the run, so nothing comes after it.
  have hended : compileOn files s path directory module extra policy verbose =
      ⟨.error (.halted (before.errorAt message path line text).haltMessage),
        before.errorAt message path line text, ((files.read path).run s).2⟩ := by
    rw [compileOn, compileGrammar, Run.on_log_bind, Run.on_bind_of_error hfrontend]
  rw [hended]
  rw [Log.errors_detail] at herrors
  rw [Log.printed_detail, String.empty_append] at hprinted
  exact {
    log_eq := ⟨before, message, line, text, hfault, herrors, hprinted, rfl⟩
    errors_eq := by rw [Log.errors_errorAt, herrors]
    outcome_eq := rfl
    state_eq := rfl
    view_eq := laws.view_read s path }

/-! ## Attempted files -/

/-- A joined path ends in the name of the file, and nothing stands before it but the directory. -/
theorem Path.exists_join_eq (directory file : String) :
    ∃ front, join directory file = front ++ file ∧
      ∀ c ∈ front.toList, c ∈ directory.toList ∨ c = '/' := by
  unfold join
  split_ifs
  · exact ⟨"", by simp, by simp⟩
  · exact ⟨directory, rfl, fun c hc => .inl hc⟩
  · exact ⟨directory ++ "/", rfl, by simp⟩

/-- A path of an output file holds no null character. -/
theorem null_notMem_join {file : String} (hdirectory : '\x00' ∉ directory.toList)
    (hfile : '\x00' ∉ file.toList) : '\x00' ∉ (Path.join directory file).toList := by
  obtain ⟨front, hjoin, hfront⟩ := Path.exists_join_eq directory file
  rw [hjoin, String.toList_append, List.mem_append, not_or]
  refine ⟨fun hmem => ?_, hfile⟩
  rcases hfront _ hmem with hmem | hslash
  · exact hdirectory hmem
  · exact absurd hslash (by decide)

/-- There are files for a grammar if the module has a name. -/
theorem exists_generateSources (grammar : Grammar) (grammarName : String) (hname : module ≠ "") :
    ∃ sources, Swift.generateSources grammar module grammarName = some sources := by
  simp [Swift.generateSources, Swift.bridgeSource?, hname]

/-- There are two files for a grammar, of which the second has the module in its name. -/
theorem names_of_generateSources {grammar : Grammar} {grammarName : String}
    (h : Swift.generateSources grammar module grammarName = some sources) :
    sources.map (·.name) = [Swift.abstractSyntaxFile, Swift.bridgeFile module] := by
  obtain ⟨bridgeCode, -, rfl⟩ := Option.map_eq_some_iff.mp h
  rfl

/-- The paths of the files that are generated. -/
def outputPaths (directory module : String) : List String :=
  [Path.join directory Swift.abstractSyntaxFile, Path.join directory (Swift.bridgeFile module)]

/-- The files for a grammar have these paths. -/
theorem paths_of_generateSources {grammar : Grammar} {grammarName : String}
    (h : Swift.generateSources grammar module grammarName = some sources) :
    sources.map (fun file => Path.join directory file.name) = outputPaths directory module := by
  obtain ⟨bridgeCode, -, rfl⟩ := Option.map_eq_some_iff.mp h
  rfl

/-- So have the turns of these files. -/
theorem turnPaths_of_generateSources {grammar : Grammar} {grammarName : String}
    (h : Swift.generateSources grammar module grammarName = some sources)
    (hturns : turns.map Prod.snd = sources) :
    turnPaths directory turns = outputPaths directory module := by
  rw [← paths_of_generateSources h, ← hturns, List.map_map]
  rfl

/-- The log of a run by the time when it comes to writing. -/
def parsedLog (verbose : Bool) (path text : String) (grammar : Grammar) : Log :=
  (((({ verbose } : Log).detail "parsing...").addSource path text).detail
    (parsedMessage grammar)).detail "parsing successful"

theorem errors_parsedLog (verbose : Bool) (path text : String) (grammar : Grammar) :
    (parsedLog verbose path text grammar).errors = 0 := by
  simp [parsedLog, Log.addSource]

/-- A run on a file that holds a grammar comes to writing the files of the grammar. -/
theorem compileOn_eq {text : String} {grammar : Grammar} (htext : files.Reads s path text)
    (hgrammar : grammarOf text extra policy = .ok grammar)
    (hsources : Swift.generateSources grammar module (Path.baseName path) = some sources) :
    compileOn files s path directory module extra policy verbose =
      (do writeOutputs files directory sources; return sources : Run _ _).on
        (parsedLog verbose path text grammar) ((files.read path).run s).2 := by
  rw [compileOn, compileGrammar, Run.on_log_bind,
    Run.on_bind_of_ok (frontend_on _ htext hgrammar), Run.on_log_bind, hsources]
  rfl

/-- After files were written, the run ends, and it ends well if there were no errors. -/
theorem writeOutputs_on {after : σ} {log' : Log}
    (h : (sources.forM (writeOutput files directory)).on log s = ⟨.ok ⟨⟩, log', after⟩) :
    (do writeOutputs files directory sources; return sources : Run _ _).on log s =
      ⟨if log'.errors = 0 then .ok sources else .error (.halted log'.haltMessage), log',
        after⟩ := by
  rw [Run.on_bind, writeOutputs, Run.on_bind_of_ok h, Run.on_haltIfErrors]
  by_cases herrors : log'.errors = 0 <;> simp [herrors]

/-- What attempts come to for the files, by the laws of file systems. -/
theorem Attempts.attempted (laws : files.Laws view) {ended : RunEnd σ (List SourceFile)}
    (hlog : log.errors = 0)
    (h : Attempts files directory ((files.read path).run s).2 log turns ended.state ended.log)
    (houtcome : ended.outcome =
      if ended.log.errors = 0 then .ok (turns.map Prod.snd)
      else .error (.halted ended.log.haltMessage)) :
    Attempted files view s path directory turns ended := by
  have hview := laws.view_read s path
  have hframe := h.frame laws
  have hholds := h.holdsText laws
  have hfails := h.fails_iff laws
  rw [hview] at hframe hholds hfails
  exact {
    attempts := ⟨log, hlog, h⟩
    frame := hframe
    holdsText := by
      intro hordinary turn hturn hrefuses
      rw [← hfails hordinary turn hturn, Bool.not_eq_true] at hrefuses
      exact hholds hordinary.toApart turn hturn hrefuses
    errors_eq := by
      intro hordinary
      rw [h.errors_eq, hlog, Nat.zero_add, FileSystem.refusals]
      refine List.countP_congr fun turn hturn => ?_
      simpa only [decide_eq_true_eq] using hfails hordinary turn hturn
    outcome_eq := houtcome }

/-- A run on a file that holds a grammar attempts both of its files. -/
theorem attempted_compileOn (laws : files.Laws view) {grammar : Grammar}
    (hdirectory : '\x00' ∉ directory.toList) (hmodule : '\x00' ∉ module.toList)
    (hname : module ≠ "") (hencode : EncodesSources files s path module extra policy)
    (h : HoldsGrammar files s path extra policy grammar) :
    ∃ sources turns, Swift.generateSources grammar module (Path.baseName path) = some sources ∧
      sources.map (·.name) = ["AbstractSyntax.swift", module ++ "ToSwiftBridge.swift"] ∧
      turns.map Prod.snd = sources ∧
      Attempted files view s path directory turns
        (compileOn files s path directory module extra policy verbose) := by
  obtain ⟨sources, hsources⟩ := exists_generateSources grammar (Path.baseName path) hname
  have hencode := hencode grammar sources h hsources
  have hnames := names_of_generateSources hsources
  -- No null character comes in from the directory or from the module.
  have hnull : ∀ file ∈ sources, '\x00' ∉ (Path.join directory file.name).toList := by
    intro file hfile
    have hfile : file.name ∈ [Swift.abstractSyntaxFile, Swift.bridgeFile module] :=
      hnames ▸ List.mem_map_of_mem hfile
    refine null_notMem_join hdirectory ?_
    simp only [List.mem_cons, List.not_mem_nil, or_false] at hfile
    rcases hfile with hfile | hfile
    · rw [hfile]
      decide
    · rw [hfile, Swift.bridgeFile, String.toList_append, List.mem_append, not_or]
      exact ⟨hmodule, by decide⟩
  obtain ⟨text, htext, hgrammar⟩ := h
  obtain ⟨turns, after, log', hrun, hturns, hattempts⟩ := exists_attempts_of_outcome_eq_ok
    (outcome_forM_writeOutput_on laws (parsedLog verbose path text grammar)
      ((files.read path).run s).2 hnull hencode)
  refine ⟨sources, turns, hsources, hnames, hturns, ?_⟩
  rw [compileOn_eq htext hgrammar hsources, writeOutputs_on hrun]
  refine hattempts.attempted laws (errors_parsedLog ..) ?_
  rw [hturns]

/-- A compile run writes all or reports: either it reports the one error that keeps it from a
grammar, or it attempts both files and reports those that cannot be written. -/
theorem compileOn_allOrReported (laws : files.Laws view) (hpath : '\x00' ∉ path.toList)
    (hmodule : '\x00' ∉ module.toList)
    (hdirectory : ((files.isDirectory directory).run s).1 = true) (hname : module ≠ "")
    (hencode : EncodesSources files s path module extra policy) :
    AllOrReported files view s path directory module extra policy verbose
      (compileOn files s path directory module extra policy verbose) where
  of_fault := reported_compileOn laws hpath
  of_grammar _ h :=
    attempted_compileOn laws (laws.null_notMem s directory hdirectory) hmodule hname hencode h

/-! ## Runs that end well -/

/-- A run that ends well has found a grammar and attempted its files, and none of them failed. -/
theorem exists_attempts_of_compileOn_eq_ok
    (h : (compileOn files s path directory module extra policy verbose).outcome = .ok sources) :
    ∃ grammar before turns, HoldsGrammar files s path extra policy grammar ∧
      Swift.generateSources grammar module (Path.baseName path) = some sources ∧
      turns.map Prod.snd = sources ∧ (∀ turn ∈ turns, files.fails directory turn = false) ∧
      Attempts files directory ((files.read path).run s).2 before turns
        (compileOn files s path directory module extra policy verbose).state
        (compileOn files s path directory module extra policy verbose).log := by
  -- The run came past its first step, which is to read a grammar.
  have hparsed := h
  rw [compileOn, compileGrammar, Run.on_log_bind] at hparsed
  obtain ⟨grammar, hfrontend, -⟩ := Run.exists_of_on_bind_eq_ok hparsed
  obtain ⟨text, htext, hgrammar⟩ := holdsGrammar_of_outcome_eq_ok hfrontend
  cases hgenerated : Swift.generateSources grammar module (Path.baseName path) with
  -- The module has no name.
  | none =>
    rw [compileOn, compileGrammar, Run.on_log_bind,
      Run.on_bind_of_ok (frontend_on _ htext hgrammar), Run.on_log_bind, hgenerated] at h
    cases h
  | some generated =>
    rw [compileOn_eq htext hgrammar hgenerated] at h ⊢
    obtain ⟨⟨⟩, hwrite, -⟩ := Run.exists_of_on_bind_eq_ok h
    obtain ⟨⟨⟩, hwrite, -⟩ := Run.exists_of_on_bind_eq_ok hwrite
    obtain ⟨turns, after, log', hrun, hturns, hattempts⟩ := exists_attempts_of_outcome_eq_ok hwrite
    rw [writeOutputs_on hrun] at h ⊢
    dsimp only at h
    split_ifs at h with herrors
    obtain rfl : generated = sources := Except.ok.inj h
    refine ⟨grammar, _, turns, ⟨text, htext, hgrammar⟩, hgenerated, hturns, ?_, hattempts⟩
    -- Each file that fails is an error, and then the run does not end well.
    have hcount := hattempts.errors_eq
    rw [herrors, errors_parsedLog, Nat.zero_add, eq_comm, List.countP_eq_zero] at hcount
    exact fun turn hturn => Bool.eq_false_iff.mpr (hcount turn hturn)

/-- A run that ends well changes no place but those of its files. -/
theorem frame_of_outcome_eq_ok (laws : files.Laws view)
    (h : (compileOn files s path directory module extra policy verbose).outcome = .ok sources) :
    FileView.Frame ((view s).IsPlaceOf (outputPaths directory module)) (view s)
      (view (compileOn files s path directory module extra policy verbose).state) := by
  obtain ⟨_, _, turns, -, hsources, hturns, -, hattempts⟩ := exists_attempts_of_compileOn_eq_ok h
  have hframe := hattempts.frame laws
  rwa [laws.view_read, turnPaths_of_generateSources hsources hturns] at hframe

/-- After a run that ends well, both files hold their texts, if their paths are apart. -/
theorem holdsText_of_outcome_eq_ok (laws : files.Laws view)
    (hapart : (view s).Apart (outputPaths directory module))
    (h : (compileOn files s path directory module extra policy verbose).outcome = .ok sources) :
    ∀ file ∈ sources,
      (view (compileOn files s path directory module extra policy verbose).state).HoldsText
        (Path.join directory file.name) file.unifiedText := by
  obtain ⟨_, _, turns, -, hsources, hturns, hfails, hattempts⟩ :=
    exists_attempts_of_compileOn_eq_ok h
  rw [← turnPaths_of_generateSources hsources hturns, ← laws.view_read s path] at hapart
  rw [← hturns, List.forall_mem_map]
  exact fun turn hturn => hattempts.holdsText laws hapart turn hturn (hfails turn hturn)

end SyntaxBridge
