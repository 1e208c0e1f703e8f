import SyntaxBridge.Proofs.Compile.Output
import SyntaxBridge.Proofs.Grammar.Untyped

/-!
# From a file to a grammar or a report

Either a file holds a grammar (`HoldsGrammar`), and then reading it gives that grammar, or there is
something wrong with the file or with the grammar in it (`GrammarFault`), and then this is reported
as one error, which ends the run. Nothing is done to the files but that the grammar is read.
-/

namespace SyntaxBridge

open Outcome

/-- The grammar of a text. -/
def grammarOf (text : String) (extra : ExtraCases) (policy : BoxPolicy) :
    Except GrammarError Grammar := do
  analyze (← parseGrammar text) extra policy

variable {σ ι : Type} {files : FileSystem (StateM σ)} {view : σ → FileView ι} {s : σ}
  {path : String} {extra : ExtraCases} {policy : BoxPolicy} {log : Log}

/-- A file holds a grammar. -/
def HoldsGrammar (files : FileSystem (StateM σ)) (s : σ) (path : String) (extra : ExtraCases)
    (policy : BoxPolicy) (grammar : Grammar) : Prop :=
  ∃ text, files.Reads s path text ∧ grammarOf text extra policy = .ok grammar

/-- What is wrong with a file or with the grammar in it: the message, the line at fault and the text
that is shown with it. -/
inductive GrammarFault (files : FileSystem (StateM σ)) (s : σ) (path : String)
    (extra : ExtraCases) (policy : BoxPolicy) : String → LineNumber → Option String → Prop
  /-- The file cannot be read. -/
  | unread {e : FileError} (h : ((files.read path).run s).1 = .error e) :
    GrammarFault files s path extra policy ("cannot read grammar: " ++ e.message path) .unknown none
  /-- The file is no text. -/
  | undecoded {bytes : List UInt8} {fault : Text.DecodeFault}
    (h : ((files.read path).run s).1 = .ok bytes) (hfault : decodeFile bytes = .error fault) :
    GrammarFault files s path extra policy ("cannot read grammar: " ++ fault.message) .unknown none
  /-- The grammar is rejected. -/
  | rejected {text : String} {e : GrammarError} (h : files.Reads s path text)
    (he : grammarOf text extra policy = .error e) :
    GrammarFault files s path extra policy e.message e.line
      (if e.text.isEmpty then none else some e.text)

/-- A file that holds no grammar has something wrong with it. -/
theorem exists_grammarFault (h : ∀ grammar, ¬ HoldsGrammar files s path extra policy grammar) :
    ∃ message line text, GrammarFault files s path extra policy message line text := by
  cases hread : ((files.read path).run s).1 with
  | error e => exact ⟨_, _, _, .unread hread⟩
  | ok bytes =>
    cases hdecode : decodeFile bytes with
    | error fault => exact ⟨_, _, _, .undecoded hread hdecode⟩
    | ok text =>
      have htext : files.Reads s path text := ⟨bytes, hread, hdecode⟩
      cases hgrammar : grammarOf text extra policy with
      | error e => exact ⟨_, _, _, .rejected htext hgrammar⟩
      | ok grammar => exact absurd ⟨text, htext, hgrammar⟩ (h grammar)

/-- Reading and analysing a text with options that need no check. -/
theorem readGrammar_ofTyped (text : String) :
    readGrammar text (.ofTyped extra policy) =
      (grammarOf text extra policy).mapError .grammar := by
  rw [readGrammar, grammarOf, ← mapError_bind]
  congr 1
  funext rules
  exact analyzeUntyped_ofTyped rules extra policy

/-- The text in a file is read without a message. -/
theorem readGrammarText_on {text : String} (h : files.Reads s path text) :
    (readGrammarText files path).on log s = ⟨.ok text, log, ((files.read path).run s).2⟩ := by
  obtain ⟨bytes, hread, hdecode⟩ := h
  rw [readGrammarText, Run.on_files_bind, hread]
  dsimp only
  rw [hdecode]
  rfl

/-- The detail that says what was found in a file. -/
def parsedMessage (grammar : Grammar) : String :=
  "parsed " ++ toString grammar.rules.length ++ " rules into " ++
    toString grammar.groups.length ++ " types"

/-- A grammar in a file is read, and nothing is printed but a detail. -/
theorem frontend_on {text : String} {grammar : Grammar} (log : Log)
    (htext : files.Reads s path text) (hgrammar : grammarOf text extra policy = .ok grammar) :
    (frontend files path (.ofTyped extra policy)).on log s =
      ⟨.ok grammar, (log.addSource path text).detail (parsedMessage grammar),
        ((files.read path).run s).2⟩ := by
  rw [frontend, Run.on_bind_of_ok (readGrammarText_on htext), Run.on_log_bind,
    readGrammar_ofTyped, hgrammar]
  rfl

/-- What is wrong with a file or with the grammar in it is reported, and nothing else, if its path
is one. -/
theorem exists_frontend_on_fault (log : Log) {message : String} {line : LineNumber}
    {text : Option String} (hnull : ((files.read path).run s).1 ≠ .error .nullCharacter)
    (h : GrammarFault files s path extra policy message line text) :
    ∃ log' : Log, log'.errors = log.errors ∧ log'.printed = log.printed ∧
      (frontend files path (.ofTyped extra policy)).on log s =
        ⟨.error (.halted (log'.errorAt message path line text).haltMessage),
          log'.errorAt message path line text, ((files.read path).run s).2⟩ := by
  cases h with
  | @unread e hread =>
    refine ⟨log, rfl, rfl, ?_⟩
    rw [hread] at hnull
    rw [frontend, Run.on_bind, readGrammarText, Run.on_files_bind, hread]
    cases e <;> first | exact absurd rfl hnull | rfl
  | undecoded hread hfault =>
    refine ⟨log, rfl, rfl, ?_⟩
    rw [frontend, Run.on_bind, readGrammarText, Run.on_files_bind, hread]
    dsimp only
    rw [hfault]
    rfl
  | @rejected text e htext he =>
    refine ⟨log.addSource path text, rfl, rfl, ?_⟩
    rw [frontend, Run.on_bind_of_ok (readGrammarText_on htext), Run.on_log_bind,
      readGrammar_ofTyped, he]
    rfl

/-- A run that goes on after a grammar has found it in the file. -/
theorem holdsGrammar_of_outcome_eq_ok {grammar : Grammar}
    (h : ((frontend files path (.ofTyped extra policy)).on log s).outcome = .ok grammar) :
    HoldsGrammar files s path extra policy grammar := by
  by_cases hholds : ∃ grammar, HoldsGrammar files s path extra policy grammar
  · obtain ⟨found, text, htext, hfound⟩ := hholds
    rw [frontend_on log htext hfound] at h
    obtain rfl := Except.ok.inj h
    exact ⟨text, htext, hfound⟩
  by_cases hnull : ((files.read path).run s).1 = .error .nullCharacter
  -- The path is none.
  · rw [frontend, Run.on_bind, readGrammarText, Run.on_files_bind, hnull] at h
    cases h
  · obtain ⟨message, line, text, hfault⟩ := exists_grammarFault (not_exists.mp hholds)
    obtain ⟨_, -, -, hended⟩ := exists_frontend_on_fault log hnull hfault
    rw [hended] at h
    cases h

end SyntaxBridge
