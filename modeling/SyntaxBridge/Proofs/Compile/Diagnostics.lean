import Mathlib
import SyntaxBridge.Proofs.Compile.AllOrReported
import SyntaxBridge.Proofs.Files.Tree
import SyntaxBridge.Proofs.Grammar.Blame

/-!
# Errors are reported at their place

A run that reads a grammar in which something is wrong prints one error: the file, the number of the
line at fault, the message and the text that belongs to it. The number is that of a line of the file
as it was read, and the text is that of what `PointsTo` says is at fault (`frontend_reportsError`).
-/

namespace SyntaxBridge

/-- A file holds a text, with a line feed for every line end. -/
def FileTree.HoldsText (tree : FileTree) (path text : String) : Prop :=
  ∃ bytes, tree.read path = .ok bytes ∧ decodeFile bytes = .ok text

/-- The lines that report an error in a file, at a place or at none. -/
def reportText (path message : String) : Option (Nat × String) → String
  | some (number, shown) =>
    path ++ ":" ++ toString number ++ ": error: " ++ message ++ "\n" ++ shown ++ "\n"
  | none => path ++ ": error: " ++ message ++ "\n"

/-- A log reports an error of the grammar in a file, at its place. -/
structure ReportsError (path text : String) (extra : List String) (e : GrammarError) (log : Log) :
    Prop where
  /-- The file as it was read is what errors in it point to. -/
  source_eq : log.source path = text
  /-- No other error was reported. -/
  errors_eq : log.errors = 1
  /-- What is printed is the error, with what it points to. A number is that of a line. -/
  printed_eq : ∃ place, PointsTo text extra e place ∧
    (∀ number shown, place = some (number, shown) → e.line = .number number ∧ 1 ≤ number ∧
      number ≤ (Text.splitLines (log.source path).toList).length) ∧
    (place = none → e.line = .unknown ∧ e.text = "") ∧
    log.printed = reportText path e.message place

variable {tree : FileTree} {path text : String} {options : AnalysisOptions} {e : GrammarError}

/-- A source that was registered is found. -/
@[simp]
theorem Log.source_addSource (log : Log) (path text : String) :
    (log.addSource path text).source path = text := by
  simp [source, addSource]

/-- A reported error leaves the sources as they are. -/
@[simp]
theorem Log.source_errorAt (log : Log) (message file : String) (line : LineNumber)
    (text : Option String) (path : String) :
    (log.errorAt message file line text).source path = log.source path := by
  rw [errorAt, showError]
  dsimp only [print]
  split_ifs <;> rfl

/-- The wording of the end of a run with one error. -/
theorem Log.haltMessage_of_errors_eq {log : Log} (h : log.errors = 1) :
    log.haltMessage = "Halting due to 1 error(s)." := by
  rw [haltMessage, h]
  decide

/-- An error with a line and a text to show is printed in two lines. -/
theorem Log.printed_showError (log : Log) (message : String) {place : Location}
    {text : Option String} (hline : place.line.isKnown = true)
    (hne : text.getD place.text ≠ "") :
    (log.showError message place text).printed =
      log.printed ++ (place.file ++ ":" ++ toString place.line.toInt ++ ": error: " ++ message ++
        "\n" ++ text.getD place.text ++ "\n") := by
  have hshown : (text.getD place.text).isEmpty = false := by simpa using hne
  simp only [showError, hline, hshown, if_true, Bool.false_eq_true, if_false, print,
    String.append_assoc]

/-- An error without a line and a text to show is printed in one line. -/
theorem Log.printed_showError_of_unknown (log : Log) (message : String) {place : Location}
    {text : Option String} (hline : place.line.isKnown = false)
    (hempty : text.getD place.text = "") :
    (log.showError message place text).printed =
      log.printed ++ (place.file ++ ": error: " ++ message ++ "\n") := by
  simp [showError, hline, hempty, print, String.append_assoc]

/-- An error that has a place is printed with it. -/
theorem printed_errorAt {log : Log} {place : Option (Nat × String)} (message : String)
    (hprinted : log.printed = "") (h : Locates (log.source path) e place) :
    (log.errorAt message path e.line (if e.text.isEmpty then none else some e.text)).printed =
      reportText path message place := by
  cases h with
  | @line number shown hline hpos _ hne hshown =>
    have hknown : e.line.isKnown = true := by
      rw [hline, LineNumber.isKnown, LineNumber.toInt, bne_iff_ne]
      omega
    -- The text of the error goes before that of its line, if it has one.
    have htext : (if e.text.isEmpty then none else some e.text).getD
        (Location.find path (log.source path) e.line).text = shown := by
      rw [← hshown, hline]
      split_ifs <;> rfl
    rw [Log.errorAt, Log.printed_showError log message hknown (htext ▸ hne), htext, hprinted,
      String.empty_append, Location.find, hline]
    rfl
  | nowhere hline htext =>
    have hempty : (if e.text.isEmpty then none else some e.text).getD
        (Location.find path (log.source path) e.line).text = "" := by
      rw [htext, hline]
      rfl
    rw [Log.errorAt, Log.printed_showError_of_unknown log message (hline ▸ rfl) hempty, hprinted,
      String.empty_append]
    rfl

/-- A grammar with something wrong in it is reported, at the place of what is wrong, and nothing
else is printed. -/
theorem frontend_reportsError (h : tree.HoldsText path text)
    (he : readGrammar text options = .error (.grammar e)) (verbose : Bool) :
    ∃ log, (frontend FileTree.system path options).on { verbose } tree =
        ⟨.error (.halted "Halting due to 1 error(s)."), log, tree⟩ ∧
      ReportsError path text (options.extra.map (·.1)) e log := by
  have htext : FileTree.system.Reads tree path text := h
  obtain ⟨place, hpoints, hlocates⟩ := exists_pointsTo_of_readGrammar he
  have hsource := Log.source_addSource { verbose } path text
  have herrors : (({ verbose : Log }.addSource path text).errorAt e.message path e.line
      (if e.text.isEmpty then none else some e.text)).errors = 1 :=
    Log.errors_errorAt _ _ _ _ _
  refine ⟨_, ?_, ⟨by rw [Log.source_errorAt, hsource], herrors, place, hpoints, ?_, ?_,
    printed_errorAt e.message rfl (hsource.symm ▸ hlocates)⟩⟩
  · rw [frontend, Run.on_bind_of_ok (readGrammarText_on htext), Run.on_log_bind, he,
      ← Log.haltMessage_of_errors_eq herrors]
    rfl
  · rintro number shown rfl
    rw [Log.source_errorAt, hsource]
    cases hlocates with
    | line hline hpos hle => exact ⟨hline, hpos, hle⟩
  · rintro rfl
    cases hlocates with
    | nowhere hline htext => exact ⟨hline, htext⟩

/-- A grammar that declares a token and then gives it an alternative. -/
def contradictoryGrammar : String :=
  "EInt. Exp ::= Integer ;\n\ttoken Name letter+ ;\nN. Name ::= Exp ;"

/-- A tree with that grammar in it. -/
def contradictoryTree : FileTree :=
  { entries := [(["Calc.cf"], .file (Text.encode contradictoryGrammar.toList))] }

/-- The contradiction is reported on the line of the token. -/
theorem reportsError_contradictoryTree :
    ∃ e log, contradictoryTree.HoldsText "Calc.cf" contradictoryGrammar ∧
      readGrammar contradictoryGrammar {} = .error (.grammar e) ∧
      (frontend FileTree.system "Calc.cf").on {} contradictoryTree =
        ⟨.error (.halted "Halting due to 1 error(s)."), log, contradictoryTree⟩ ∧
      ReportsError "Calc.cf" contradictoryGrammar [] e log := by
  have htext : contradictoryTree.HoldsText "Calc.cf" contradictoryGrammar :=
    ⟨Text.encode contradictoryGrammar.toList, by decide +kernel, by decide +kernel⟩
  have hparse : parseGrammar contradictoryGrammar =
      .ok [.constructor ⟨"EInt", "Exp", ["Integer"], .number 1⟩, .token ⟨"Name", .number 2⟩,
        .constructor ⟨"N", "Name", ["Exp"], .number 3⟩] := by decide +kernel
  have he : readGrammar contradictoryGrammar {} =
      .error (.grammar { cause := .tokenWithRules "Name", line := .number 2 }) := by
    rw [readGrammar, hparse]
    cbv
  obtain ⟨log, hrun, hreports⟩ := frontend_reportsError htext he false
  exact ⟨_, log, htext, he, hrun, hreports⟩

end SyntaxBridge
