import SyntaxBridge.Proofs.Grammar.Analysis
import SyntaxBridge.Proofs.Grammar.Fault
import SyntaxBridge.Proofs.Grammar.Numbering

/-!
# A grammar is read line by line

The rules of a text are those of its lines, in order and each on its own line, and the first line
that cannot be read is the one that is blamed. `IsReadByLine` puts together what decides about the
outcome: rejected lines come first, a second declaration of the entrypoints next, and the synthetic
token last. Two texts with a line feed between them are read one after the other
(`declaredRules_append`), since no line end goes across the line feed.
-/

namespace SyntaxBridge

open Outcome

/-- A text has a line with the given number, counted from one, and that line is not blank. Blank
lines count, but they are not read. -/
structure HasLine (text : String) (number : Nat) (line : String) : Prop where
  pos : 0 < number
  getElem?_eq : (Text.splitLines text.toList)[number - 1]? = some line.toList
  allBlank_eq : Text.allBlank line.toList = false

/-- A line of a text is rejected with an error. -/
def RejectsLine (text : String) (number : Nat) (e : GrammarError) : Prop :=
  ∃ line, HasLine text number line ∧ Parser.parseLine line (.number number) = .error e

/-- The rules of a line, where it is not blank and can be read. -/
def rulesOfLine (line : List Char) (number : Nat) : List Rule :=
  if Text.allBlank line then []
  else
    match Parser.parseLine (String.ofList line) (.number number) with
    | .ok rules => rules
    | .error _ => []

/-- The rules of all lines of a text, in order. -/
def rulesOfLines (text : String) : List Rule :=
  ((Text.splitLines text.toList).zipIdx 1).flatMap fun (line, number) => rulesOfLine line number

/-- The line that a line comes to stand on after others have been put before it. -/
def LineNumber.raise (count : Nat) (line : LineNumber) : LineNumber :=
  number (line.toInt + count)

variable {text : String}

/-! ## Lines of a text -/

/-- The lines that are read are those that the text has. -/
theorem mem_numberFrom_iff {line : String} {number : Nat} :
    (line, number) ∈ numberFrom 1 (Text.splitLines text.toList) ↔ HasLine text number line := by
  simp only [numberFrom, List.mem_filterMap, Prod.exists,
    List.mk_mem_zipIdx_iff_le_and_getElem?_sub, Option.ite_none_left_eq_some, Bool.not_eq_true,
    Option.some.injEq, Prod.mk.injEq]
  constructor
  · rintro ⟨line, _, ⟨hpos, hline⟩, hblank, rfl, rfl⟩
    exact ⟨hpos, by rwa [String.toList_ofList], by rwa [String.toList_ofList]⟩
  · rintro ⟨hpos, hline, hblank⟩
    exact ⟨line.toList, number, ⟨hpos, hline⟩, hblank, String.ofList_toList, rfl⟩

/-- Numbered lines are rejected with the error of the first line that is. -/
theorem readLines_eq_error_iff {lines : List (String × Nat)} {e : GrammarError} :
    readLines lines = .error e ↔
      lines.mapM (fun entry => Parser.parseLine entry.1 (.number entry.2)) = .error e := by
  rw [readLines]
  cases lines.mapM fun entry => Parser.parseLine entry.1 (.number entry.2) with
  | error e' => simp [Functor.map, Except.map]
  | ok rules => simp [Functor.map, Except.map]

/-- A text with a rejected line is rejected. -/
theorem exists_declaredRules_eq_error (h : ∃ number e, RejectsLine text number e) :
    ∃ e, declaredRules text = .error e := by
  obtain ⟨number, e, line, hline, he⟩ := h
  have hfails : ∃ e, (numberFrom 1 (Text.splitLines text.toList)).mapM (fun entry =>
      Parser.parseLine entry.1 (.number entry.2)) = .error e :=
    exists_mapM_eq_error_iff.mpr ⟨_, mem_numberFrom_iff.mpr hline, e, he⟩
  exact hfails.imp fun e he => readLines_eq_error_iff.mpr he

/-- The error of the first line that is rejected is that of the text. -/
theorem declaredRules_eq_error_iff {e : GrammarError} :
    declaredRules text = .error e ↔
      ∃ number, RejectsLine text number e ∧
        ∀ earlier < number, ∀ e', ¬ RejectsLine text earlier e' := by
  have hsorted := pairwise_lt_numberFrom 1 (Text.splitLines text.toList)
  rw [declaredRules_eq_readLines, readLines_eq_error_iff, mapM_eq_error_iff]
  constructor
  · rintro ⟨before, ⟨line, number⟩, after, hlines, hbefore, he⟩
    have hline : HasLine text number line := mem_numberFrom_iff.mp (by simp [hlines])
    refine ⟨number, ⟨line, hline, he⟩, ?_⟩
    rintro earlier hlt e' ⟨other, hother, he'⟩
    -- A line with a smaller number stands before this one, and those can be read.
    have hmem := mem_numberFrom_iff.mpr hother
    rw [hlines] at hmem hsorted
    rcases List.mem_append.mp hmem with hmem | hmem
    · obtain ⟨rules, hrules⟩ := hbefore _ hmem
      cases hrules.symm.trans he'
    · have hge : number ≤ earlier := by
        rcases List.mem_cons.mp hmem with h | h
        · cases h
          exact Nat.le_refl _
        · have hafter := (List.pairwise_append.mp hsorted).2.1
          exact Nat.le_of_lt ((List.pairwise_cons.mp hafter).1 _ h)
      omega
  · rintro ⟨number, ⟨line, hline, he⟩, hfirst⟩
    obtain ⟨before, after, hlines⟩ := List.append_of_mem (mem_numberFrom_iff.mpr hline)
    refine ⟨before, (line, number), after, hlines, ?_, he⟩
    rintro ⟨other, earlier⟩ hmem
    have hother : HasLine text earlier other := mem_numberFrom_iff.mp (by simp [hlines, hmem])
    rw [hlines] at hsorted
    have hlt := (List.pairwise_append.mp hsorted).2.2 _ hmem _ List.mem_cons_self
    cases hparse : Parser.parseLine other (.number earlier) with
    | error e' => exact absurd ⟨other, hother, hparse⟩ (hfirst earlier hlt e')
    | ok rules => exact ⟨rules, rfl⟩

/-- Lines that can all be read give their rules one after the other. -/
theorem readLines_numberFrom {lines : List (List Char)} {start : Nat}
    (h : ∀ entry ∈ numberFrom start lines,
      ∃ rules, Parser.parseLine entry.1 (.number entry.2) = .ok rules) :
    readLines (numberFrom start lines) =
      .ok ((lines.zipIdx start).flatMap fun (line, number) => rulesOfLine line number) := by
  induction lines generalizing start with
  | nil => rfl
  | cons line lines ih =>
    have hsplit : numberFrom start (line :: lines) =
        numberFrom start [line] ++ numberFrom (start + 1) lines :=
      numberFrom_append start [line] lines
    rw [hsplit] at h ⊢
    have hrest := ih fun entry hentry => h entry (List.mem_append_right _ hentry)
    have hfirst : readLines (numberFrom start [line]) = .ok (rulesOfLine line start) := by
      by_cases hblank : Text.allBlank line = true
      · simp [numberFrom, rulesOfLine, hblank, readLines, pure, Except.pure]
      · obtain ⟨rules, hrules⟩ := h (String.ofList line, start) (by simp [numberFrom, hblank])
        simp [numberFrom, rulesOfLine, hblank, hrules, readLines, bind, Except.bind, pure,
          Except.pure]
    rw [readLines_append, hfirst, hrest]
    rfl

/-- The rules of a line stand on it. -/
theorem line_of_mem_rulesOfLine {line : List Char} {number : Nat} {rule : Rule}
    (h : rule ∈ rulesOfLine line number) : rule.line = .number number := by
  unfold rulesOfLine at h
  split_ifs at h
  · cases h
  · split at h
    · exact Parser.line_of_parseLine_eq_ok ‹_› h
    · cases h

/-- A text without a rejected line declares the rules of its lines. -/
theorem declaredRules_eq_ok (h : ∀ number e, ¬ RejectsLine text number e) :
    declaredRules text = .ok (rulesOfLines text) := by
  refine readLines_numberFrom ?_
  rintro ⟨line, number⟩ hmem
  cases hparse : Parser.parseLine line (.number number) with
  | error e => exact absurd ⟨line, mem_numberFrom_iff.mp hmem, hparse⟩ (h number e)
  | ok rules => exact ⟨rules, rfl⟩

/-! ## Texts one after the other -/

/-- A line feed at the end of a text adds no rule. -/
theorem declaredRules_append_lineFeed (a : String) :
    declaredRules (a ++ "\n") = declaredRules a := by
  rw [declaredRules_eq_readLines, declaredRules_eq_readLines, String.toList_append]
  have hlines := Text.splitLines_append_singleton_lineFeed a.toList
  rcases hlines with h | h
  · exact congrArg (fun lines => readLines (numberFrom 1 lines)) h
  -- The line feed starts a line only if that stays empty.
  · refine congrArg readLines ((congrArg (numberFrom 1) h).trans ?_)
    rw [numberFrom_append]
    exact List.append_nil _

/-- Two texts with a line feed between them declare the rules of both, those of the second on lines
that are further down by all of the lines before. -/
theorem declaredRules_append (a b : String) :
    declaredRules (a ++ "\n" ++ b) = do
      let first ← declaredRules a
      let later ← relocateRules (.raise (Text.splitLines (a ++ "\n").toList).length)
        (declaredRules b)
      return first ++ later := by
  have htext : (a ++ "\n" ++ b).toList = a.toList ++ '\n' :: b.toList := by
    simp [String.toList_append]
  have hfirst : (a ++ "\n").toList = a.toList ++ ['\n'] := String.toList_append
  rw [← declaredRules_append_lineFeed a, declaredRules_eq_readLines, declaredRules_eq_readLines,
    declaredRules_eq_readLines, htext, hfirst, Text.splitLines_append_lineFeed, numberFrom_append,
    readLines_append, numberFrom_add]
  rw [readLines_map (f := .raise _) (g := (· + _)) fun _ => rfl]

/-! ## The outcome of reading -/

/-- The entrypoints are read off exactly if they are not declared a second time. -/
theorem exists_entrypointTypes_eq_ok_iff {rules : List Rule} :
    (∃ types, entrypointTypes rules = .ok types) ↔
      (rules.filterMap Rule.entrypoint?).length ≤ 1 := by
  simp only [entrypointTypes_eq_ok_iff, exists_and_left, exists_eq, and_true]
  exact Nat.lt_succ_iff

/-- The rules that are read are those that the text declares, once the entrypoints are not declared
twice. -/
theorem parseGrammar_eq_ok_iff {rules : List Rule} :
    parseGrammar text = .ok rules ↔
      ∃ declared, declaredRules text = .ok declared ∧
        (declared.filterMap Rule.entrypoint?).length ≤ 1 ∧ rules = injectIdent declared := by
  rw [parseGrammar, bind_eq_ok_iff]
  refine exists_congr fun declared => and_congr_right fun _ => ?_
  rw [bind_eq_ok_iff, ← exists_entrypointTypes_eq_ok_iff]
  constructor
  · rintro ⟨types, htypes, h⟩
    exact ⟨⟨types, htypes⟩, (Except.ok.inj h).symm⟩
  · rintro ⟨⟨types, htypes⟩, rfl⟩
    exact ⟨types, htypes, rfl⟩

/-- Rules that two texts with a line feed between them give: before the synthetic token is put in,
those of the first text and then those of the second, on lines that are further down by all of the
lines before. -/
def IsReadInParts (a b : String) (rules : List Rule) : Prop :=
  ∃ first later declared,
    declaredRules a = .ok first ∧ parseGrammar a = .ok (injectIdent first) ∧
    declaredRules b = .ok later ∧ parseGrammar b = .ok (injectIdent later) ∧
    declaredRules (a ++ "\n" ++ b) = .ok declared ∧ rules = injectIdent declared ∧
    declared =
      first ++ later.map (.relocate (.raise (Text.splitLines (a ++ "\n").toList).length))

/-- What decides about the outcome of reading a text. -/
structure IsReadByLine (text : String) : Prop where
  /-- If lines are rejected, the text is rejected with the error of the first of them, which names
  that line. -/
  of_rejected : (∃ number e, RejectsLine text number e) →
    ∃ number line e, HasLine text number line ∧
      Parser.parseLine line (.number number) = .error e ∧
      (∀ earlier < number, ∀ e', ¬ RejectsLine text earlier e') ∧
      parseGrammar text = .error e ∧
      e.cause.kind = .unreadable ∧ e.line = .number number ∧ e.text = line
  /-- If no line is rejected, but the entrypoints are declared a second time, the text is rejected
  on the line of the second declaration. -/
  of_second : (∀ number e, ¬ RejectsLine text number e) →
    ∀ first second others,
      (rulesOfLines text).filterMap Rule.entrypoint? = first :: second :: others →
        ∃ e, parseGrammar text = .error e ∧
          e.cause = .secondEntrypoints ∧ e.cause.kind = .unreadable ∧ e.line = second.line
  /-- Otherwise the rules are those of the lines, and perhaps the synthetic token. -/
  of_accepted : (∀ number e, ¬ RejectsLine text number e) →
    ((rulesOfLines text).filterMap Rule.entrypoint?).length ≤ 1 →
      ∃ synthetic, parseGrammar text = .ok (rulesOfLines text ++ synthetic) ∧
        (synthetic = [] ∨ synthetic = [.token { type := Category.ident, line := .unknown }])
  /-- The rules of each line stand on that line. -/
  line_eq : ∀ entry ∈ (Text.splitLines text.toList).zipIdx 1,
    ∀ rule ∈ rulesOfLine entry.1 entry.2, rule.line = .number entry.2
  /-- If the text is two texts with a line feed between them, its rules are those of both. -/
  of_append : ∀ {a b rules}, text = a ++ "\n" ++ b → parseGrammar text = .ok rules →
    IsReadInParts a b rules

/-- Rules that are read from two texts one after the other are those of each text. -/
theorem parseGrammar_append {a b : String} {rules : List Rule}
    (h : parseGrammar (a ++ "\n" ++ b) = .ok rules) :
    IsReadInParts a b rules := by
  obtain ⟨declared, hdeclared, hentrypoints, rfl⟩ := parseGrammar_eq_ok_iff.mp h
  have hparts := hdeclared
  rw [declaredRules_append] at hparts
  obtain ⟨first, hfirst, hparts⟩ := bind_eq_ok_iff.mp hparts
  obtain ⟨moved, hmoved, hparts⟩ := bind_eq_ok_iff.mp hparts
  cases hparts
  cases hlater : declaredRules b with
  | error e =>
    rw [hlater] at hmoved
    cases hmoved
  | ok later =>
    rw [hlater] at hmoved
    cases hmoved
    -- Each part declares no more entrypoints than both together.
    rw [List.filterMap_append, filterMap_entrypoint?_relocate, List.length_append,
      List.length_map] at hentrypoints
    refine ⟨first, later, _, hfirst, ?_, hlater, ?_, hdeclared, rfl, rfl⟩
    · exact parseGrammar_eq_ok_iff.mpr ⟨first, hfirst, by omega, rfl⟩
    · exact parseGrammar_eq_ok_iff.mpr ⟨later, hlater, by omega, rfl⟩

/-- Every text is read line by line: the first rejected line is blamed, then a second declaration of
the entrypoints, and else no rule is lost, moved or put on another line. -/
theorem parseGrammar_isReadByLine (text : String) : IsReadByLine text where
  of_rejected := by
    intro hrejected
    -- Reading the lines fails somewhere, and then it fails at the first line that is rejected.
    obtain ⟨e, hdeclared⟩ := exists_declaredRules_eq_error hrejected
    obtain ⟨number, ⟨line, hline, he⟩, hfirst⟩ := declaredRules_eq_error_iff.mp hdeclared
    obtain ⟨hkind, hnumber, htext⟩ := Parser.parseLine_eq_error he
    refine ⟨number, line, e, hline, he, hfirst, ?_, hkind, hnumber, htext⟩
    rw [parseGrammar, hdeclared]
    rfl
  of_second := by
    intro hnone first second others hentrypoints
    have hread : ∃ e, entrypointTypes (rulesOfLines text) = .error e ∧
        e.cause = .secondEntrypoints ∧ e.line = second.line := by
      rw [entrypointTypes, hentrypoints]
      exact ⟨_, rfl, rfl, rfl⟩
    obtain ⟨e, he, hcause, hline⟩ := hread
    refine ⟨e, ?_, hcause, kind_of_entrypointTypes_eq_error he, hline⟩
    rw [parseGrammar, declaredRules_eq_ok hnone]
    exact bind_eq_error_iff.mpr (.inr ⟨_, rfl, bind_eq_error_iff.mpr (.inl he)⟩)
  of_accepted := by
    intro hnone hentrypoints
    have hread : parseGrammar text = .ok (injectIdent (rulesOfLines text)) :=
      parseGrammar_eq_ok_iff.mpr ⟨_, declaredRules_eq_ok hnone, hentrypoints, rfl⟩
    rw [injectIdent] at hread
    split_ifs at hread
    · exact ⟨_, hread, .inr rfl⟩
    · exact ⟨[], by rwa [List.append_nil], .inl rfl⟩
  line_eq := fun _ _ _ hmem => line_of_mem_rulesOfLine hmem
  of_append := by
    rintro a b rules rfl h
    exact parseGrammar_append h

/-- A carriage return and a line feed end one line, and a form feed ends the next. -/
example : parseGrammar "token Id ;\r\n\x0ctoken ;" =
    .error { cause := .missingTokenName, text := "token ;", line := .number 3 } := by
  decide +kernel

end SyntaxBridge
