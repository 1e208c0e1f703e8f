import SyntaxBridge.Diagnostics.Location
import SyntaxBridge.Compile.Frontend
import SyntaxBridge.Proofs.Grammar.Ident

/-!
# Where an error of a grammar points to

An error that is found while a grammar is read or analysed points to a line, and a text is shown
with it. `PointsTo` lists what may be at fault: a line that cannot be read, a second declaration of
the entrypoints, a token that contradicts other rules. Two errors have no line to point to: one that
comes from the cases to be added by hand, and one that comes from the token of identifiers where no
line declares it. There are no others (`exists_pointsTo_of_readGrammar`).
-/

namespace SyntaxBridge

open Outcome

/-- A line as it is shown: every tab is four spaces. -/
def shownLine (line : String) : String :=
  String.ofList (Text.replaceChar '\t' [' ', ' ', ' ', ' '] line.toList)

/-- What an error of a grammar points to: a line of the text and what is shown with the error, or
nothing. -/
inductive PointsTo (text : String) (extra : List String) (e : GrammarError) :
    Option (Nat × String) → Prop
  /-- A line cannot be read. It is shown as it stands. -/
  | rejected {number : Nat} {line : String} (hline : HasLine text number line)
    (he : Parser.parseLine line (.number number) = .error e) :
    PointsTo text extra e (some (number, line))
  /-- A line declares the entrypoints for the second time. The categories on it are shown. -/
  | second {number : Nat} {line : String} {first : Entrypoint} {types : List String}
    {others : List Entrypoint} (hline : HasLine text number line)
    (hread : Parser.parseLine line (.number number) =
      .ok [.entrypoint ⟨types, .number number⟩])
    (hsecond : (rulesOfLines text).filterMap Rule.entrypoint? =
      first :: ⟨types, .number number⟩ :: others)
    (hcause : e.cause = .secondEntrypoints) :
    PointsTo text extra e (some (number, "entrypoints " ++ ", ".intercalate types))
  /-- A line declares a token that has alternatives as well or is declared twice. The line is shown
  without tabs. -/
  | token {number : Nat} {line : String} {rule : List Char} {type : String}
    (hline : HasLine text number line) (hrule : Parser.declaration line.toList = .ok rule)
    (hnames : Parser.NamesToken rule type)
    (hcause : e.cause = .tokenWithRules type ∨ e.cause = .secondToken type) :
    PointsTo text extra e (some (number, shownLine line))
  /-- Cases are to be added to a category that takes none. -/
  | extra {name : String} (hname : name ∈ extra)
    (hcause : e.cause = .extraForUnknown name ∨ e.cause = .extraForToken name) :
    PointsTo text extra e none
  /-- A line refers to the category of identifiers and another gives it an alternative, but none
  declares the token that they contradict. -/
  | synthetic (hrefers : LineRefersToIdent text) (hextends : LineExtendsIdent text)
    (hnone : ¬ ∃ number, LineDeclaresIdent text number)
    (hcause : e.cause = .tokenWithRules "Ident") :
    PointsTo text extra e none

/-! ## Contradictory rules -/

/-- Rules of a category that are refused are so for one of their tokens: there are alternatives next
to it, or another token before it. -/
theorem Members.ofRules_eq_error {type : String} {rules : List Rule} {e : GrammarError}
    (htype : ∀ rule ∈ rules, rule.type? = some type) (h : ofRules type rules = .error e) :
    ∃ token, .token token ∈ rules ∧ e.line = token.line ∧ e.text = "" ∧
      ((e.cause = .tokenWithRules type ∧ ∃ alternative, .constructor alternative ∈ rules) ∨
        e.cause = .secondToken type ∧ 2 ≤ (rules.filterMap Rule.token?).length) := by
  have hmem : ∀ token ∈ rules.filterMap Rule.token?, .token token ∈ rules := by
    intro token htoken
    obtain ⟨rule, hrule, htoken⟩ := List.mem_filterMap.mp htoken
    exact Rule.token?_eq_some_iff.mp htoken ▸ hrule
  have hlength := length_tokens_add_length_constructors htype
  unfold ofRules at h
  split at h
  next => cases h
  next first others htokens =>
    rw [htokens] at hmem hlength ⊢
    split at h
    next hmixed =>
      cases h
      refine ⟨first, hmem first List.mem_cons_self, rfl, rfl, .inl ⟨rfl, ?_⟩⟩
      -- There are more rules than tokens.
      rw [List.length_cons] at hlength
      obtain ⟨alternative, halternative⟩ := List.exists_mem_of_length_pos
        (show 0 < (rules.filterMap Rule.constructor?).length by omega)
      obtain ⟨rule, hrule, hconstructor⟩ := List.mem_filterMap.mp halternative
      exact ⟨alternative, Rule.constructor?_eq_some_iff.mp hconstructor ▸ hrule⟩
    next =>
      split at h
      next => cases h
      next second _ hothers =>
        cases h
        exact ⟨second, hmem second (by simp), rfl, rfl, .inr ⟨rfl, by simp⟩⟩

/-- Rules that cannot be grouped are blamed on a token of a category that has alternatives too or
another token. -/
theorem exists_token_of_groupByType_eq_error {rules : List Rule} {e : GrammarError}
    (h : groupByType rules = .error e) :
    ∃ token, .token token ∈ rules ∧ e.line = token.line ∧ e.text = "" ∧
      ((e.cause = .tokenWithRules token.type ∧
          ∃ alternative, .constructor alternative ∈ rules ∧ alternative.type = token.type) ∨
        e.cause = .secondToken token.type ∧
          2 ≤ (rules.filterMap Rule.token?).countP (·.type == token.type)) := by
  obtain ⟨_, type, _, _, _, h⟩ := mapM_eq_error_iff.mp h
  rcases bind_eq_error_iff.mp h with h | ⟨_, _, h⟩
  · obtain ⟨token, htoken, hline, htext, hcause⟩ :=
      Members.ofRules_eq_error (fun _ => type?_of_mem_rulesOf) h
    obtain rfl : token.type = type := Option.some.inj (type?_of_mem_rulesOf htoken)
    refine ⟨token, List.mem_of_mem_filter htoken, hline, htext, hcause.imp ?_ ?_⟩
    · rintro ⟨hcause, alternative, halternative⟩
      exact ⟨hcause, alternative, List.mem_of_mem_filter halternative,
        Option.some.inj (type?_of_mem_rulesOf halternative)⟩
    · rintro ⟨hcause, hlength⟩
      rw [filterMap_token?_rulesOf, ← List.countP_eq_length_filter] at hlength
      exact ⟨hcause, hlength⟩
  · cases h

/-! ## Lines as they are shown -/

variable {text : String} {rules : List Rule} {e : GrammarError}

/-- What an error says about its place, or what the line says that it names. -/
inductive Locates (text : String) (e : GrammarError) : Option (Nat × String) → Prop
  /-- The error is on a line of the text, and there is a text to show. -/
  | line {number : Nat} {shown : String} (hline : e.line = .number number) (hpos : 1 ≤ number)
    (hle : number ≤ (Text.splitLines text.toList).length) (hne : shown ≠ "")
    (hshown : (if e.text.isEmpty then Location.lineText text number else e.text) = shown) :
    Locates text e (some (number, shown))
  /-- The error is on no line, and there is no text to show. -/
  | nowhere (hline : e.line = .unknown) (htext : e.text = "") : Locates text e none

/-- The number of a line is at most that of the last line. -/
theorem HasLine.le_length {number : Nat} {line : String} (h : HasLine text number line) :
    number ≤ (Text.splitLines text.toList).length := by
  have hlt := (List.getElem?_eq_some_iff.mp h.getElem?_eq).1
  have hpos := h.pos
  omega

/-- The text that belongs to the number of a line is that line without tabs. -/
theorem HasLine.lineText_eq {number : Nat} {line : String} (h : HasLine text number line) :
    Location.lineText text number = shownLine line := by
  have hpos : ¬ (number : Int) < 1 := by
    have := h.pos
    omega
  have hindex : ((number : Int) - 1).toNat = number - 1 := by omega
  rw [Location.lineText, if_neg hpos, hindex, h.getElem?_eq]
  rfl

/-- A line that is read is not shown as nothing. -/
theorem HasLine.shownLine_ne {number : Nat} {line : String} (h : HasLine text number line) :
    shownLine line ≠ "" := by
  have hblank := h.allBlank_eq
  intro hempty
  rw [shownLine, String.ofList_eq_empty_iff, Text.replaceChar, List.flatMap_eq_nil_iff] at hempty
  cases hline : line.toList with
  | nil =>
    rw [hline] at hblank
    cases hblank
  | cons c cs =>
    -- Every character is shown as something.
    have hfirst := hempty c (hline ▸ List.mem_cons_self)
    split_ifs at hfirst

/-- An error with a text of its own is shown with it. -/
theorem HasLine.locates {number : Nat} {line : String} (h : HasLine text number line)
    (hnumber : e.line = .number number) (hne : e.text ≠ "") :
    Locates text e (some (number, e.text)) :=
  .line hnumber h.pos h.le_length hne (if_neg (by simpa using hne))

/-! ## Errors of reading -/

/-- Where no line is rejected, an error in the entrypoints points to the line of the second
declaration. -/
theorem exists_pointsTo_of_entrypointTypes (extra : List String)
    (h : entrypointTypes (rulesOfLines text) = .error e) :
    ∃ place, PointsTo text extra e place ∧ Locates text e place := by
  unfold entrypointTypes at h
  split at h
  next first second others hentrypoints =>
    cases h
    have hmem : second ∈ (rulesOfLines text).filterMap Rule.entrypoint? := by
      rw [hentrypoints]
      simp
    obtain ⟨rule, hrule, hentrypoint⟩ := List.mem_filterMap.mp hmem
    rw [Rule.entrypoint?_eq_some_iff.mp hentrypoint] at hrule
    obtain ⟨number, line, rules, hline, hread, hrule⟩ := mem_rulesOfLines_iff.mp hrule
    obtain ⟨_, _, hdeclares⟩ := Parser.exists_declares_of_parseLine hread
    obtain ⟨hrules, hnumber, -⟩ := hdeclares.eq_of_entrypoint_mem hrule
    obtain ⟨types, _⟩ := second
    obtain rfl : _ = LineNumber.number number := hnumber
    rw [hrules] at hread
    exact ⟨_, .second hline hread hentrypoints rfl, hline.locates rfl (by simp)⟩
  next => cases h
  next => cases h

/-- A text that cannot be read has a line that cannot be read, or one that declares the entrypoints
for the second time. -/
theorem exists_pointsTo_of_parseGrammar (extra : List String)
    (h : parseGrammar text = .error e) :
    ∃ place, PointsTo text extra e place ∧ Locates text e place := by
  rcases bind_eq_error_iff.mp h with hdeclared | ⟨declared, hdeclared, h⟩
  · obtain ⟨number, ⟨line, hline, he⟩, -⟩ := declaredRules_eq_error_iff.mp hdeclared
    obtain ⟨-, hnumber, rfl⟩ := Parser.parseLine_eq_error he
    refine ⟨_, .rejected hline he, hline.locates hnumber fun hempty => ?_⟩
    -- A line that is read is not blank.
    have hblank := hline.allBlank_eq
    rw [hempty] at hblank
    cases hblank
  · obtain ⟨-, rfl⟩ := eq_rulesOfLines_of_declaredRules hdeclared
    rcases bind_eq_error_iff.mp h with h | ⟨_, _, h⟩
    · exact exists_pointsTo_of_entrypointTypes extra h
    · cases h

/-! ## Errors of the analysis -/

/-- Rules of a text that cannot be grouped are blamed on a line that declares a token, or on the
token of identifiers that no line declares. -/
theorem exists_pointsTo_of_groupByType (extra : List String) (hread : parseGrammar text = .ok rules)
    (h : groupByType rules = .error e) :
    ∃ place, PointsTo text extra e place ∧ Locates text e place := by
  obtain ⟨haccepted, rfl⟩ := eq_injectIdent_of_parseGrammar hread
  obtain ⟨token, htoken, hline, htext, hcause⟩ := exists_token_of_groupByType_eq_error h
  have hempty : e.text.isEmpty = true := by rw [htext]; rfl
  rcases mem_injectIdent htoken with hgiven | ⟨hsynthetic, hdeclares, hrefers⟩
  · obtain ⟨number, line, rule, hhas, hrule, hnames, hnumber⟩ :=
      (token_mem_rulesOfLines_iff haccepted).mp hgiven
    refine ⟨_, .token hhas hrule hnames (hcause.imp And.left And.left),
      .line (hline.trans hnumber) hhas.pos hhas.le_length hhas.shownLine_ne ?_⟩
    rw [if_pos hempty, hhas.lineText_eq]
  -- The token was put in, so it is the only one, and there must be an alternative.
  · cases hsynthetic
    rcases hcause with ⟨hcause, alternative, halternative, htype⟩ | ⟨-, hseveral⟩
    · have hgiven : .constructor alternative ∈ rulesOfLines text := by
        refine (mem_injectIdent halternative).resolve_right ?_
        rintro ⟨heq, -⟩
        cases heq
      obtain ⟨number, line, rules, hhas, hread, hmem⟩ := mem_rulesOfLines_iff.mp hgiven
      have hnone : ¬ ∃ number, LineDeclaresIdent text number := by
        rw [← declaresIdent_rulesOfLines haccepted, hdeclares]
        exact Bool.false_ne_true
      exact ⟨none, .synthetic (refersToIdent_rulesOfLines.mp hrefers)
        ⟨number, line, rules, hhas, hread, alternative, hmem, htype⟩ hnone hcause,
        .nowhere hline htext⟩
    · refine absurd hseveral (Nat.not_le.mpr (Nat.lt_succ_of_le ?_))
      exact countP_token_injectIdent hdeclares

/-- A check of each entry fails with the error of one of them. -/
theorem exists_of_forM_eq_error {α : Type} {f : α → Except GrammarError Unit} {as : List α}
    (h : as.forM f = .error e) : ∃ a ∈ as, f a = .error e := by
  induction as with
  | nil => cases h
  | cons a as ih =>
    rcases bind_eq_error_iff.mp h with h | ⟨_, _, h⟩
    · exact ⟨a, List.mem_cons_self, h⟩
    · obtain ⟨b, hb, h⟩ := ih h
      exact ⟨b, List.mem_cons_of_mem _ hb, h⟩

/-- An outcome is the error of a grammar if it was one before it became one of an analysis. -/
theorem mapError_eq_grammar {α : Type} {x : Except GrammarError α}
    (h : x.mapError AnalysisError.grammar = .error (.grammar e)) : x = .error e := by
  cases x with
  | error e' =>
    cases h
    rfl
  | ok a => cases h

/-- Only a category that is named by a key of the cases to be added is refused as their target. -/
theorem exists_pointsTo_of_addUntypedCases {groups : List Group} {extra : UntypedCases}
    (h : addUntypedCases groups extra = .error (.grammar e)) :
    ∃ place, PointsTo text (extra.map (·.1)) e place ∧ Locates text e place := by
  rcases bind_eq_error_iff.mp h with h | ⟨_, _, h⟩
  · obtain ⟨⟨name, cases⟩, hmem, h⟩ := exists_of_forM_eq_error (mapError_eq_grammar h)
    have hname : name ∈ extra.map (·.1) := List.mem_map_of_mem hmem
    dsimp only [checkExtraTarget] at h
    split at h
    · cases h
      exact ⟨none, .extra hname (.inl rfl), .nowhere rfl rfl⟩
    · split_ifs at h
      cases h
      exact ⟨none, .extra hname (.inr rfl), .nowhere rfl rfl⟩
  -- What the cases are is not an error of the grammar.
  · obtain ⟨_, _, _, _, _, h⟩ := mapM_eq_error_iff.mp h
    rcases bind_eq_error_iff.mp h with h | ⟨_, _, h⟩
    · cases hvalue : Untyped.cases ((extra.lookup _).getD .null) <;> rw [hvalue] at h <;> cases h
    · cases h

/-- An error that is found while a grammar is read and analysed points to a line with a text to
show, or it comes from the cases to be added or from the token of identifiers that is put in. -/
theorem exists_pointsTo_of_readGrammar {options : AnalysisOptions}
    (h : readGrammar text options = .error (.grammar e)) :
    ∃ place, PointsTo text (options.extra.map (·.1)) e place ∧ Locates text e place := by
  rcases bind_eq_error_iff.mp h with h | ⟨rules, hread, h⟩
  · exact exists_pointsTo_of_parseGrammar _ (mapError_eq_grammar h)
  have hread : parseGrammar text = .ok rules := by
    cases hparse : parseGrammar text with
    | error e' =>
      rw [hparse] at hread
      cases hread
    | ok rules' =>
      rw [hparse] at hread
      cases hread
      rfl
  rcases bind_eq_error_iff.mp h with h | ⟨policy, _, h⟩
  · unfold Untyped.policy at h
    split at h
    · split at h <;> cases h
    · cases h
  rcases bind_eq_error_iff.mp h with h | ⟨groups, _, h⟩
  · rcases bind_eq_error_iff.mp (mapError_eq_grammar h) with h | ⟨_, _, h⟩
    · exact exists_pointsTo_of_groupByType _ hread h
    · cases h
  rcases bind_eq_error_iff.mp h with h | ⟨groups, _, h⟩
  · exact exists_pointsTo_of_addUntypedCases h
  -- Reading the grammar has found the entrypoints already.
  · rcases bind_eq_error_iff.mp (mapError_eq_grammar h) with h | ⟨_, _, h⟩
    · obtain ⟨declared, _, hlength, rfl⟩ := parseGrammar_eq_ok_iff.mp hread
      have hseveral := exists_entrypointTypes_eq_error_iff.mp ⟨e, h⟩
      rw [filterMap_entrypoint?_injectIdent] at hseveral
      omega
    · cases h

end SyntaxBridge
