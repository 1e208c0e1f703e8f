import SyntaxBridge.Proofs.Grammar.Ident

/-!
# Entrypoints as they are written

The entrypoints of a grammar are what the entries of its declaration are read as, one by one and in
order (`entrypoints_of_namesEntrypoints`); nothing is done about entries that are read as the same
category. A grammar without such a declaration has the category of its first alternative
(`entrypoints_of_undeclared`).
-/

namespace SyntaxBridge

open Outcome

variable {text : String} {rules : List Rule} {extra : ExtraCases} {policy : BoxPolicy}
  {grammar : Grammar} {texts : List (List Char)}

/-- A line of a text names entrypoints. -/
def LineNamesEntrypoints (text : String) (texts : List (List Char)) : Prop :=
  ∃ number line rule, HasLine text number line ∧ Parser.declaration line.toList = .ok rule ∧
    Parser.NamesEntrypoints rule texts

/-- Where no line is rejected, a line that names entrypoints gives what they are read as. -/
theorem LineNamesEntrypoints.exists_mem_rulesOfLines (h : LineNamesEntrypoints text texts)
    (haccepted : ∀ number e, ¬ RejectsLine text number e) :
    ∃ types number, Parser.ReadAs texts types ∧ types ≠ [] ∧
      .entrypoint ⟨types, number⟩ ∈ rulesOfLines text := by
  obtain ⟨number, line, rule, hline, hrule, hnames⟩ := h
  cases hread : Parser.parseLine line (.number number) with
  | error e => exact absurd ⟨line, hline, hread⟩ (haccepted number e)
  | ok rules =>
    obtain ⟨_, hrule', hdeclares⟩ := Parser.exists_declares_of_parseLine hread
    cases hrule.symm.trans hrule'
    obtain ⟨types, htypes, hne, rfl⟩ := hdeclares.eq_of_namesEntrypoints hnames
    exact ⟨types, _, htypes, hne, mem_rulesOfLines_iff.mpr
      ⟨number, line, _, hline, hread, List.mem_singleton_self _⟩⟩

/-- Entrypoints among the rules of the lines are named by a line. -/
theorem exists_lineNamesEntrypoints {declared : Entrypoint}
    (h : .entrypoint declared ∈ rulesOfLines text) : ∃ texts, LineNamesEntrypoints text texts := by
  obtain ⟨number, line, rules, hline, hread, hmem⟩ := mem_rulesOfLines_iff.mp h
  obtain ⟨rule, hrule, hdeclares⟩ := Parser.exists_declares_of_parseLine hread
  obtain ⟨-, -, texts, hnames⟩ := hdeclares.eq_of_entrypoint_mem hmem
  exact ⟨texts, number, line, rule, hline, hrule, hnames⟩

/-- The only declaration of entrypoints decides what they are. -/
theorem entrypoints_of_mem (h : analyze rules extra policy = .ok grammar) {declared : Entrypoint}
    (hmem : .entrypoint declared ∈ rules) : grammar.entrypoints = declared.types := by
  obtain ⟨_, _, _, _, hentrypoints, rfl⟩ := analyze_eq_ok_iff.mp h
  obtain ⟨hlength, rfl⟩ := entrypointTypes_eq_ok_iff.mp hentrypoints
  have hdeclared : declared ∈ rules.filterMap Rule.entrypoint? :=
    List.mem_filterMap.mpr ⟨_, hmem, rfl⟩
  -- There are fewer than two declarations, and this is one of them.
  obtain ⟨only, honly⟩ := List.length_eq_one_iff.mp
    (Nat.le_antisymm (Nat.le_of_lt_succ hlength) (List.length_pos_of_mem hdeclared))
  rw [honly, List.mem_singleton] at hdeclared
  rw [← List.head?_filterMap, honly, hdeclared]
  rfl

/-- The declared entrypoints are what the entries of the declaration are read as, in order. -/
theorem entrypoints_of_namesEntrypoints (hread : parseGrammar text = .ok rules)
    (h : analyze rules extra policy = .ok grammar) (hnames : LineNamesEntrypoints text texts) :
    grammar.entrypoints ≠ [] ∧ Parser.ReadAs texts grammar.entrypoints := by
  obtain ⟨haccepted, rfl⟩ := eq_injectIdent_of_parseGrammar hread
  obtain ⟨types, number, htypes, hne, hmem⟩ := hnames.exists_mem_rulesOfLines haccepted
  obtain heq : grammar.entrypoints = types :=
    entrypoints_of_mem h ((injectsIdent _).isPrefix.subset hmem)
  rw [heq]
  exact ⟨hne, htypes⟩

/-- Without a declaration the category of the first alternative is the entrypoint, if there is
one. -/
theorem entrypoints_of_undeclared (hread : parseGrammar text = .ok rules)
    (h : analyze rules extra policy = .ok grammar)
    (hnone : ∀ texts, ¬LineNamesEntrypoints text texts) :
    grammar.entrypoints = ((rules.findSome? Rule.constructor?).map (·.type)).toList := by
  obtain ⟨haccepted, rfl⟩ := eq_injectIdent_of_parseGrammar hread
  obtain ⟨_, _, _, _, hentrypoints, rfl⟩ := analyze_eq_ok_iff.mp h
  obtain ⟨-, rfl⟩ := entrypointTypes_eq_ok_iff.mp hentrypoints
  have hundeclared : (rulesOfLines text).filterMap Rule.entrypoint? = [] := by
    refine List.filterMap_eq_nil_iff.mpr fun rule hrule => ?_
    cases rule with
    | entrypoint declared =>
      obtain ⟨texts, hnames⟩ := exists_lineNamesEntrypoints hrule
      exact absurd hnames (hnone texts)
    | constructor => rfl
    | token => rfl
  rw [← List.head?_filterMap, filterMap_entrypoint?_injectIdent, hundeclared]
  rfl

end SyntaxBridge
