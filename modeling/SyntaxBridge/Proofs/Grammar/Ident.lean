import SyntaxBridge.Proofs.Grammar.Declaration
import SyntaxBridge.Proofs.Grammar.ListCategory
import SyntaxBridge.Proofs.Grammar.Partition

/-!
# The token of identifiers

A grammar may refer to the category of identifiers without declaring it. Reading the grammar then
puts a token for it behind the other rules, and only then (`InjectsIdent`). So in every analysed
grammar the category is a token exactly if some line refers to it or declares it as one, and a
grammar that refers to it and also gives it alternatives is refused
(`parseGrammar_identDeclaredAsNeeded`).
-/

namespace SyntaxBridge

open Outcome

/-- What putting the token of identifiers behind rules does to them. -/
structure InjectsIdent (given : List Rule) : Prop where
  /-- The rules come first, as they were given. -/
  isPrefix : given <+: injectIdent given
  /-- Behind them stands nothing, or the token of identifiers, which stands on no line. -/
  eq_or_eq : injectIdent given = given ∨
    injectIdent given = given ++ [.token { type := "Ident", line := .number 0 }]
  /-- Nothing more is put behind the result. -/
  idempotent : injectIdent (injectIdent given) = injectIdent given

/-- A line of a text refers to the category of identifiers or to lists of it, in a definition or as
an entrypoint. -/
def LineRefersToIdent (text : String) : Prop :=
  ∃ number line rules, HasLine text number line ∧
    Parser.parseLine line (.number number) = .ok rules ∧
    ∃ rule ∈ rules, "Ident" ∈ rule.references ∨ "[Ident]" ∈ rule.references

/-- The line of a text with the given number declares the category of identifiers as a token. -/
def LineDeclaresIdent (text : String) (number : Nat) : Prop :=
  ∃ line rule, HasLine text number line ∧ Parser.declaration line.toList = .ok rule ∧
    Parser.NamesToken rule "Ident"

/-- A line of a text gives the category of identifiers an alternative. -/
def LineExtendsIdent (text : String) : Prop :=
  ∃ number line rules, HasLine text number line ∧
    Parser.parseLine line (.number number) = .ok rules ∧
    ∃ alternative, .constructor alternative ∈ rules ∧ alternative.type = "Ident"

/-- What the rules of a text make of the category of identifiers. -/
structure IdentDeclaredAsNeeded (text : String) (rules : List Rule) : Prop where
  /-- If a line refers to the category or declares it as a token, it has a group, which is a token
  with one rule. That is the declared one if there is one, and else the last of the grammar. -/
  of_needed : (LineRefersToIdent text ∨ ∃ number, LineDeclaresIdent text number) →
    ∀ extra policy grammar, analyze rules extra policy = .ok grammar →
      ∃ group ∈ grammar.groups, group.name = "Ident" ∧ group.isToken = true ∧
        ∃ line, group.rules = [.token { type := "Ident", line }] ∧
          (∀ number, LineDeclaresIdent text number → line = .number number) ∧
          ((¬ ∃ number, LineDeclaresIdent text number) →
            grammar.rules.getLast? = some (.token { type := "Ident", line }))
  /-- Otherwise there is no token of identifiers among the rules. -/
  of_not_needed : ¬ (LineRefersToIdent text ∨ ∃ number, LineDeclaresIdent text number) →
    ∀ token, .token token ∈ rules → token.type ≠ "Ident"
  /-- If a line refers to the category and another gives it an alternative, the rules contradict
  each other. -/
  of_extended : LineRefersToIdent text → LineExtendsIdent text →
    ∀ extra policy, ∃ e, analyze rules extra policy = .error e ∧ e.cause.kind = .inconsistent

/-! ## Putting in the token -/

section Injection

variable {given : List Rule}

/-- Rules declare the category of identifiers if it is the type of a token among them. -/
theorem declaresIdent_iff :
    declaresIdent given = true ↔ ∃ token, .token token ∈ given ∧ token.type = "Ident" := by
  simp only [declaresIdent, List.any_eq_true, List.mem_filterMap, Rule.token?_eq_some_iff,
    exists_eq_right, beq_iff_eq, Category.ident]

/-- The category of identifiers is the element of its own name and of that of its lists. -/
theorem element_eq_ident_iff {name : String} :
    Category.element name = Category.ident ↔ name = "Ident" ∨ name = "[Ident]" := by
  rw [Category.element]
  cases helement : Category.element? name with
  | none =>
    refine (or_iff_left ?_).symm
    rintro rfl
    exact absurd helement (by decide)
  | some element =>
    obtain ⟨-, rfl⟩ := Category.element?_eq_some_iff.mp helement
    -- The name of identifiers is none of a list.
    have hname : Category.listOf element ≠ "Ident" := by
      intro heq
      have hnone : Category.element? "Ident" = none := by decide
      rw [heq, hnone] at helement
      cases helement
    have hlist : Category.listOf element = "[Ident]" ↔ element = Category.ident := by
      change "[" ++ element ++ "]" = "[" ++ Category.ident ++ "]" ↔ _
      rw [String.append_left_inj, String.append_right_inj]
    rw [or_iff_right hname, hlist]
    rfl

/-- Rules refer to the category of identifiers if one of them does, be it to lists of it. -/
theorem refersToIdent_iff : refersToIdent given = true ↔
    ∃ rule ∈ given, "Ident" ∈ rule.references ∨ "[Ident]" ∈ rule.references := by
  simp only [refersToIdent, references, List.any_eq_true, List.mem_flatMap, beq_iff_eq,
    element_eq_ident_iff]
  constructor
  · rintro ⟨name, ⟨rule, hrule, hname⟩, rfl | rfl⟩
    · exact ⟨rule, hrule, .inl hname⟩
    · exact ⟨rule, hrule, .inr hname⟩
  · rintro ⟨rule, hrule, hname | hname⟩
    · exact ⟨_, ⟨rule, hrule, hname⟩, .inl rfl⟩
    · exact ⟨_, ⟨rule, hrule, hname⟩, .inr rfl⟩

/-- The token is put in if the category is referred to and not declared. -/
theorem injectIdent_of_missing (hdeclares : declaresIdent given = false)
    (hrefers : refersToIdent given = true) :
    injectIdent given = given ++ [.token { type := "Ident", line := .number 0 }] := by
  rw [injectIdent, hdeclares, hrefers]
  rfl

/-- Rules that declare the category stay as they are. -/
theorem injectIdent_of_declares (h : declaresIdent given = true) : injectIdent given = given := by
  rw [injectIdent, h]
  rfl

/-- Rules that do not refer to the category stay as they are. -/
theorem injectIdent_of_not_refers (h : refersToIdent given = false) :
    injectIdent given = given := by
  rw [injectIdent, h, Bool.and_false]
  rfl

theorem injectIdent_eq_or_eq (given : List Rule) : injectIdent given = given ∨
    injectIdent given = given ++ [.token { type := "Ident", line := .number 0 }] := by
  rw [injectIdent]
  split_ifs
  · exact .inr rfl
  · exact .inl rfl

theorem injectsIdent (given : List Rule) : InjectsIdent given where
  isPrefix := by
    rcases injectIdent_eq_or_eq given with h | h
    · exact ⟨[], by rw [List.append_nil, h]⟩
    · rw [h]
      exact List.prefix_append _ _
  eq_or_eq := injectIdent_eq_or_eq given
  idempotent := by
    rcases injectIdent_eq_or_eq given with h | h
    · rw [h, h]
    -- The token that was put in is a declaration.
    · have hdeclares : declaresIdent (injectIdent given) = true := by
        rw [h, declaresIdent_iff]
        exact ⟨⟨_, _⟩, List.mem_concat_self, rfl⟩
      exact injectIdent_of_declares hdeclares

/-- A rule is one of the given ones, or the token that was put in because it was missing. -/
theorem mem_injectIdent {rule : Rule} (h : rule ∈ injectIdent given) :
    rule ∈ given ∨ rule = .token { type := "Ident", line := .number 0 } ∧
      declaresIdent given = false ∧ refersToIdent given = true := by
  rw [injectIdent] at h
  split_ifs at h with hmissing
  · rw [Bool.and_eq_true, Bool.not_eq_true'] at hmissing
    exact (List.mem_append.mp h).imp_right fun hlast => ⟨List.mem_singleton.mp hlast, hmissing⟩
  · exact .inl h

/-- Where the token is put in, it is the only one. -/
theorem countP_token_injectIdent (hdeclares : declaresIdent given = false) :
    ((injectIdent given).filterMap Rule.token?).countP (·.type == "Ident") ≤ 1 := by
  have hnone : (given.filterMap Rule.token?).countP (·.type == "Ident") = 0 := by
    rw [List.countP_eq_zero]
    exact fun token htoken => List.any_eq_false.mp hdeclares token htoken
  rcases injectIdent_eq_or_eq given with h | h
  · rw [h, hnone]
    exact Nat.zero_le 1
  · rw [h, List.filterMap_append, List.countP_append, hnone, Nat.zero_add]
    exact List.countP_le_length

/-- Putting in the token leaves the entrypoints as they are declared. -/
theorem filterMap_entrypoint?_injectIdent :
    (injectIdent given).filterMap Rule.entrypoint? = given.filterMap Rule.entrypoint? := by
  rcases injectIdent_eq_or_eq given with h | h
  · rw [h]
  · rw [h, List.filterMap_append]
    exact List.append_nil _

/-- There is a token of identifiers exactly if the rules refer to the category or declare it. -/
theorem exists_token_mem_injectIdent_iff :
    (∃ token, .token token ∈ injectIdent given ∧ token.type = "Ident") ↔
      refersToIdent given = true ∨ declaresIdent given = true := by
  rw [← declaresIdent_iff]
  cases hdeclares : declaresIdent given with
  | true => simp [injectIdent_of_declares hdeclares, hdeclares]
  | false =>
    cases hrefers : refersToIdent given with
    | false => simp [injectIdent_of_not_refers hrefers, hdeclares]
    | true =>
      rw [injectIdent_of_missing hdeclares hrefers]
      refine iff_of_true ?_ (.inl rfl)
      exact declaresIdent_iff.mpr ⟨⟨_, _⟩, List.mem_concat_self, rfl⟩

end Injection

/-! ## The rules of a text -/

variable {text : String} {rules : List Rule}

/-- Where the rules of a text can be read, they are those of its lines, and no line is rejected. -/
theorem eq_rulesOfLines_of_declaredRules {declared : List Rule}
    (h : declaredRules text = .ok declared) :
    (∀ number e, ¬ RejectsLine text number e) ∧ declared = rulesOfLines text := by
  have haccepted : ∀ number e, ¬ RejectsLine text number e := by
    intro number e hrejected
    obtain ⟨e', he'⟩ := exists_declaredRules_eq_error ⟨number, e, hrejected⟩
    cases h.symm.trans he'
  exact ⟨haccepted, Except.ok.inj (h.symm.trans (declaredRules_eq_ok haccepted))⟩

/-- The rules of a grammar are those of its lines, perhaps with the token of identifiers behind
them. -/
theorem eq_injectIdent_of_parseGrammar (h : parseGrammar text = .ok rules) :
    (∀ number e, ¬ RejectsLine text number e) ∧ rules = injectIdent (rulesOfLines text) := by
  obtain ⟨declared, hdeclared, _, rfl⟩ := parseGrammar_eq_ok_iff.mp h
  obtain ⟨haccepted, rfl⟩ := eq_rulesOfLines_of_declaredRules hdeclared
  exact ⟨haccepted, rfl⟩

/-- The rules of the lines refer to the category of identifiers if a line does. -/
theorem refersToIdent_rulesOfLines :
    refersToIdent (rulesOfLines text) = true ↔ LineRefersToIdent text := by
  rw [refersToIdent_iff]
  constructor
  · rintro ⟨rule, hrule, hrefers⟩
    obtain ⟨number, line, rules, hline, hread, hrule⟩ := mem_rulesOfLines_iff.mp hrule
    exact ⟨number, line, rules, hline, hread, rule, hrule, hrefers⟩
  · rintro ⟨number, line, rules, hline, hread, rule, hrule, hrefers⟩
    exact ⟨rule, mem_rulesOfLines_iff.mpr ⟨number, line, rules, hline, hread, hrule⟩, hrefers⟩

/-- Where no line is rejected, the tokens of the lines are those that the lines declare. -/
theorem token_mem_rulesOfLines_iff (haccepted : ∀ number e, ¬ RejectsLine text number e)
    {token : Token} : .token token ∈ rulesOfLines text ↔
      ∃ number line rule, HasLine text number line ∧ Parser.declaration line.toList = .ok rule ∧
        Parser.NamesToken rule token.type ∧ token.line = .number number := by
  rw [mem_rulesOfLines_iff]
  constructor
  · rintro ⟨number, line, rules, hline, hread, hmem⟩
    obtain ⟨rule, hrule, hdeclares⟩ := Parser.exists_declares_of_parseLine hread
    obtain ⟨-, hnumber, hnames⟩ := hdeclares.eq_of_token_mem hmem
    exact ⟨number, line, rule, hline, hrule, hnames, hnumber⟩
  · rintro ⟨number, line, rule, hline, hrule, hnames, hnumber⟩
    cases hread : Parser.parseLine line (.number number) with
    | error e => exact absurd ⟨line, hline, hread⟩ (haccepted number e)
    | ok rules =>
      obtain ⟨_, hrule', hdeclares⟩ := Parser.exists_declares_of_parseLine hread
      cases hrule.symm.trans hrule'
      refine ⟨number, line, rules, hline, hread, ?_⟩
      rw [hdeclares.eq_of_namesToken hnames, ← hnumber]
      exact List.mem_singleton_self _

/-- The rules of the lines declare the category of identifiers if a line does. -/
theorem declaresIdent_rulesOfLines (haccepted : ∀ number e, ¬ RejectsLine text number e) :
    declaresIdent (rulesOfLines text) = true ↔ ∃ number, LineDeclaresIdent text number := by
  rw [declaresIdent_iff]
  constructor
  · rintro ⟨token, hmem, htype⟩
    obtain ⟨number, line, rule, hline, hrule, hnames, -⟩ :=
      (token_mem_rulesOfLines_iff haccepted).mp hmem
    exact ⟨number, line, rule, hline, hrule, htype ▸ hnames⟩
  · rintro ⟨number, line, rule, hline, hrule, hnames⟩
    exact ⟨⟨"Ident", .number number⟩, (token_mem_rulesOfLines_iff haccepted).mpr
      ⟨number, line, rule, hline, hrule, hnames, rfl⟩, rfl⟩

/-! ## The group of identifiers -/

/-- A category with a token among the rules of an analysed grammar is that token and nothing
else. -/
theorem exists_group_of_token_mem {extra : ExtraCases} {policy : BoxPolicy} {grammar : Grammar}
    (h : analyze rules extra policy = .ok grammar) {token : Token} (hmem : .token token ∈ rules) :
    ∃ group ∈ grammar.groups, group.name = token.type ∧ group.isToken = true ∧
      group.rules = [.token token] ∧
      ∀ other, .token other ∈ rules → other.type = token.type → other = token := by
  have hpartition := isPartition_of_analyze h
  obtain ⟨group, hgroup, hname⟩ :=
    List.mem_map.mp ((hpartition.mem_names token.type).mpr ⟨_, hmem, rfl⟩)
  have hrules : ∀ other, .token other ∈ rules → other.type = token.type →
      .token other ∈ group.rules := by
    intro other hother htype
    rw [hpartition.rules_eq group hgroup, List.mem_filter]
    exact ⟨hother, by rw [Rule.type?, hname, htype, beq_self_eq_true]⟩
  -- A group with alternatives holds no token.
  have htoken : group.isToken = true := by
    by_contra hnot
    obtain ⟨alternatives, hmembers⟩ := Group.exists_alternatives (Bool.not_eq_true _ ▸ hnot)
    have htoken := hrules token hmem rfl
    rw [Group.rules, hmembers, Members.rules] at htoken
    obtain ⟨_, _, hconstructor⟩ := List.mem_map.mp htoken
    cases hconstructor
  obtain ⟨only, honly⟩ := (hpartition.isToken_iff group hgroup).mp htoken
  rw [honly] at hrules
  cases List.mem_singleton.mp (hrules token hmem rfl)
  refine ⟨group, hgroup, hname, htoken, honly, fun other hother htype => ?_⟩
  cases List.mem_singleton.mp (hrules other hother htype)
  rfl

/-- Rules with a contested category contradict each other, whatever is added by hand. -/
theorem exists_analyze_eq_error_of_contested {type : String} (h : Contested rules type)
    (extra : ExtraCases) (policy : BoxPolicy) :
    ∃ e, analyze rules extra policy = .error e ∧ e.cause.kind = .inconsistent := by
  obtain ⟨e, he⟩ := exists_groupByType_eq_error_iff.mpr ⟨type, h⟩
  refine ⟨e, ?_, kind_of_groupByType_eq_error he⟩
  rw [analyze, analyzeGroups, he]
  rfl

/-- Putting in the token of identifiers keeps what rules are given as it is, and in the grammar of
a text the category of identifiers is a token exactly if it has to be. -/
theorem parseGrammar_identDeclaredAsNeeded (given : List Rule)
    (h : parseGrammar text = .ok rules) :
    InjectsIdent given ∧ IdentDeclaredAsNeeded text rules := by
  obtain ⟨haccepted, rfl⟩ := eq_injectIdent_of_parseGrammar h
  have hneeded : (LineRefersToIdent text ∨ ∃ number, LineDeclaresIdent text number) ↔
      ∃ token, .token token ∈ injectIdent (rulesOfLines text) ∧ token.type = "Ident" := by
    rw [exists_token_mem_injectIdent_iff, refersToIdent_rulesOfLines,
      declaresIdent_rulesOfLines haccepted]
  refine ⟨injectsIdent given, ?_, ?_, ?_⟩
  · intro hline extra policy grammar hgrammar
    obtain ⟨⟨_, line⟩, htoken, rfl⟩ := hneeded.mp hline
    obtain ⟨group, hgroup, hname, hisToken, hrules, honly⟩ :=
      exists_group_of_token_mem hgrammar htoken
    refine ⟨group, hgroup, hname, hisToken, line, hrules, fun number hdeclares => ?_,
      fun hnone => ?_⟩
    · obtain ⟨text', rule, hline, hrule, hnames⟩ := hdeclares
      -- The declared token is among the rules, and there is only one.
      have hdeclared : .token ⟨"Ident", .number number⟩ ∈ rulesOfLines text :=
        (token_mem_rulesOfLines_iff haccepted).mpr
          ⟨number, text', rule, hline, hrule, hnames, rfl⟩
      have hmem := (injectsIdent (rulesOfLines text)).isPrefix.subset hdeclared
      cases honly _ hmem rfl
      rfl
    · have hdeclares : declaresIdent (rulesOfLines text) = false := by
        rw [← Bool.not_eq_true, declaresIdent_rulesOfLines haccepted]
        exact hnone
      have hrefers : refersToIdent (rulesOfLines text) = true :=
        refersToIdent_rulesOfLines.mpr (hline.resolve_right hnone)
      have hinjected := injectIdent_of_missing hdeclares hrefers
      have hmem : .token ⟨"Ident", .number 0⟩ ∈ injectIdent (rulesOfLines text) := by
        rw [hinjected]
        exact List.mem_concat_self
      cases honly _ hmem rfl
      rw [rules_of_analyze hgrammar, hinjected, List.getLast?_concat]
  · intro hline token htoken htype
    exact hline (hneeded.mpr ⟨token, htoken, htype⟩)
  · rintro hrefers ⟨number, line, rules, hline, hread, alternative, hmem, htype⟩
    obtain ⟨token, htoken, hident⟩ := hneeded.mp (.inl hrefers)
    have halternative : .constructor alternative ∈ rulesOfLines text :=
      mem_rulesOfLines_iff.mpr ⟨number, line, rules, hline, hread, hmem⟩
    refine exists_analyze_eq_error_of_contested (.inl ⟨⟨token, htoken, hident⟩, alternative, ?_,
      htype⟩)
    exact (injectsIdent _).isPrefix.subset halternative

/-- A grammar that refers to lists of identifiers has the token behind its rules. -/
theorem identDeclaredAsNeeded_declarations :
    parseGrammar "Decl. Stm ::= Type [Ident] ;\ntoken Type upper ;" = .ok
        [.constructor ⟨"Decl", "Stm", ["Type", "[Ident]"], .number 1⟩,
          .token ⟨"Type", .number 2⟩, .token ⟨"Ident", .number 0⟩] ∧
      InjectsIdent [.token ⟨"Ident", .number 3⟩, .entrypoint ⟨["Ident"], .number 4⟩] ∧
      IdentDeclaredAsNeeded "Decl. Stm ::= Type [Ident] ;\ntoken Type upper ;"
        [.constructor ⟨"Decl", "Stm", ["Type", "[Ident]"], .number 1⟩,
          .token ⟨"Type", .number 2⟩, .token ⟨"Ident", .number 0⟩] := by
  have h : parseGrammar "Decl. Stm ::= Type [Ident] ;\ntoken Type upper ;" = .ok
      [.constructor ⟨"Decl", "Stm", ["Type", "[Ident]"], .number 1⟩,
        .token ⟨"Type", .number 2⟩, .token ⟨"Ident", .number 0⟩] := by decide +kernel
  exact ⟨h, parseGrammar_identDeclaredAsNeeded _ h⟩

end SyntaxBridge
