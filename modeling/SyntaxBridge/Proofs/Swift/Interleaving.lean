import SyntaxBridge.Proofs.Grammar.Interleaving
import SyntaxBridge.Proofs.Swift.Relocation

/-!
# Generating from rules of different categories

The order of rules matters inside a category and nowhere else. Rules that are interleaved alike up
to their lines give the same abstract syntax, and the same bridge wherever the entrypoints are the
same (`agree_of_interleaved`). For this the rules are moved to one line first, which changes neither
what is generated nor the kind of an error.
-/

namespace SyntaxBridge.Swift

open Outcome

/-- The abstract syntax is generated from the groups and the list categories. -/
theorem abstractSyntax_congr {grammar grammar' : Grammar}
    (hgroups : grammar.groups = grammar'.groups)
    (hlists : grammar.listTypes = grammar'.listTypes) :
    abstractSyntax grammar = abstractSyntax grammar' := by
  rw [abstractSyntax, abstractSyntax, hgroups, hlists]

/-- The bridge is generated from the groups, the list categories and the entrypoints. -/
theorem bridge_congr {grammar grammar' : Grammar} (hgroups : grammar.groups = grammar'.groups)
    (hlists : grammar.listTypes = grammar'.listTypes)
    (hentrypoints : grammar.entrypoints = grammar'.entrypoints) :
    bridge grammar = bridge grammar' := by
  rw [bridge, bridge, hgroups, hlists, hentrypoints]

/-- Two grammars are generated alike: the groups and the list categories are the same, whatever
lines their rules stand on, and so is the abstract syntax. The bridge is the same if the entrypoints
are, as they are if rules declare them. -/
structure GeneratedAlike (rules : List Rule) (grammar grammar' : Grammar) : Prop where
  groups_same : List.Forall₂ (fun group group' : Group => group.same group' = true)
    grammar.groups grammar'.groups
  listTypes_eq : grammar.listTypes = grammar'.listTypes
  abstractSyntax_eq : abstractSyntaxSource grammar = abstractSyntaxSource grammar'
  bridge_eq : grammar.entrypoints = grammar'.entrypoints →
    ∀ module, bridgeSource? grammar module = bridgeSource? grammar' module
  entrypoints_eq : (∃ entrypoint, .entrypoint entrypoint ∈ rules) →
    grammar.entrypoints = grammar'.entrypoints

/-- Moving a rule to the unknown line is forgetting its line. -/
theorem relocate_unknown (rule : Rule) : rule.relocate (fun _ => .unknown) = rule.withoutLine := by
  cases rule <;> rfl

/-- Groups that are the same on one line are generated alike. -/
theorem same_of_relocate_eq {f : LineNumber → LineNumber} {group group' : Group}
    (h : group.relocate f = group'.relocate f) : group.same group' = true := by
  obtain ⟨name, members, boxed, extraCases⟩ := group
  obtain ⟨name', members', boxed', extraCases'⟩ := group'
  obtain ⟨rfl, hmembers, rfl, rfl⟩ : name = name' ∧ members.relocate f = members'.relocate f ∧
      boxed = boxed' ∧ extraCases = extraCases' := by simpa [Group.relocate] using h
  have htoken : members.isToken = members'.isToken := by
    simpa using congrArg Members.isToken hmembers
  have hrules : members.rules.map Rule.withoutLine = members'.rules.map Rule.withoutLine := by
    simpa [Function.comp_def] using
      congrArg (fun moved : Members => moved.rules.map Rule.withoutLine) hmembers
  simp [Group.same, Group.rules, Group.isToken, htoken, hrules]

/-- Grammars that have the same groups and list categories once their rules stand on one line are
generated alike. -/
theorem generatedAlike_of_relocate {f : LineNumber → LineNumber} {rules : List Rule}
    {grammar grammar' : Grammar}
    (hgroups : (grammar.relocate f).groups = (grammar'.relocate f).groups)
    (hlists : grammar.listTypes = grammar'.listTypes)
    (hentrypoints : (∃ entrypoint, .entrypoint entrypoint ∈ rules) →
      grammar.entrypoints = grammar'.entrypoints) : GeneratedAlike rules grammar grammar' where
  groups_same := by
    have hmoved : grammar.groups.map (Group.relocate f) = grammar'.groups.map (Group.relocate f) :=
      hgroups
    rw [← List.forall₂_eq_eq_eq, List.forall₂_map_left_iff, List.forall₂_map_right_iff] at hmoved
    exact hmoved.imp fun _ _ => same_of_relocate_eq
  listTypes_eq := hlists
  abstractSyntax_eq := by
    rw [abstractSyntaxSource, abstractSyntaxSource, ← abstractSyntax_relocate f grammar,
      ← abstractSyntax_relocate f grammar', abstractSyntax_congr hgroups hlists]
  bridge_eq := by
    intro hsame module
    rw [bridgeSource?, bridgeSource?, bridgeSource, bridgeSource, ← bridge_relocate f grammar,
      ← bridge_relocate f grammar', bridge_congr hgroups hlists hsame]
  entrypoints_eq := hentrypoints

/-- Only the order inside a category matters. Rules that have, up to their lines, the same rules of
each category in the same order, and the same declarations of the entrypoints, are analysed to
grammars that are generated alike, or are both refused for errors of the same kind. -/
theorem agree_of_interleaved {rules rules' : List Rule}
    (h : Interleaved (rules.map Rule.withoutLine) (rules'.map Rule.withoutLine))
    (extra : ExtraCases) (policy : BoxPolicy) :
    Agree (fun e e' => e.cause.kind = e'.cause.kind) (GeneratedAlike rules)
      (analyze rules extra policy) (analyze rules' extra policy) := by
  have hmoved (rules : List Rule) :
      rules.map Rule.withoutLine = rules.map (Rule.relocate fun _ => .unknown) :=
    (List.map_congr_left fun rule _ => relocate_unknown rule).symm
  have hagree := h.analyze_agree extra policy
  rw [hmoved, hmoved, analyze_relocate rules rfl, analyze_relocate rules' rfl] at hagree
  refine (agree_of_mapBoth hagree).imp (fun _ _ hkind => hkind) ?_
  rintro grammar grammar' - - ⟨hgroups, hlists, hentrypoints⟩
  refine generatedAlike_of_relocate hgroups hlists ?_
  rintro ⟨entrypoint, hmem⟩
  exact hentrypoints ⟨_, List.mem_map.mpr ⟨_, hmem, rfl⟩⟩

/-- Expressions and terms that hold each other may be declared in turns or one after the other. -/
theorem generatedAlike_expression :
    let rules : List Rule := [.constructor ⟨"EAdd", "Exp", ["Exp", "Term"], .number 1⟩,
      .constructor ⟨"TCall", "Term", ["Name", "[Exp]"], .number 2⟩,
      .constructor ⟨"ETerm", "Exp", ["Term"], .number 3⟩,
      .constructor ⟨"TExp", "Term", ["Exp"], .number 4⟩,
      .token ⟨"Name", .number 5⟩, .entrypoint ⟨["Exp"], .number 6⟩]
    let rules' : List Rule := [.token ⟨"Name", .number 1⟩, .entrypoint ⟨["Exp"], .number 2⟩,
      .constructor ⟨"TCall", "Term", ["Name", "[Exp]"], .number 3⟩,
      .constructor ⟨"TExp", "Term", ["Exp"], .number 4⟩,
      .constructor ⟨"EAdd", "Exp", ["Exp", "Term"], .number 5⟩,
      .constructor ⟨"ETerm", "Exp", ["Term"], .number 6⟩]
    ∃ grammar grammar', analyze rules [("Exp", ["hole"])] .cycles = .ok grammar ∧
      analyze rules' [("Exp", ["hole"])] .cycles = .ok grammar' ∧
      grammar.groups.map (fun group => (group.name, group.boxed)) =
        [("Exp", true), ("Name", false), ("Term", true)] ∧
      abstractSyntaxSource grammar = abstractSyntaxSource grammar' ∧
      bridgeSource? grammar "CGrammar" = bridgeSource? grammar' "CGrammar" := by
  intro rules rules'
  have hinterleaved : Interleaved (rules.map Rule.withoutLine) (rules'.map Rule.withoutLine) := by
    refine ⟨fun type => ?_, by decide⟩
    -- Only three categories have rules at all, and one of them has no other order.
    by_cases hexp : "Exp" = type
    · subst hexp
      decide
    by_cases hterm : "Term" = type
    · subst hterm
      decide
    simp [rules, rules', rulesOf, Rule.type?, Rule.withoutLine, List.filter_cons, hexp, hterm]
  have hrules : analyze rules [("Exp", ["hole"])] .cycles = .ok {
      rules
      groups := [⟨"Exp", .alternatives [⟨"EAdd", "Exp", ["Exp", "Term"], .number 1⟩,
          ⟨"ETerm", "Exp", ["Term"], .number 3⟩], true, ["hole"]⟩,
        ⟨"Name", .token ⟨"Name", .number 5⟩, false, []⟩,
        ⟨"Term", .alternatives [⟨"TCall", "Term", ["Name", "[Exp]"], .number 2⟩,
          ⟨"TExp", "Term", ["Exp"], .number 4⟩], true, []⟩]
      listTypes := ["Exp"]
      entrypoints := ["Exp"] } := by cbv
  have hagree := agree_of_interleaved hinterleaved [("Exp", ["hole"])] .cycles
  -- The first sequence is accepted, and so is the other one.
  cases hrules' : analyze rules' [("Exp", ["hole"])] .cycles with
  | error e =>
    rw [hrules, hrules'] at hagree
    cases hagree
  | ok grammar' =>
    rw [hrules, hrules'] at hagree
    cases hagree with
    | ok halike =>
      have hdeclared : ∃ entrypoint, .entrypoint entrypoint ∈ rules :=
        ⟨⟨["Exp"], .number 6⟩, by decide⟩
      exact ⟨_, grammar', hrules, rfl, rfl, halike.abstractSyntax_eq,
        halike.bridge_eq (halike.entrypoints_eq hdeclared) "CGrammar"⟩

end SyntaxBridge.Swift
