import SyntaxBridge.Proofs.Grammar.Boxing
import SyntaxBridge.Proofs.Grammar.Order

/-!
# The order of rules of different categories

Two sequences of rules are *interleaved* alike if they only differ in how the rules of different
categories, and the declarations of the entrypoints, are mixed with each other: each category has
the same rules in the same order in both. Such sequences have the same members (`mem_iff`), so
what an analysis collects from all rules is the same, and each group is read off the rules of its
own category. The main statement is `analyze_agree`; only the entrypoints of a grammar that declares
none depend on which category comes first.
-/

namespace SyntaxBridge

open Outcome Relation

/-- Two sequences of rules have the same rules of each category in the same order, and the same
declarations of the entrypoints. -/
structure Interleaved (rules rules' : List Rule) : Prop where
  rulesOf_eq : ∀ type, rulesOf type rules = rulesOf type rules'
  entrypoints_eq : rules.filterMap Rule.entrypoint? = rules'.filterMap Rule.entrypoint?

/-- Two errors are of the same kind. -/
def GrammarError.SameKind (e e' : GrammarError) : Prop :=
  e.cause.kind = e'.cause.kind

theorem GrammarError.sameKind_refl (e : GrammarError) : e.SameKind e := rfl

variable {rules rules' : List Rule} {policy : BoxPolicy}

/-- A rule belongs to a category or declares the entrypoints. -/
theorem mem_iff_rulesOf_or_entrypoint {rule : Rule} :
    rule ∈ rules ↔ (∃ type, rule ∈ rulesOf type rules) ∨
      ∃ entrypoint ∈ rules.filterMap Rule.entrypoint?, rule = .entrypoint entrypoint := by
  cases rule <;> simp [rulesOf, Rule.type?, List.mem_filterMap]

namespace Interleaved

/-- Interleaved sequences have the same members. -/
theorem mem_iff (h : Interleaved rules rules') {rule : Rule} : rule ∈ rules ↔ rule ∈ rules' := by
  rw [mem_iff_rulesOf_or_entrypoint, mem_iff_rulesOf_or_entrypoint, h.entrypoints_eq]
  simp only [h.rulesOf_eq]

/-- Interleaved sequences declare the same categories. -/
theorem ordered_types_eq (h : Interleaved rules rules') :
    ordered (rules.filterMap Rule.type?) = ordered (rules'.filterMap Rule.type?) := by
  refine ordered_congr fun type => ?_
  simp only [List.mem_filterMap, h.mem_iff]

/-- Interleaved sequences refer to lists of the same categories. -/
theorem listTypes_eq (h : Interleaved rules rules') : listTypes rules = listTypes rules' := by
  refine ordered_congr fun type => ?_
  simp only [references, List.mem_filterMap, List.mem_flatMap, h.mem_iff]

/-- In interleaved sequences the same categories refer to each other. -/
theorem refersTo_eq (h : Interleaved rules rules') : RefersTo rules = RefersTo rules' := by
  funext type other
  simp only [RefersTo, h.mem_iff]

/-- The rules of interleaved sequences contradict each other in the same categories. -/
theorem contested_iff (h : Interleaved rules rules') (type : String) :
    Contested rules type ↔ Contested rules' type := by
  rw [SyntaxBridge.contested_iff, SyntaxBridge.contested_iff, h.rulesOf_eq]

/-- The same categories are boxed in interleaved sequences. -/
theorem mem_boxedTypes_iff (h : Interleaved rules rules')
    {entries entries' : List (String × Members)}
    (hentries : groupByType rules = .ok entries) (hentries' : groupByType rules' = .ok entries')
    (type : String) : type ∈ boxedTypes entries policy ↔ type ∈ boxedTypes entries' policy := by
  cases policy with
  | all =>
    rw [boxedTypes, boxedTypes, (groupByType_eq_ok hentries).1, (groupByType_eq_ok hentries').1,
      mem_declaredTypes, mem_declaredTypes]
    simp only [h.mem_iff]
  | cycles =>
    rw [boxedTypes, boxedTypes, mem_recursiveTypes hentries, mem_recursiveTypes hentries',
      h.refersTo_eq]

end Interleaved

/-- Lists of entries with the same names are equal if a name determines its entry. -/
theorem eq_of_map_name_eq {α : Type} {name : α → String} {entries entries' : List α}
    (hnames : entries.map name = entries'.map name)
    (h : ∀ entry ∈ entries, ∀ entry' ∈ entries', name entry = name entry' → entry = entry') :
    entries = entries' := by
  have hpairs : List.Forall₂ (fun entry entry' => name entry = name entry') entries entries' := by
    rw [← List.forall₂_eq_eq_eq, List.forall₂_map_left_iff, List.forall₂_map_right_iff] at hnames
    exact hnames
  clear hnames
  induction hpairs with
  | nil => rfl
  | cons hhead _ ih =>
    rw [h _ List.mem_cons_self _ List.mem_cons_self hhead,
      ih fun entry hentry entry' hentry' =>
        h entry (List.mem_cons_of_mem _ hentry) entry' (List.mem_cons_of_mem _ hentry')]

/-- The groups of a grammar before cases are added by hand are boxed as the policy says. -/
theorem boxed_of_analyzeGroups {entries : List (String × Members)} {groups : List Group}
    (hentries : groupByType rules = .ok entries) (h : analyzeGroups rules policy = .ok groups) :
    ∀ group ∈ groups, group.extraCases = [] ∧
      group.boxed = (!group.isToken && (boxedTypes entries policy).contains group.name) := by
  rw [analyzeGroups, hentries] at h
  cases h
  intro group hgroup
  obtain ⟨entry, _, rfl⟩ := List.mem_map.mp hgroup
  exact ⟨rfl, rfl⟩

namespace Interleaved

/-- Interleaved sequences that can both be grouped have the same groups. -/
theorem groups_eq (h : Interleaved rules rules') {groups groups' : List Group}
    (hgroups : analyzeGroups rules policy = .ok groups)
    (hgroups' : analyzeGroups rules' policy = .ok groups') : groups = groups' := by
  obtain ⟨hnames, hmembers⟩ := analyzeGroups_eq_ok hgroups
  obtain ⟨hnames', hmembers'⟩ := analyzeGroups_eq_ok hgroups'
  obtain ⟨entries, hentries, -⟩ := bind_eq_ok_iff.mp hgroups
  obtain ⟨entries', hentries', -⟩ := bind_eq_ok_iff.mp hgroups'
  refine eq_of_map_name_eq (hnames.trans (h.ordered_types_eq.trans hnames'.symm)) ?_
  -- A name determines the rules of its group and with them the members, and whether it is boxed.
  intro group hgroup group' hgroup' hname
  have hmembersEq : group.members = group'.members := by
    have hread := (hmembers' group' hgroup').1
    rw [← hname, ← h.rulesOf_eq, (hmembers group hgroup).1] at hread
    exact Except.ok.inj hread
  obtain ⟨hextra, hboxed⟩ := boxed_of_analyzeGroups hentries hgroups group hgroup
  obtain ⟨hextra', hboxed'⟩ := boxed_of_analyzeGroups hentries' hgroups' group' hgroup'
  have hboxedEq : group.boxed = group'.boxed := by
    rw [hboxed, hboxed', Group.isToken, Group.isToken, hmembersEq, hname, Bool.eq_iff_iff]
    simp only [Bool.and_eq_true, List.contains_iff_mem,
      h.mem_boxedTypes_iff hentries hentries' group'.name]
  calc group = ⟨group.name, group.members, group.boxed, group.extraCases⟩ := rfl
    _ = ⟨group'.name, group'.members, group'.boxed, group'.extraCases⟩ := by
      rw [hname, hmembersEq, hboxedEq, hextra, hextra']

/-- Interleaved sequences have the same groups, or are both refused as contradictory. -/
theorem analyzeGroups_agree (h : Interleaved rules rules') (policy : BoxPolicy) :
    Agree GrammarError.SameKind Eq (analyzeGroups rules policy) (analyzeGroups rules' policy) := by
  -- The groups are refused exactly if a category is contested, and that is the same for both.
  have hrefused : (∃ e, groupByType rules = .error e) ↔ ∃ e, groupByType rules' = .error e := by
    rw [exists_groupByType_eq_error_iff, exists_groupByType_eq_error_iff]
    exact exists_congr h.contested_iff
  cases hentries : groupByType rules with
  | error e =>
    obtain ⟨e', hentries'⟩ := hrefused.mp ⟨e, hentries⟩
    rw [analyzeGroups, analyzeGroups, hentries, hentries']
    exact .error ((kind_of_groupByType_eq_error hentries).trans
      (kind_of_groupByType_eq_error hentries').symm)
  | ok entries =>
    cases hentries' : groupByType rules' with
    | error e' =>
      obtain ⟨e, he⟩ := hrefused.mpr ⟨e', hentries'⟩
      cases hentries.symm.trans he
    | ok entries' =>
      obtain ⟨groups, hgroups⟩ : ∃ groups, analyzeGroups rules policy = .ok groups :=
        ⟨_, by rw [analyzeGroups, hentries]; rfl⟩
      obtain ⟨groups', hgroups'⟩ : ∃ groups, analyzeGroups rules' policy = .ok groups :=
        ⟨_, by rw [analyzeGroups, hentries']; rfl⟩
      rw [hgroups, hgroups']
      exact .ok (h.groups_eq hgroups hgroups')

/-- The entrypoints of interleaved sequences are the same if they are declared, or are refused in
both. -/
theorem entrypointTypes_agree (h : Interleaved rules rules') :
    Agree GrammarError.SameKind
      (fun types types' => (∃ entrypoint, .entrypoint entrypoint ∈ rules) → types = types')
      (entrypointTypes rules) (entrypointTypes rules') := by
  have hnone (hentrypoints : rules.filterMap Rule.entrypoint? = []) (entrypoint : Entrypoint) :
      .entrypoint entrypoint ∉ rules := by
    intro hmem
    have hread : entrypoint ∈ rules.filterMap Rule.entrypoint? := by simpa using hmem
    rw [hentrypoints] at hread
    cases hread
  rw [entrypointTypes, entrypointTypes, ← h.entrypoints_eq]
  split
  · exact .error rfl
  · exact .ok fun _ => rfl
  next hentrypoints =>
    -- The first alternative may be another one, but then nothing declares the entrypoints.
    refine .ok fun hdeclared => ?_
    obtain ⟨entrypoint, hmem⟩ := hdeclared
    exact absurd hmem (hnone hentrypoints entrypoint)

/-- Interleaved sequences are analysed to grammars with the same groups and list categories, or are
both refused for errors of the same kind. -/
theorem analyze_agree (h : Interleaved rules rules') (extra : ExtraCases) (policy : BoxPolicy) :
    Agree GrammarError.SameKind
      (fun grammar grammar' => grammar.groups = grammar'.groups ∧
        grammar.listTypes = grammar'.listTypes ∧
        ((∃ entrypoint, .entrypoint entrypoint ∈ rules) →
          grammar.entrypoints = grammar'.entrypoints))
      (analyze rules extra policy) (analyze rules' extra policy) := by
  refine (h.analyzeGroups_agree policy).bind ?_
  rintro groups _ rfl
  -- From here on both go through the same steps up to the entrypoints.
  have hextra : Agree GrammarError.SameKind Eq (addExtraCases groups extra)
      (addExtraCases groups extra) := agree_self GrammarError.sameKind_refl (fun _ => rfl) _
  refine hextra.bind ?_
  rintro result _ rfl
  refine h.entrypointTypes_agree.bind ?_
  intro types types' htypes
  exact .ok ⟨rfl, h.listTypes_eq, htypes⟩

end Interleaved

end SyntaxBridge
