import SyntaxBridge.Proofs.Grammar.Group

/-!
# Successful and refused analyses

`analyze_eq_ok_iff` says what an analysis returns, and `groups_of_analyze` what its groups are. An
analysis without extra cases is refused where the groups are, and after that where the entrypoints
are (`analyze_nil_eq_error_iff`).
-/

namespace SyntaxBridge

variable {rules : List Rule} {policy : BoxPolicy} {extra : ExtraCases}

/-- Cases are added by hand if they are given for categories with alternatives only. -/
theorem addExtraCases_eq_ok_iff {groups result : List Group} :
    addExtraCases groups extra = .ok result ↔
      (∀ entry ∈ extra, checkExtraTarget groups entry.1 = .ok ()) ∧
        result = groups.map fun group => group.addCases ((extra.lookup group.name).getD []) := by
  rw [addExtraCases, Outcome.bind_eq_ok_iff]
  constructor
  · rintro ⟨_, hcheck, h⟩
    cases h
    exact ⟨Outcome.forM_eq_ok_iff.mp hcheck, rfl⟩
  · rintro ⟨hcheck, rfl⟩
    exact ⟨(), Outcome.forM_eq_ok_iff.mpr hcheck, rfl⟩

/-- Without extra cases the groups stay as they are. -/
@[simp]
theorem addExtraCases_nil (groups : List Group) : addExtraCases groups [] = .ok groups := by
  refine addExtraCases_eq_ok_iff.mpr ⟨by simp, ?_⟩
  simp [Group.addCases]

/-- A grammar that is analysed keeps its rules, and has the groups, the list categories and the
entrypoints of its rules. -/
theorem analyze_eq_ok_iff {grammar : Grammar} :
    analyze rules extra policy = .ok grammar ↔
      ∃ groups entrypoints, analyzeGroups rules policy = .ok groups ∧
        (∀ entry ∈ extra, checkExtraTarget groups entry.1 = .ok ()) ∧
        entrypointTypes rules = .ok entrypoints ∧
        grammar = {
          rules
          groups := groups.map fun group => group.addCases ((extra.lookup group.name).getD [])
          listTypes := listTypes rules
          entrypoints } := by
  rw [analyze, Outcome.bind_eq_ok_iff]
  refine exists_congr fun groups => ?_
  rw [Outcome.bind_eq_ok_iff]
  constructor
  · rintro ⟨hgroups, result, hextra, h⟩
    obtain ⟨hcheck, rfl⟩ := addExtraCases_eq_ok_iff.mp hextra
    obtain ⟨entrypoints, hentrypoints, h⟩ := Outcome.bind_eq_ok_iff.mp h
    cases h
    exact ⟨entrypoints, hgroups, hcheck, hentrypoints, rfl⟩
  · rintro ⟨entrypoints, hgroups, hcheck, hentrypoints, rfl⟩
    refine ⟨hgroups, _, addExtraCases_eq_ok_iff.mpr ⟨hcheck, rfl⟩, ?_⟩
    exact Outcome.bind_eq_ok_iff.mpr ⟨entrypoints, hentrypoints, rfl⟩

/-- An analysed grammar keeps its rules. -/
theorem rules_of_analyze {grammar : Grammar} (h : analyze rules extra policy = .ok grammar) :
    grammar.rules = rules := by
  obtain ⟨_, _, _, _, _, rfl⟩ := analyze_eq_ok_iff.mp h
  rfl

/-- The groups of an analysed grammar are the declared categories in order, each with what its rules
make of it. Tokens are not boxed. -/
theorem groups_of_analyze {grammar : Grammar} (h : analyze rules extra policy = .ok grammar) :
    grammar.groups.map (·.name) = ordered (rules.filterMap Rule.type?) ∧
      ∀ group ∈ grammar.groups,
        Members.ofRules group.name (rulesOf group.name rules) = .ok group.members ∧
          (group.isToken = true → group.boxed = false) := by
  obtain ⟨groups, _, hgroups, _, _, rfl⟩ := analyze_eq_ok_iff.mp h
  obtain ⟨hnames, hmembers⟩ := analyzeGroups_eq_ok hgroups
  refine ⟨by simpa [Function.comp_def, Group.addCases] using hnames, ?_⟩
  intro group hgroup
  obtain ⟨source, hsource, rfl⟩ := List.mem_map.mp hgroup
  exact hmembers source hsource

/-- The cases that were added by hand to a category are those that are given for its name. -/
theorem extraCases_of_analyze {grammar : Grammar} (h : analyze rules extra policy = .ok grammar)
    {group : Group} (hgroup : group ∈ grammar.groups) :
    group.extraCases = (extra.lookup group.name).getD [] := by
  obtain ⟨groups, _, hgroups, _, _, rfl⟩ := analyze_eq_ok_iff.mp h
  obtain ⟨source, hsource, rfl⟩ := List.mem_map.mp hgroup
  obtain ⟨entries, _, hgroups⟩ := Outcome.bind_eq_ok_iff.mp hgroups
  cases hgroups
  -- A category comes without cases that were added by hand.
  obtain ⟨entry, _, rfl⟩ := List.mem_map.mp hsource
  exact List.nil_append _

/-- A category that is no token has alternatives. -/
theorem Group.exists_alternatives {group : Group} (h : group.isToken = false) :
    ∃ alternatives, group.members = .alternatives alternatives := by
  rw [Group.isToken] at h
  cases hmembers : group.members with
  | token token => simp [hmembers, Members.isToken] at h
  | alternatives alternatives => exact ⟨alternatives, rfl⟩

/-- No two groups of an analysed grammar have the same name. -/
theorem nodup_names_of_analyze {grammar : Grammar} (h : analyze rules extra policy = .ok grammar) :
    (grammar.groups.map (·.name)).Nodup := by
  rw [(groups_of_analyze h).1]
  exact nodup_ordered _

/-- A category with alternatives is the only one of its name. -/
theorem filter_name_groups_of_analyze {grammar : Grammar}
    (h : analyze rules extra policy = .ok grammar) {group : Group} (hgroup : group ∈ grammar.groups)
    (htoken : group.isToken = false) :
    (grammar.groups.filter (!·.isToken)).filter (·.name == group.name) = [group] := by
  have hnames := filter_name_eq_singleton (nodup_names_of_analyze h) hgroup
  rw [List.filter_comm, hnames, List.filter_cons_of_pos (by simp [htoken]), List.filter_nil]

/-! ## What the extra cases and the policy leave alone -/

/-- A category as it is without boxing and without cases added by hand. -/
def Group.bare (group : Group) : Group :=
  { group with boxed := false, extraCases := [] }

/-- A grammar as it is without boxing and without cases added by hand. -/
def Grammar.bare (grammar : Grammar) : Grammar :=
  { grammar with groups := grammar.groups.map Group.bare }

/-- The bare groups of an analysed grammar are read off its rules. -/
theorem map_some_bare_groups {grammar : Grammar} (h : analyze rules extra policy = .ok grammar) :
    grammar.groups.map (some ·.bare) = (ordered (rules.filterMap Rule.type?)).map fun name =>
      (Members.ofRules name (rulesOf name rules)).toOption.map (⟨name, ·, false, []⟩) := by
  obtain ⟨hnames, hmembers⟩ := groups_of_analyze h
  rw [← hnames, List.map_map]
  refine List.map_congr_left fun group hgroup => ?_
  rw [Function.comp_apply, (hmembers group hgroup).1]
  rfl

/-- Extra cases and the policy make a difference to boxing and to cases added by hand only. -/
theorem bare_eq_of_analyze {extra' : ExtraCases} {policy' : BoxPolicy} {grammar grammar' : Grammar}
    (h : analyze rules extra policy = .ok grammar)
    (h' : analyze rules extra' policy' = .ok grammar') : grammar'.bare = grammar.bare := by
  -- Under `some` the bare groups of both are the same function of the rules.
  have hgroups : grammar'.groups.map Group.bare = grammar.groups.map Group.bare := by
    refine List.map_injective_iff.mpr (fun _ _ => Option.some.inj) ?_
    rw [List.map_map, List.map_map]
    exact (map_some_bare_groups h').trans (map_some_bare_groups h).symm
  obtain ⟨_, entrypoints, _, _, hentrypoints, rfl⟩ := analyze_eq_ok_iff.mp h
  obtain ⟨_, entrypoints', _, _, hentrypoints', rfl⟩ := analyze_eq_ok_iff.mp h'
  cases hentrypoints.symm.trans hentrypoints'
  exact congrArg (Grammar.mk rules · _ _) hgroups

/-! ## Entrypoints -/

/-- The entrypoints are read off exactly if they are declared at most once. Then they are the
declared ones, or else the category of the first alternative. -/
theorem entrypointTypes_eq_ok_iff {entrypoints : List String} :
    entrypointTypes rules = .ok entrypoints ↔
      (rules.filterMap Rule.entrypoint?).length < 2 ∧
        entrypoints =
          match rules.findSome? Rule.entrypoint? with
          | some declared => declared.types
          | none => ((rules.findSome? Rule.constructor?).map (·.type)).toList := by
  have hfirst : rules.findSome? Rule.entrypoint? = (rules.filterMap Rule.entrypoint?).head? :=
    List.head?_filterMap.symm
  rw [entrypointTypes, hfirst]
  split
  next h => simp [h]
  next declared h => simp [h, eq_comm]
  next h => simp [h, eq_comm]

/-- The entrypoints are refused exactly if they are declared several times. -/
theorem exists_entrypointTypes_eq_error_iff :
    (∃ e, entrypointTypes rules = .error e) ↔ 2 ≤ (rules.filterMap Rule.entrypoint?).length := by
  rw [entrypointTypes]
  split
  next h => simp [h]
  next declared h => simp [h]
  next h => simp [h]

/-- Entrypoints that are refused cannot be read. -/
theorem kind_of_entrypointTypes_eq_error {e : GrammarError}
    (h : entrypointTypes rules = .error e) : e.cause.kind = .unreadable := by
  unfold entrypointTypes at h
  split at h <;> cases h
  rfl

/-! ## Refusals without extra cases -/

/-- An analysis without extra cases is refused if the rules cannot be grouped, or else if the
entrypoints are refused. -/
theorem analyze_nil_eq_error_iff {e : GrammarError} :
    analyze rules [] policy = .error e ↔
      groupByType rules = .error e ∨
        (∃ groups, analyzeGroups rules policy = .ok groups) ∧ entrypointTypes rules = .error e := by
  -- Only the second step of `assemble` is left to fail, and only the first of `analyzeGroups`.
  have hassemble (groups : List Group) :
      assemble rules groups = .error e ↔ entrypointTypes rules = .error e := by
    rw [assemble, Outcome.bind_eq_error_iff]
    refine ⟨?_, .inl⟩
    rintro (h | ⟨_, _, h⟩)
    · exact h
    · cases h
  have hgroups : analyzeGroups rules policy = .error e ↔ groupByType rules = .error e := by
    rw [analyzeGroups, Outcome.bind_eq_error_iff]
    refine ⟨?_, .inl⟩
    rintro (h | ⟨_, _, h⟩)
    · exact h
    · cases h
  rw [analyze, Outcome.bind_eq_error_iff, hgroups]
  refine or_congr_right ⟨?_, ?_⟩
  · rintro ⟨groups, hok, h⟩
    rw [addExtraCases_nil] at h
    exact ⟨⟨groups, hok⟩, (hassemble groups).mp h⟩
  · rintro ⟨⟨groups, hok⟩, h⟩
    refine ⟨groups, hok, ?_⟩
    rw [addExtraCases_nil]
    exact (hassemble groups).mpr h

/-- The groups are made unless a category is contested. -/
theorem exists_analyzeGroups_eq_ok (h : ¬ ∃ type, Contested rules type) :
    ∃ groups, analyzeGroups rules policy = .ok groups := by
  cases hentries : groupByType rules with
  | error e => exact absurd (exists_groupByType_eq_error_iff.mp ⟨e, hentries⟩) h
  | ok entries => exact ⟨_, Outcome.bind_eq_ok_iff.mpr ⟨entries, hentries, rfl⟩⟩

end SyntaxBridge
