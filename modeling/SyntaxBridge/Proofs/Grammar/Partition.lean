import SyntaxBridge.Proofs.Grammar.Analysis
import SyntaxBridge.Proofs.Grammar.Category

/-!
# The analysis partitions the rules

The analysis of a grammar puts every constructor and every token into the group of its category and
loses, repeats and reorders none. `IsPartition` says what an analysed grammar has to do with its
rules, and `analyze_isPartition` that the analysis without extra cases ends in such a grammar unless
a category is contested or the entrypoints are declared several times.
-/

namespace SyntaxBridge

variable {rules : List Rule} {policy : BoxPolicy} {extra : ExtraCases} {grammar : Grammar}

/-- An analysed grammar is a partition of its rules into groups, next to the list categories and the
entrypoints that the rules name. -/
structure IsPartition (rules : List Rule) (grammar : Grammar) : Prop where
  /-- The groups stand in strict order. -/
  pairwise_names : (grammar.groups.map (·.name)).Pairwise (· < ·)
  /-- The groups are the categories of the constructors and tokens. -/
  mem_names : ∀ type, type ∈ grammar.groups.map (·.name) ↔ ∃ rule ∈ rules, rule.type? = some type
  /-- A group holds the rules of its category in the order of the grammar. -/
  rules_eq : ∀ group ∈ grammar.groups,
    group.rules = rules.filter fun rule => rule.type? == some group.name
  /-- A group is a token if it is a single token rule. -/
  isToken_iff : ∀ group ∈ grammar.groups,
    group.isToken = true ↔ ∃ token, group.rules = [.token token]
  /-- A token is not boxed. -/
  not_boxed : ∀ group ∈ grammar.groups, group.isToken = true → group.boxed = false
  /-- The list categories stand in strict order. -/
  pairwise_listTypes : grammar.listTypes.Pairwise (· < ·)
  /-- The list categories are those whose name between brackets is referred to. Nothing between
  brackets names no list category. -/
  mem_listTypes : ∀ type, type ∈ grammar.listTypes ↔
    type ≠ "" ∧ ∃ rule ∈ rules, "[" ++ type ++ "]" ∈ rule.references
  /-- The entrypoints are the declared ones, or else the category of the first constructor. -/
  entrypoints_eq : grammar.entrypoints =
    match rules.findSome? Rule.entrypoint? with
    | some declared => declared.types
    | none => ((rules.findSome? Rule.constructor?).map (·.type)).toList

/-- The list categories of rules are those whose name between brackets is referred to. -/
theorem mem_listTypes {type : String} :
    type ∈ listTypes rules ↔ type ≠ "" ∧ ∃ rule ∈ rules, "[" ++ type ++ "]" ∈ rule.references := by
  rw [listTypes, mem_ordered, List.mem_filterMap]
  simp only [Category.element?_eq_some_iff, references, List.mem_flatMap]
  constructor
  · rintro ⟨name, ⟨rule, hrule, hname⟩, hne, rfl⟩
    exact ⟨hne, rule, hrule, hname⟩
  · rintro ⟨hne, rule, hrule, hname⟩
    exact ⟨_, ⟨rule, hrule, hname⟩, hne, rfl⟩

/-- Members are a token exactly if their rules are a single token rule. -/
theorem Members.isToken_iff (members : Members) :
    members.isToken = true ↔ ∃ token, members.rules = [.token token] := by
  cases members with
  | token token => simp [Members.isToken, Members.rules]
  | alternatives alternatives =>
    cases alternatives <;> simp [Members.isToken, Members.rules]

/-- Whatever the extra cases, an analysed grammar is a partition of its rules. -/
theorem isPartition_of_analyze (h : analyze rules extra policy = .ok grammar) :
    IsPartition rules grammar := by
  obtain ⟨hnames, hgroups⟩ := groups_of_analyze h
  obtain ⟨groups, entrypoints, _, _, hentrypoints, hgrammar⟩ := analyze_eq_ok_iff.mp h
  have hlists : grammar.listTypes = listTypes rules := by rw [hgrammar]
  have hentry : grammar.entrypoints = entrypoints := by rw [hgrammar]
  exact {
    pairwise_names := by
      rw [hnames]
      exact pairwise_ordered _
    mem_names := fun type => by
      rw [hnames, mem_ordered, List.mem_filterMap]
    rules_eq := fun group hgroup =>
      Members.rules_of_ofRules (fun _ => type?_of_mem_rulesOf) (hgroups group hgroup).1
    isToken_iff := fun group _ => group.members.isToken_iff
    not_boxed := fun group hgroup => (hgroups group hgroup).2
    pairwise_listTypes := by
      rw [hlists]
      exact pairwise_ordered _
    mem_listTypes := fun type => by
      rw [hlists]
      exact mem_listTypes
    entrypoints_eq := by
      rw [hentry]
      exact (entrypointTypes_eq_ok_iff.mp hentrypoints).2 }

/-- The alternatives of the groups are rules of the grammar. -/
theorem constructor_mem_of_analyze (h : analyze rules extra policy = .ok grammar) {group : Group}
    (hgroup : group ∈ grammar.groups) {alternative : Constructor}
    (halternative : alternative ∈ group.members.constructors) :
    .constructor alternative ∈ rules := by
  have hrule : .constructor alternative ∈ group.rules := Members.mem_constructors.mp halternative
  rw [(isPartition_of_analyze h).rules_eq group hgroup] at hrule
  exact List.mem_of_mem_filter hrule

/-- Each alternative among the rules belongs to a group. -/
theorem exists_group_of_constructor_mem (h : analyze rules extra policy = .ok grammar)
    {alternative : Constructor} (hrule : .constructor alternative ∈ rules) :
    ∃ group ∈ grammar.groups, alternative ∈ group.members.constructors := by
  have hpartition := isPartition_of_analyze h
  obtain ⟨group, hgroup, hname⟩ := List.mem_map.mp
    ((hpartition.mem_names alternative.type).mpr ⟨_, hrule, rfl⟩)
  have hmem : .constructor alternative ∈ group.rules := by
    rw [hpartition.rules_eq group hgroup, List.mem_filter, hname, beq_iff_eq]
    exact ⟨hrule, rfl⟩
  exact ⟨group, hgroup, Members.mem_constructors.mpr hmem⟩

/-- Entrypoints that are declared are those of the grammar. -/
theorem entrypoints_of_analyze (h : analyze rules extra policy = .ok grammar)
    {declared : Entrypoint} (hrule : .entrypoint declared ∈ rules) :
    grammar.entrypoints = declared.types := by
  obtain ⟨_, entrypoints, _, _, hentrypoints, rfl⟩ := analyze_eq_ok_iff.mp h
  have hmem : declared ∈ rules.filterMap Rule.entrypoint? :=
    List.mem_filterMap.mpr ⟨_, hrule, rfl⟩
  -- There is no second declaration.
  rw [entrypointTypes] at hentrypoints
  split at hentrypoints
  next => cases hentrypoints
  next first hfirst =>
    cases hentrypoints
    rw [hfirst, List.mem_singleton] at hmem
    rw [hmem]
  next hnone =>
    rw [hnone] at hmem
    cases hmem

/-- An analysis without extra cases contradicts itself exactly if a category is contested. Otherwise
it cannot be read exactly if the entrypoints are declared several times. Otherwise it ends in a
partition of the rules. -/
theorem analyze_isPartition (rules : List Rule) (policy : BoxPolicy) :
    ((∃ e, analyze rules [] policy = .error e ∧ e.cause.kind = .inconsistent) ↔
        ∃ type, Contested rules type) ∧
      ((¬ ∃ type, Contested rules type) →
        ((∃ e, analyze rules [] policy = .error e ∧ e.cause.kind = .unreadable) ↔
            2 ≤ (rules.filterMap Rule.entrypoint?).length) ∧
          (¬ 2 ≤ (rules.filterMap Rule.entrypoint?).length →
            ∃ grammar, analyze rules [] policy = .ok grammar ∧ IsPartition rules grammar)) := by
  refine ⟨⟨?_, ?_⟩, fun hfree => ⟨⟨?_, ?_⟩, ?_⟩⟩
  · rintro ⟨e, he, hkind⟩
    rcases analyze_nil_eq_error_iff.mp he with h | ⟨_, h⟩
    · exact exists_groupByType_eq_error_iff.mp ⟨e, h⟩
    · rw [kind_of_entrypointTypes_eq_error h] at hkind
      cases hkind
  · intro hcontested
    obtain ⟨e, h⟩ := exists_groupByType_eq_error_iff.mpr hcontested
    exact ⟨e, analyze_nil_eq_error_iff.mpr (.inl h), kind_of_groupByType_eq_error h⟩
  · rintro ⟨e, he, _⟩
    rcases analyze_nil_eq_error_iff.mp he with h | ⟨_, h⟩
    · exact absurd (exists_groupByType_eq_error_iff.mp ⟨e, h⟩) hfree
    · exact exists_entrypointTypes_eq_error_iff.mp ⟨e, h⟩
  · intro hseveral
    obtain ⟨e, h⟩ := exists_entrypointTypes_eq_error_iff.mpr hseveral
    refine ⟨e, analyze_nil_eq_error_iff.mpr (.inr ⟨?_, h⟩), kind_of_entrypointTypes_eq_error h⟩
    exact exists_analyzeGroups_eq_ok hfree
  · intro hfew
    cases h : analyze rules [] policy with
    | ok grammar => exact ⟨grammar, rfl, isPartition_of_analyze h⟩
    | error e =>
      -- Neither kind of refusal is left.
      rcases analyze_nil_eq_error_iff.mp h with h | ⟨_, h⟩
      · exact absurd (exists_groupByType_eq_error_iff.mp ⟨e, h⟩) hfree
      · exact absurd (exists_entrypointTypes_eq_error_iff.mp ⟨e, h⟩) hfew

/-- Brackets with nothing between them may be referred to, and still there is no list category with
the empty name. -/
theorem emptyName_not_mem_listTypes :
    "[" ++ "" ++ "]" ∈ references [.constructor ⟨"A", "B", ["[]"], .unknown⟩] ∧
      ∃ grammar, analyze [.constructor ⟨"A", "B", ["[]"], .unknown⟩] [] .all = .ok grammar ∧
        "" ∉ grammar.listTypes := by
  refine ⟨by decide, {
    rules := [.constructor ⟨"A", "B", ["[]"], .unknown⟩]
    groups := [⟨"B", .alternatives [⟨"A", "B", ["[]"], .unknown⟩], true, []⟩]
    listTypes := []
    entrypoints := ["B"] }, by decide +kernel, by simp⟩

end SyntaxBridge
