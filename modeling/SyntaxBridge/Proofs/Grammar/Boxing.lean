import Mathlib
import SyntaxBridge.Proofs.Grammar.Graph
import SyntaxBridge.Proofs.Grammar.Partition

/-!
# Boxed categories

A category refers to those that its alternatives hold as such (`RefersTo`), and it is recursive if a
chain of references leads from it back to itself. Under the policy `cycles` the recursive categories
are boxed and no others (`BoxesRecursive`), so the categories that are laid out in place hold each
other without a cycle. Under the policy `all` every category with alternatives is boxed.
`analyze_boxing` says so of every analysis, and that the policy decides nothing else.
-/

namespace SyntaxBridge

open Relation

variable {rules : List Rule} {policy : BoxPolicy} {extra : ExtraCases} {grammar : Grammar}

/-- Some alternative of a category holds the other as such, not as a list. -/
def RefersTo (rules : List Rule) (type other : String) : Prop :=
  ∃ alternative, .constructor alternative ∈ rules ∧ alternative.type = type ∧
    other ∈ alternative.construction ∧ Category.isList other = false

/-- A category that refers to another has an alternative among the rules that declare it. -/
theorem RefersTo.exists_mem_rulesOf {type other : String} (h : RefersTo rules type other) :
    ∃ alternative, .constructor alternative ∈ rulesOf type rules := by
  obtain ⟨alternative, hmem, rfl, -⟩ := h
  exact ⟨alternative, List.mem_filter.mpr ⟨hmem, by simp [Rule.type?]⟩⟩

/-! ## The graph of references -/

/-- The categories that alternatives hold as such. -/
theorem mem_directReferences {alternatives : List Constructor} {other : String} :
    other ∈ directReferences alternatives ↔
      ∃ alternative ∈ alternatives, other ∈ alternative.construction ∧
        Category.isList other = false := by
  rw [directReferences, mem_ordered, List.mem_filter, List.mem_flatMap]
  simp only [Bool.not_eq_true', ← and_assoc, exists_and_right]

/-- The members of a group refer to what the rules of its category refer to. -/
theorem mem_directReferences_of_ofRules {type other : String} {members : Members}
    (h : Members.ofRules type (rulesOf type rules) = .ok members) :
    other ∈ directReferences members.constructors ↔ RefersTo rules type other := by
  have hrules : members.rules = rulesOf type rules :=
    Members.rules_of_ofRules (fun _ => type?_of_mem_rulesOf) h
  rw [mem_directReferences]
  refine exists_congr fun alternative => ?_
  rw [Members.mem_constructors, hrules, rulesOf, List.mem_filter]
  simp [Rule.type?, and_assoc]

/-- The steps in the graph of references are the references of the rules. -/
theorem leadsTo_referenceGraph_iff {entries : List (String × Members)}
    (h : groupByType rules = .ok entries) {type other : String} :
    (referenceGraph entries).LeadsTo type other ↔ RefersTo rules type other := by
  obtain ⟨hnames, hmembers⟩ := groupByType_eq_ok h
  cases hlookup : (referenceGraph entries).lookup type with
  | none =>
    -- The category is not declared, so it has no alternatives either.
    refine iff_of_false (Graph.not_leadsTo_of_lookup_eq_none hlookup other) fun hrefers => ?_
    obtain ⟨alternative, hmem, htype, -⟩ := hrefers
    have hdeclared : type ∈ declaredTypes rules :=
      mem_declaredTypes.mpr ⟨_, hmem, congrArg some htype⟩
    rw [← hnames] at hdeclared
    obtain ⟨entry, hentry, rfl⟩ := List.mem_map.mp hdeclared
    have hne := List.lookup_eq_none_iff.mp hlookup _ (List.mem_map_of_mem hentry)
    simp at hne
  | some next =>
    obtain ⟨before, after, hsplit, -⟩ := List.lookup_eq_some_iff.mp hlookup
    have hnode : (type, next) ∈ referenceGraph entries := by
      rw [hsplit]
      exact List.mem_append_right _ List.mem_cons_self
    obtain ⟨entry, hentry, heq⟩ := List.mem_map.mp hnode
    cases heq
    rw [Graph.LeadsTo, Graph.successors, hlookup, Option.getD_some]
    exact mem_directReferences_of_ofRules (hmembers entry hentry)

/-- The recursive categories are those that a chain of references leads back to. -/
theorem mem_recursiveTypes {entries : List (String × Members)}
    (h : groupByType rules = .ok entries) {type : String} :
    type ∈ recursiveTypes entries ↔ TransGen (RefersTo rules) type type := by
  have hsteps : (referenceGraph entries).LeadsTo = RefersTo rules := by
    funext type other
    exact propext (leadsTo_referenceGraph_iff h)
  rw [recursiveTypes, mem_ordered, List.mem_filter, Graph.reaches_iff, hsteps]
  refine and_iff_right_of_imp fun hchain => ?_
  -- The first step of the chain is taken by an alternative of the category.
  obtain ⟨_, hstep, -⟩ := TransGen.head'_iff.mp hchain
  obtain ⟨alternative, hmem, htype, -⟩ := hstep
  rw [(groupByType_eq_ok h).1, mem_declaredTypes]
  exact ⟨_, hmem, congrArg some htype⟩

/-! ## Boxed groups -/

/-- A group is boxed if it is no token and the policy asks for it. -/
theorem boxed_of_analyze (h : analyze rules extra policy = .ok grammar) :
    ∃ entries, groupByType rules = .ok entries ∧ ∀ group ∈ grammar.groups,
      group.boxed = (!group.isToken && (boxedTypes entries policy).contains group.name) := by
  obtain ⟨groups, _, hgroups, _, _, rfl⟩ := analyze_eq_ok_iff.mp h
  obtain ⟨entries, hentries, hgroups⟩ := Outcome.bind_eq_ok_iff.mp hgroups
  cases hgroups
  refine ⟨entries, hentries, fun group hgroup => ?_⟩
  -- Adding cases by hand leaves the decision alone.
  obtain ⟨source, hsource, rfl⟩ := List.mem_map.mp hgroup
  obtain ⟨entry, _, rfl⟩ := List.mem_map.mp hsource
  rfl

/-- A group with alternatives is one of the declared categories. -/
theorem mem_names_of_groupByType (h : analyze rules extra policy = .ok grammar)
    {entries : List (String × Members)} (hentries : groupByType rules = .ok entries)
    {group : Group} (hgroup : group ∈ grammar.groups) : group.name ∈ entries.map (·.1) := by
  have hname : group.name ∈ grammar.groups.map (·.name) := List.mem_map_of_mem hgroup
  rw [(groups_of_analyze h).1, mem_ordered] at hname
  rw [(groupByType_eq_ok hentries).1, declaredTypes, List.mem_eraseDups]
  exact hname

/-- The values of a category are laid out in place, not boxed. -/
def Grammar.InPlace (grammar : Grammar) (type : String) : Prop :=
  ∃ group ∈ grammar.groups, group.name = type ∧ group.boxed = false

/-- A grammar boxes the recursive categories and no others. -/
structure BoxesRecursive (rules : List Rule) (grammar : Grammar) : Prop where
  /-- The boxed groups are those with alternatives that a chain of references leads back to. -/
  boxed_iff : ∀ group ∈ grammar.groups, group.boxed = true ↔
    group.isToken = false ∧ TransGen (RefersTo rules) group.name group.name
  /-- The categories that are laid out in place do not hold each other in a cycle. -/
  not_cyclic : ∀ type, ¬ TransGen (fun type other =>
    RefersTo rules type other ∧ grammar.InPlace type ∧ grammar.InPlace other) type type

/-- A group whose category refers to another is no token. -/
theorem isToken_eq_false_of_refersTo (h : analyze rules extra policy = .ok grammar) {group : Group}
    (hgroup : group ∈ grammar.groups) {other : String} (hrefers : RefersTo rules group.name other) :
    group.isToken = false := by
  obtain ⟨alternative, hmem⟩ := hrefers.exists_mem_rulesOf
  cases htoken : group.isToken with
  | false => rfl
  | true =>
    -- The rules of a token hold no alternative.
    have hpartition := isPartition_of_analyze h
    obtain ⟨token, hrules⟩ := (hpartition.isToken_iff group hgroup).mp htoken
    rw [hpartition.rules_eq group hgroup, ← rulesOf] at hrules
    rw [hrules] at hmem
    simp at hmem

/-- Under the policy `cycles` the recursive categories are boxed. -/
theorem boxesRecursive_of_analyze (h : analyze rules extra .cycles = .ok grammar) :
    BoxesRecursive rules grammar := by
  obtain ⟨entries, hentries, hboxed⟩ := boxed_of_analyze h
  have hiff (group : Group) (hgroup : group ∈ grammar.groups) : group.boxed = true ↔
      group.isToken = false ∧ TransGen (RefersTo rules) group.name group.name := by
    rw [hboxed group hgroup, Bool.and_eq_true, Bool.not_eq_true', List.contains_iff_mem, boxedTypes,
      mem_recursiveTypes hentries]
  refine ⟨hiff, fun type hcycle => ?_⟩
  -- The category that the cycle starts from is laid out in place, and still it is recursive.
  obtain ⟨other, ⟨hstep, ⟨group, hgroup, rfl, hinPlace⟩, -⟩, -⟩ := TransGen.head'_iff.mp hcycle
  have hchain : TransGen (RefersTo rules) group.name group.name :=
    TransGen.mono (fun _ _ hrestricted => hrestricted.1) _ _ hcycle
  have hrecursive : group.boxed = true :=
    (hiff group hgroup).mpr ⟨isToken_eq_false_of_refersTo h hgroup hstep, hchain⟩
  rw [hinPlace] at hrecursive
  exact Bool.false_ne_true hrecursive

/-- Under the policy `all` the categories with alternatives are boxed. -/
theorem boxed_eq_of_analyze_all (h : analyze rules extra .all = .ok grammar) {group : Group}
    (hgroup : group ∈ grammar.groups) : group.boxed = !group.isToken := by
  obtain ⟨entries, hentries, hboxed⟩ := boxed_of_analyze h
  have hname : (boxedTypes entries .all).contains group.name = true :=
    List.contains_iff_mem.mpr (mem_names_of_groupByType h hentries hgroup)
  rw [hboxed group hgroup, hname, Bool.and_true]

/-! ## What the policy leaves alone -/

/-- A category as it is without boxing. -/
def Group.unboxed (group : Group) : Group :=
  { group with boxed := false }

/-- A grammar as it is without boxing. -/
def Grammar.unboxed (grammar : Grammar) : Grammar :=
  { grammar with groups := grammar.groups.map Group.unboxed }

/-- Without boxing the groups are the same under every policy. -/
theorem analyzeGroups_unboxed (rules : List Rule) (policy policy' : BoxPolicy) :
    Outcome.mapBoth id (List.map Group.unboxed) (analyzeGroups rules policy) =
      Outcome.mapBoth id (List.map Group.unboxed) (analyzeGroups rules policy') := by
  rw [analyzeGroups, analyzeGroups]
  cases groupByType rules with
  | error e => rfl
  | ok entries =>
    change Except.ok _ = Except.ok _
    rw [List.map_map, List.map_map]
    rfl

/-- Cases may be added to the same categories with and without boxing. -/
theorem checkExtraTarget_unboxed (groups : List Group) (name : String) :
    checkExtraTarget (groups.map Group.unboxed) name = checkExtraTarget groups name := by
  have hfind : (groups.map Group.unboxed).find? (·.name == name) =
      (groups.find? (·.name == name)).map Group.unboxed := by
    rw [List.find?_map]
    rfl
  rw [checkExtraTarget, hfind, checkExtraTarget]
  cases groups.find? (·.name == name) <;> rfl

/-- Cases are added by hand with and without boxing alike. -/
theorem addExtraCases_unboxed (groups : List Group) (extra : ExtraCases) :
    addExtraCases (groups.map Group.unboxed) extra =
      Outcome.mapBoth id (List.map Group.unboxed) (addExtraCases groups extra) := by
  rw [addExtraCases, addExtraCases]
  simp only [checkExtraTarget_unboxed]
  cases extra.forM fun entry => checkExtraTarget groups entry.1 with
  | error e => rfl
  | ok _ =>
    change Except.ok _ = Except.ok _
    rw [List.map_map, List.map_map]
    rfl

/-- What the groups are made into, with and without boxing. -/
theorem assemble_unboxed (rules : List Rule) (groups : List Group) :
    assemble rules (groups.map Group.unboxed) =
      Outcome.mapBoth id Grammar.unboxed (assemble rules groups) := by
  rw [assemble, assemble]
  cases entrypointTypes rules <;> rfl

/-- Without boxing the outcome of an analysis is the same under every policy. -/
theorem analyze_unboxed (rules : List Rule) (extra : ExtraCases) (policy policy' : BoxPolicy) :
    Outcome.mapBoth id Grammar.unboxed (analyze rules extra policy) =
      Outcome.mapBoth id Grammar.unboxed (analyze rules extra policy') := by
  have hgroups (policy : BoxPolicy) :
      (Outcome.mapBoth id (List.map Group.unboxed) (analyzeGroups rules policy) >>= fun groups =>
        addExtraCases groups extra >>= assemble rules) =
      Outcome.mapBoth id Grammar.unboxed (analyze rules extra policy) := by
    refine Outcome.mapBoth_bind _ fun groups => ?_
    rw [addExtraCases_unboxed]
    exact Outcome.mapBoth_bind _ (assemble_unboxed rules)
  rw [← hgroups policy, ← hgroups policy', analyzeGroups_unboxed rules policy policy']

/-- The policy `cycles` boxes the recursive categories, the policy `all` boxes all categories with
alternatives, and the two lead to grammars that differ in nothing else, or to the same error. -/
theorem analyze_boxing (rules : List Rule) (extra : ExtraCases) :
    (∀ grammar, analyze rules extra .cycles = .ok grammar → BoxesRecursive rules grammar) ∧
      (∀ grammar, analyze rules extra .all = .ok grammar →
        ∀ group ∈ grammar.groups, group.boxed = !group.isToken) ∧
      Outcome.mapBoth id Grammar.unboxed (analyze rules extra .cycles) =
        Outcome.mapBoth id Grammar.unboxed (analyze rules extra .all) := by
  refine ⟨?_, ?_, analyze_unboxed rules extra .cycles .all⟩
  · intro grammar h
    exact boxesRecursive_of_analyze h
  · intro grammar h group hgroup
    exact boxed_eq_of_analyze_all h hgroup

/-- Two categories that hold each other are boxed under either policy, and one that holds a list of
its own values only if all are. -/
theorem boxing_of_mutual_reference :
    let rules : List Rule := [.constructor ⟨"EBlock", "Exp", ["Stm"], .unknown⟩,
      .constructor ⟨"SExp", "Stm", ["Exp", "Name"], .unknown⟩,
      .constructor ⟨"PAll", "Prog", ["[Prog]"], .unknown⟩, .token ⟨"Name", .unknown⟩]
    ∃ inCycles inAll, analyze rules [] .cycles = .ok inCycles ∧ analyze rules [] .all = .ok inAll ∧
      inCycles.groups.map (fun group => (group.name, group.boxed)) =
        [("Exp", true), ("Name", false), ("Prog", false), ("Stm", true)] ∧
      BoxesRecursive rules inCycles ∧ (∀ group ∈ inAll.groups, group.boxed = !group.isToken) ∧
      inCycles.unboxed = inAll.unboxed := by
  intro rules
  have hcycles : analyze rules [] .cycles = .ok {
      rules
      groups := [⟨"Exp", .alternatives [⟨"EBlock", "Exp", ["Stm"], .unknown⟩], true, []⟩,
        ⟨"Name", .token ⟨"Name", .unknown⟩, false, []⟩,
        ⟨"Prog", .alternatives [⟨"PAll", "Prog", ["[Prog]"], .unknown⟩], false, []⟩,
        ⟨"Stm", .alternatives [⟨"SExp", "Stm", ["Exp", "Name"], .unknown⟩], true, []⟩]
      listTypes := ["Prog"]
      entrypoints := ["Exp"] } := by cbv
  obtain ⟨hrecursive, hall, hunboxed⟩ := analyze_boxing rules []
  -- The policy decides nothing but the boxes, so the rules are accepted under the other one too.
  cases hinAll : analyze rules [] .all with
  | error e =>
    rw [hcycles, hinAll] at hunboxed
    cases hunboxed
  | ok inAll =>
    rw [hcycles, hinAll] at hunboxed
    exact ⟨_, inAll, hcycles, rfl, rfl, hrecursive _ hcycles, hall inAll hinAll,
      Except.ok.inj hunboxed⟩

end SyntaxBridge
