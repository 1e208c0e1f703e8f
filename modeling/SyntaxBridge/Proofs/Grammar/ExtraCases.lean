import Mathlib
import SyntaxBridge.CommandLine.Extra
import SyntaxBridge.Proofs.Duplicates
import SyntaxBridge.Proofs.Entries
import SyntaxBridge.Proofs.Grammar.Analysis

/-!
# Cases added in portions

Cases that are added by hand in two steps are those that are added in one step, if the second
portion is put behind the first (`bind_addExtraCases`). So the cases of a command line, which are
collected before the analysis, may as well be added one by one (`foldlM_addExtraCases`).

A step is refused for the first category that it names and that takes no cases
(`addExtraCases_eq_error_iff`). Otherwise it leaves everything but the cases of the categories that
it names as it was (`addExtraCases_eq_ok_iff_forall₂`).
-/

namespace SyntaxBridge

open CommandLine Outcome

variable {rules : List Rule} {policy : BoxPolicy} {grammar : Grammar} {groups : List Group}
  {extra first second : ExtraCases} {name : String}

namespace ExtraCases

/-- The categories that cases are given for, in order. -/
def names (extra : ExtraCases) : List String :=
  extra.map (·.1)

/-- Extra cases with others behind them: the categories of the first come first, each with its cases
of both, and then the categories that only the second names. -/
def followedBy (first second : ExtraCases) : ExtraCases :=
  first.map (fun entry => (entry.1, entry.2 ++ (second.lookup entry.1).getD [])) ++
    second.filter fun entry => !first.names.contains entry.1

/-! ## Two portions in one -/

theorem names_followedBy (first second : ExtraCases) :
    (first.followedBy second).names =
      first.names ++ second.names.filter (!first.names.contains ·) := by
  simp [followedBy, names, List.filter_map, Function.comp_def]

/-- No category is named twice if neither portion does so. -/
theorem nodup_names_followedBy (hfirst : first.names.Nodup) (hsecond : second.names.Nodup) :
    (first.followedBy second).names.Nodup := by
  rw [names_followedBy, List.nodup_append]
  refine ⟨hfirst, hsecond.filter _, ?_⟩
  rintro name hname _ hnew rfl
  have hnew := (List.mem_filter.mp hnew).2
  simp [hname] at hnew

theorem lookup_eq_none_iff : extra.lookup name = none ↔ name ∉ extra.names := by
  rw [List.lookup_eq_none_iff, names, List.mem_map]
  constructor
  · rintro h ⟨entry, hentry, rfl⟩
    exact absurd (h entry hentry) (by simp)
  · exact fun h entry hentry => bne_iff_ne.mpr fun heq => h ⟨entry, hentry, heq.symm⟩

/-- A category takes its cases of the first portion and then those of the second. -/
theorem lookup_followedBy (first second : ExtraCases) (name : String) :
    ((first.followedBy second).lookup name).getD [] =
      (first.lookup name).getD [] ++ (second.lookup name).getD [] := by
  have hold := lookup_map (fun name cases => cases ++ (second.lookup name).getD []) first name
  have hnew := lookup_filter (!first.names.contains ·) second name
  rw [followedBy, List.lookup_append, hold, hnew]
  -- The category is looked up among the new ones only if the first portion does not name it.
  cases hfirst : first.lookup name with
  | none =>
    have hmem : name ∉ first.names := lookup_eq_none_iff.mp hfirst
    simp [hmem]
  | some cases => rfl

end ExtraCases

/-! ## Categories that take cases -/

/-- A category takes cases if it is declared and is no token. -/
def TakesCases (groups : List Group) (name : String) : Prop :=
  ∃ group ∈ groups, group.name = name ∧ group.isToken = false

/-- The errors for a category that takes no cases. -/
inductive RefusesCases (groups : List Group) (name : String) : GrammarError → Prop
  /-- The category is not declared. -/
  | unknown (h : ∀ group ∈ groups, group.name ≠ name) :
    RefusesCases groups name { cause := .extraForUnknown name }
  /-- The category is a token. -/
  | token {group : Group} (hgroup : group ∈ groups) (hname : group.name = name)
    (htoken : group.isToken = true) : RefusesCases groups name { cause := .extraForToken name }

/-- A category is found by its name if no other one has it. -/
theorem find?_name_eq_some_iff (hnames : (groups.map (·.name)).Nodup) {group : Group} :
    groups.find? (·.name == name) = some group ↔ group ∈ groups ∧ group.name = name := by
  constructor
  · intro h
    exact ⟨List.mem_of_find?_eq_some h, by simpa using List.find?_some h⟩
  · rintro ⟨hgroup, rfl⟩
    rw [← List.head?_filter, filter_name_eq_singleton hnames hgroup, List.head?_cons]

theorem checkExtraTarget_eq_ok_iff (hnames : (groups.map (·.name)).Nodup) :
    checkExtraTarget groups name = .ok () ↔ TakesCases groups name := by
  rw [checkExtraTarget]
  constructor
  · intro h
    split at h
    · cases h
    next group hgroup =>
      obtain ⟨hmem, hname⟩ := (find?_name_eq_some_iff hnames).mp hgroup
      split_ifs at h with htoken
      exact ⟨group, hmem, hname, by simpa using htoken⟩
  · rintro ⟨group, hgroup, hname, htoken⟩
    rw [(find?_name_eq_some_iff hnames).mpr ⟨hgroup, hname⟩]
    simp [htoken]

theorem checkExtraTarget_eq_error_iff (hnames : (groups.map (·.name)).Nodup) {e : GrammarError} :
    checkExtraTarget groups name = .error e ↔ RefusesCases groups name e := by
  rw [checkExtraTarget]
  constructor
  · intro h
    split at h
    next hnone =>
      cases h
      exact .unknown (by simpa using hnone)
    next group hgroup =>
      obtain ⟨hmem, hname⟩ := (find?_name_eq_some_iff hnames).mp hgroup
      split_ifs at h with htoken
      cases h
      exact .token hmem hname htoken
  · rintro (hnone | ⟨hgroup, hname, htoken⟩)
    · rw [List.find?_eq_none.mpr (by simpa using hnone)]
    · rw [(find?_name_eq_some_iff hnames).mpr ⟨hgroup, hname⟩]
      simp [htoken]

/-- Cases are refused for the first category that takes none. -/
theorem addExtraCases_eq_error_iff (hnames : (groups.map (·.name)).Nodup) {e : GrammarError} :
    addExtraCases groups extra = .error e ↔
      ∃ before name cases after, extra = before ++ (name, cases) :: after ∧
        (∀ entry ∈ before, TakesCases groups entry.1) ∧ RefusesCases groups name e := by
  have hcheck : addExtraCases groups extra = .error e ↔
      extra.forM (fun entry => checkExtraTarget groups entry.1) = .error e := by
    rw [addExtraCases, bind_eq_error_iff]
    constructor
    · rintro (h | ⟨_, _, ⟨⟩⟩)
      exact h
    · exact .inl
  -- Nothing is added before all categories are checked, so the error is that of the checks.
  rw [hcheck, forM_eq_error_iff]
  simp only [Prod.exists, checkExtraTarget_eq_ok_iff hnames, checkExtraTarget_eq_error_iff hnames]

/-! ## Steps -/

/-- A category after a step that may have given it cases. -/
structure IsExtended (extra : ExtraCases) (group result : Group) : Prop where
  name_eq : result.name = group.name
  members_eq : result.members = group.members
  boxed_eq : result.boxed = group.boxed
  extraCases_eq : result.extraCases = group.extraCases ++ (extra.lookup group.name).getD []
  unchanged : group.name ∉ extra.names → result = group

/-- Adding its cases is all that happens to a category. -/
theorem isExtended_iff {group result : Group} :
    IsExtended extra group result ↔
      result = group.addCases ((extra.lookup group.name).getD []) := by
  constructor
  · rintro ⟨hname, hmembers, hboxed, hcases, -⟩
    cases result
    cases group
    simp_all [Group.addCases]
  · rintro rfl
    refine ⟨rfl, rfl, rfl, rfl, fun hnone => ?_⟩
    rw [ExtraCases.lookup_eq_none_iff.mpr hnone]
    simp [Group.addCases]

/-- Cases are added exactly if all categories take them, and to the cases of these categories
only. -/
theorem addExtraCases_eq_ok_iff_forall₂ (hnames : (groups.map (·.name)).Nodup)
    {result : List Group} :
    addExtraCases groups extra = .ok result ↔
      (∀ entry ∈ extra, TakesCases groups entry.1) ∧
        List.Forall₂ (IsExtended extra) groups result := by
  have hresult : List.Forall₂ (IsExtended extra) groups result ↔
      result = groups.map fun group => group.addCases ((extra.lookup group.name).getD []) := by
    rw [eq_comm, ← List.forall₂_eq_eq_eq, List.forall₂_map_left_iff]
    exact ⟨.imp fun _ _ h => (isExtended_iff.mp h).symm,
      .imp fun _ _ h => isExtended_iff.mpr h.symm⟩
  rw [addExtraCases_eq_ok_iff, hresult]
  simp only [checkExtraTarget_eq_ok_iff hnames]

/-! ## Two steps -/

/-- Whether a category takes cases does not depend on those that it has. -/
theorem checkExtraTarget_map_addCases (groups : List Group) (cases : String → List String)
    (name : String) :
    checkExtraTarget (groups.map fun group => group.addCases (cases group.name)) name =
      checkExtraTarget groups name := by
  have hfind : (groups.map fun group => group.addCases (cases group.name)).find? (·.name == name) =
      (groups.find? (·.name == name)).map fun group => group.addCases (cases group.name) := by
    rw [List.find?_map]
    rfl
  rw [checkExtraTarget, checkExtraTarget, hfind]
  cases groups.find? (·.name == name) <;> rfl

/-- Checking both portions at once is checking one after the other. -/
theorem forM_followedBy (groups : List Group) (first second : ExtraCases) :
    (first.followedBy second).forM (fun entry => checkExtraTarget groups entry.1) =
      first.forM (fun entry => checkExtraTarget groups entry.1) >>= fun _ =>
        second.forM fun entry => checkExtraTarget groups entry.1 := by
  rw [ExtraCases.followedBy, List.forM_eq_forM, List.forM_append, List.forM_map,
    ← List.forM_eq_forM]
  cases hfirst : first.forM fun entry => checkExtraTarget groups entry.1 with
  | error e => rfl
  | ok _ =>
    -- What the first portion names has passed, so leaving it out makes no difference.
    refine forM_filter_eq fun entry _ hkeep => ?_
    obtain ⟨named, hnamed, hname⟩ : ∃ named ∈ first, named.1 = entry.1 := by
      simpa [ExtraCases.names] using hkeep
    rw [← hname]
    exact forM_eq_ok_iff.mp hfirst named hnamed

/-- Adding cases in two steps is adding both portions in one. -/
theorem bind_addExtraCases (groups : List Group) (first second : ExtraCases) :
    (addExtraCases groups first >>= fun result => addExtraCases result second) =
      addExtraCases groups (first.followedBy second) := by
  have hboth : (groups.map fun group => group.addCases ((first.lookup group.name).getD [])).map
      (fun group => group.addCases ((second.lookup group.name).getD [])) =
        groups.map fun group =>
          group.addCases (((first.followedBy second).lookup group.name).getD []) := by
    rw [List.map_map]
    refine List.map_congr_left fun group _ => ?_
    rw [ExtraCases.lookup_followedBy]
    simp [Group.addCases]
  -- What the first step adds is not seen by the checks of the second, so these may come before it.
  change (first.forM _ >>= fun _ => _) >>= _ = (first.followedBy second).forM _ >>= _
  rw [forM_followedBy]
  cases first.forM fun entry => checkExtraTarget groups entry.1 with
  | error e => rfl
  | ok _ =>
    change (second.forM (fun entry => checkExtraTarget (groups.map _) entry.1) >>= fun _ => .ok _) =
      (second.forM fun entry => checkExtraTarget groups entry.1) >>= fun _ => .ok _
    simp only [checkExtraTarget_map_addCases groups fun name => (first.lookup name).getD []]
    rw [hboth]

/-! ## One by one -/

/-- A case on the command line is put behind those that were given before it. -/
theorem groupExtraCases_concat (pairs : List (String × String)) (pair : String × String) :
    groupExtraCases (pairs ++ [pair]) =
      (groupExtraCases pairs).followedBy [(pair.1, [pair.2])] := by
  have hcases (name : String) :
      ((pairs ++ [pair]).filter (·.1 == name)).map (·.2) =
        (pairs.filter (·.1 == name)).map (·.2) ++
          (([(pair.1, [pair.2])] : ExtraCases).lookup name).getD [] := by
    by_cases hname : pair.1 = name
    · simp [hname]
    · rw [lookup_cons_of_ne (Ne.symm hname)]
      simp [hname]
  have hnames : (groupExtraCases pairs).names = (pairs.map (·.1)).eraseDups := by
    simp [groupExtraCases, ExtraCases.names, Function.comp_def]
  rw [ExtraCases.followedBy, hnames, groupExtraCases, groupExtraCases, List.map_map,
    List.map_append, List.map_singleton, eraseDups_concat]
  simp only [hcases]
  -- The category is either named before, or it is a new one and comes last.
  by_cases hmem : pair.1 ∈ pairs.map (·.1)
  · rw [if_pos hmem, List.filter_cons_of_neg (by simpa using hmem), List.filter_nil,
      List.append_nil]
    rfl
  · have hnone : pairs.filter (·.1 == pair.1) = [] :=
      List.filter_eq_nil_iff.mpr fun other hother hname =>
        hmem (List.mem_map.mpr ⟨other, hother, beq_iff_eq.mp hname⟩)
    rw [if_neg hmem, List.filter_cons_of_pos (by simpa using hmem), List.filter_nil,
      List.map_append, List.map_singleton, hnone]
    simp [Function.comp_def]

/-- Adding the cases of a command line one by one is adding all of them at once. -/
theorem foldlM_addExtraCases (groups : List Group) (pairs : List (String × String)) :
    pairs.foldlM (fun groups pair => addExtraCases groups [(pair.1, [pair.2])]) groups =
      addExtraCases groups (groupExtraCases pairs) := by
  induction pairs using List.reverseRecOn with
  | nil => exact (addExtraCases_nil groups).symm
  | append_singleton pairs pair ih =>
    rw [List.foldlM_append, ih, groupExtraCases_concat, ← bind_addExtraCases]
    simp

/-- An analysis with the cases of a command line is one without them, to which they are added. -/
theorem analyze_groupExtraCases {bare : Grammar} (h : analyze rules [] policy = .ok bare)
    (pairs : List (String × String)) :
    analyze rules (groupExtraCases pairs) policy =
      (addExtraCases bare.groups (groupExtraCases pairs)).map fun groups =>
        { bare with groups } := by
  obtain ⟨groups, entrypoints, hgroups, -, hentrypoints, rfl⟩ := analyze_eq_ok_iff.mp h
  have hbare : groups.map (fun group => group.addCases ((([] : ExtraCases).lookup group.name).getD
      [])) = groups := by
    simp [Group.addCases]
  -- The entrypoints are found in the rules, whatever is added to the categories.
  rw [analyze, hgroups]
  dsimp only
  rw [hbare]
  change (addExtraCases groups (groupExtraCases pairs) >>= fun groups => assemble rules groups) = _
  cases addExtraCases groups (groupExtraCases pairs) with
  | error e => rfl
  | ok result =>
    change assemble rules result = _
    rw [assemble, hentrypoints]
    rfl

/-- Cases may be added to the categories of an analysed grammar in any portions. -/
structure TakesPortions (rules : List Rule) (policy : BoxPolicy) (grammar : Grammar) : Prop where
  /-- Two steps are one, with the same error if there is one. -/
  two_steps : ∀ first second : ExtraCases,
    (addExtraCases grammar.groups first >>= fun groups => addExtraCases groups second) =
      addExtraCases grammar.groups (first.followedBy second)
  /-- Two mappings make one. -/
  nodup_names : ∀ first second : ExtraCases, first.names.Nodup → second.names.Nodup →
    (first.followedBy second).names.Nodup
  /-- Where the rules are accepted without extra cases, analysing them with those of a command line
  is adding these one by one. -/
  one_by_one : ∀ bare, analyze rules [] policy = .ok bare → ∀ pairs : List (String × String),
    analyze rules (groupExtraCases pairs) policy =
      (pairs.foldlM (fun groups pair => addExtraCases groups [(pair.1, [pair.2])]) bare.groups).map
        fun groups => { bare with groups }
  /-- A step is refused for the first category that takes no cases. -/
  refused_iff : ∀ (extra : ExtraCases) (e : GrammarError),
    addExtraCases grammar.groups extra = .error e ↔
      ∃ before name cases after, extra = before ++ (name, cases) :: after ∧
        (∀ entry ∈ before, TakesCases grammar.groups entry.1) ∧
        RefusesCases grammar.groups name e
  /-- Any other step gives cases to the categories that it names, and changes nothing else. -/
  accepted_iff : ∀ (extra : ExtraCases) (result : List Group),
    addExtraCases grammar.groups extra = .ok result ↔
      (∀ entry ∈ extra, TakesCases grammar.groups entry.1) ∧
        List.Forall₂ (IsExtended extra) grammar.groups result

/-- Cases may be added to the categories of every analysed grammar in any portions. -/
theorem takesPortions_of_analyze (h : analyze rules extra policy = .ok grammar) :
    TakesPortions rules policy grammar where
  two_steps := bind_addExtraCases grammar.groups
  nodup_names _ _ := ExtraCases.nodup_names_followedBy
  one_by_one bare hbare pairs := by
    rw [analyze_groupExtraCases hbare, foldlM_addExtraCases]
  refused_iff _ _ := addExtraCases_eq_error_iff (nodup_names_of_analyze h)
  accepted_iff _ _ := addExtraCases_eq_ok_iff_forall₂ (nodup_names_of_analyze h)

/-- A grammar with a category that has a case added by hand already, and with a token. -/
theorem takesPortions_expression :
    ∃ grammar, analyze [.constructor ⟨"EVar", "Exp", ["Id"], .unknown⟩, .token ⟨"Id", .unknown⟩]
        [("Exp", ["hole"])] .all = .ok grammar ∧
      TakesPortions grammar.rules .all grammar ∧
      addExtraCases grammar.groups [("Exp", ["gap"]), ("Id", ["name"]), ("Stm", [])] =
        .error { cause := .extraForToken "Id" } := by
  have h : analyze [.constructor ⟨"EVar", "Exp", ["Id"], .unknown⟩, .token ⟨"Id", .unknown⟩]
      [("Exp", ["hole"])] .all = .ok {
        rules := [.constructor ⟨"EVar", "Exp", ["Id"], .unknown⟩, .token ⟨"Id", .unknown⟩]
        groups := [⟨"Exp", .alternatives [⟨"EVar", "Exp", ["Id"], .unknown⟩], true, ["hole"]⟩,
          ⟨"Id", .token ⟨"Id", .unknown⟩, false, []⟩]
        listTypes := []
        entrypoints := ["Exp"] } := by cbv
  exact ⟨_, h, takesPortions_of_analyze h, by decide +kernel⟩

end SyntaxBridge
