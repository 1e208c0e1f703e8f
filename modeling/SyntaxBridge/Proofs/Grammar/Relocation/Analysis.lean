import SyntaxBridge.Grammar.Analysis
import SyntaxBridge.Proofs.Grammar.Relocation.Reading

/-!
# Analysing rules on other lines

Relocated rules are analysed to the relocated grammar or the relocated error (`analyze_relocate`).
The analysis also reports errors that stand on no line, so the unknown line has to be kept.
-/

namespace SyntaxBridge

open Outcome

variable (f : LineNumber → LineNumber)

namespace Members

variable (type : String) (rules : List Rule) (members : Members)

@[simp]
theorem constructors_relocate :
    (members.relocate f).constructors = members.constructors.map (Constructor.relocate f) := by
  cases members <;> rfl

@[simp]
theorem isToken_relocate : (members.relocate f).isToken = members.isToken := by
  cases members <;> rfl

@[simp]
theorem rules_relocate : (members.relocate f).rules = members.rules.map (Rule.relocate f) := by
  cases members with
  | token rule => rfl
  | alternatives rules => simp [relocate, Members.rules, Rule.relocate]

theorem ofRules_relocate :
    ofRules type (rules.map (Rule.relocate f)) =
      mapBoth (GrammarError.relocate f) (relocate f) (ofRules type rules) := by
  rw [ofRules, filterMap_token?_relocate, filterMap_constructor?_relocate, List.length_map, ofRules]
  rcases rules.filterMap Rule.token? with _ | ⟨first, others⟩
  · rfl
  · simp only [List.map_cons, List.length_map]
    split_ifs
    · rfl
    · cases others <;> rfl

end Members

namespace Group

variable (group : Group)

@[simp]
theorem name_relocate : (group.relocate f).name = group.name := rfl

@[simp]
theorem members_relocate : (group.relocate f).members = group.members.relocate f := rfl

@[simp]
theorem isToken_relocate : (group.relocate f).isToken = group.isToken :=
  Members.isToken_relocate f group.members

/-- A group is generated like the same group on other lines. -/
theorem same_relocate : (group.relocate f).same group = true := by
  simp [same, Group.rules, Function.comp_def, relocate, Group.isToken]

end Group

/-- A grammar is the same as that grammar on other lines. -/
theorem Grammar.same_relocate (grammar : Grammar) : (grammar.relocate f).same grammar = true := by
  have hgroups (groups : List Group) :
      ((groups.map (Group.relocate f)).zip groups).all (fun pair => pair.1.same pair.2) = true := by
    induction groups with
    | nil => rfl
    | cons group groups ih => simpa [Group.same_relocate] using ih
  simp [Grammar.same, Grammar.relocate, Function.comp_def, hgroups]

variable (rules : List Rule)

/-- Relocated rules fall into the relocated groups. -/
theorem groupByType_relocate :
    groupByType (rules.map (Rule.relocate f)) =
      mapBoth (GrammarError.relocate f) (List.map (Prod.map id (Members.relocate f)))
        (groupByType rules) := by
  rw [groupByType, declaredTypes_relocate, groupByType, ← List.map_id (declaredTypes rules)]
  refine (mapM_mapBoth _ fun type _ => ?_).trans (by rw [List.map_id])
  rw [id, rulesOf_relocate, Members.ofRules_relocate]
  exact mapBoth_bind _ fun members => rfl

/-- Direct references are the same on all lines. -/
@[simp]
theorem directReferences_relocate (alternatives : List Constructor) :
    directReferences (alternatives.map (Constructor.relocate f)) =
      directReferences alternatives := by
  simp [directReferences, List.flatMap_map, Constructor.relocate]

/-- The same categories are boxed on all lines. -/
theorem boxedTypes_relocate (entries : List (String × Members)) (policy : BoxPolicy) :
    boxedTypes (entries.map (Prod.map id (Members.relocate f))) policy =
      boxedTypes entries policy := by
  have hnames : (entries.map (Prod.map id (Members.relocate f))).map (·.1) = entries.map (·.1) := by
    simp
  have hgraph : referenceGraph (entries.map (Prod.map id (Members.relocate f))) =
      referenceGraph entries := by
    simp [referenceGraph]
  cases policy with
  | all => exact hnames
  | cycles => rw [boxedTypes, recursiveTypes, hgraph, hnames, boxedTypes, recursiveTypes]

/-- The groups of relocated rules are the relocated groups. -/
theorem analyzeGroups_relocate (policy : BoxPolicy) :
    analyzeGroups (rules.map (Rule.relocate f)) policy =
      mapBoth (GrammarError.relocate f) (List.map (Group.relocate f))
        (analyzeGroups rules policy) := by
  rw [analyzeGroups, groupByType_relocate]
  refine mapBoth_bind _ fun entries => congrArg Except.ok ?_
  -- Sorting looks at the names only.
  have hsort : (entries.map (Prod.map id (Members.relocate f))).mergeSort (fun a b => a.1 ≤ b.1) =
      (entries.mergeSort fun a b => a.1 ≤ b.1).map (Prod.map id (Members.relocate f)) :=
    (List.map_mergeSort (f := Prod.map id (Members.relocate f)) fun _ _ _ _ => rfl).symm
  rw [hsort, boxedTypes_relocate, List.map_map, List.map_map]
  refine List.map_congr_left fun entry _ => ?_
  simp [Group.relocate]

/-- Cases can be added by hand to the same categories on all lines. -/
@[simp]
theorem checkExtraTarget_relocate (groups : List Group) (name : String) :
    checkExtraTarget (groups.map (Group.relocate f)) name = checkExtraTarget groups name := by
  have hfind : (groups.map (Group.relocate f)).find? (·.name == name) =
      (groups.find? (·.name == name)).map (Group.relocate f) := by
    rw [List.find?_map]
    rfl
  rw [checkExtraTarget, hfind, checkExtraTarget]
  cases groups.find? (·.name == name) with
  | none => rfl
  | some group =>
    obtain ⟨_, members, _, _⟩ := group
    cases members <;> rfl

variable {f}

/-- A refusal of cases added by hand stands on no line. -/
theorem mapBoth_checkExtraTarget (hf : f .unknown = .unknown) (groups : List Group)
    (name : String) :
    mapBoth (GrammarError.relocate f) id (checkExtraTarget groups name) =
      checkExtraTarget groups name := by
  unfold checkExtraTarget
  split
  · exact congrArg Except.error (by simp [GrammarError.relocate, hf])
  · split
    · exact congrArg Except.error (by simp [GrammarError.relocate, hf])
    · rfl

/-- Cases are added by hand to relocated groups as to the groups themselves. -/
theorem addExtraCases_relocate (hf : f .unknown = .unknown) (groups : List Group)
    (extra : ExtraCases) :
    addExtraCases (groups.map (Group.relocate f)) extra =
      mapBoth (GrammarError.relocate f) (List.map (Group.relocate f))
        (addExtraCases groups extra) := by
  have hcheck : extra.forM (fun entry => checkExtraTarget (groups.map (Group.relocate f)) entry.1) =
      mapBoth (GrammarError.relocate f) id
        (extra.forM fun entry => checkExtraTarget groups entry.1) := by
    induction extra with
    | nil => rfl
    | cons entry extra ih =>
      change (checkExtraTarget _ entry.1 >>= fun _ => extra.forM _) =
        mapBoth _ id (checkExtraTarget groups entry.1 >>= fun _ => extra.forM _)
      rw [checkExtraTarget_relocate]
      -- The refusal is not relocated by the check, but as it stands on no line it may as well be.
      conv_lhs => rw [← mapBoth_checkExtraTarget hf groups entry.1]
      exact mapBoth_bind _ fun _ => ih
  rw [addExtraCases]
  refine hcheck ▸ mapBoth_bind _ fun _ => congrArg Except.ok ?_
  rw [List.map_map, List.map_map]
  rfl

/-- Relocated rules are analysed to the relocated grammar or the relocated error. -/
theorem analyze_relocate (hf : f .unknown = .unknown) (extra : ExtraCases) (policy : BoxPolicy) :
    analyze (rules.map (Rule.relocate f)) extra policy =
      mapBoth (GrammarError.relocate f) (Grammar.relocate f) (analyze rules extra policy) := by
  rw [analyze, analyzeGroups_relocate]
  refine mapBoth_bind _ fun groups => ?_
  rw [addExtraCases_relocate hf]
  refine mapBoth_bind _ fun result => ?_
  rw [assemble, entrypointTypes_relocate]
  refine mapBoth_bind _ fun entrypoints => ?_
  simp [Grammar.relocate, pure, Except.pure]

end SyntaxBridge
