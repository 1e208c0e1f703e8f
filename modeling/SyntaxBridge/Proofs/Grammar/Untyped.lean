import SyntaxBridge.Grammar.Untyped
import SyntaxBridge.Proofs.Entries
import SyntaxBridge.Proofs.Outcome

/-!
# Options that need no check

An analysis with unchecked options checks them as it uses them. Options that were typed from the
start pass all of these checks, so the analysis is the typed one (`analyzeUntyped_ofTyped`).
-/

namespace SyntaxBridge

open Outcome Record

/-- A policy is found by its name. -/
theorem Untyped.policy_name (policy : BoxPolicy) :
    Untyped.policy (.text policy.name) = .ok policy := by
  cases policy <;> rfl

/-- A list of texts is read as these texts. -/
theorem Untyped.cases_texts (cases : List String) :
    Untyped.cases (.list (cases.map .text)) = .ok cases := by
  have htexts : (cases.map Value.text).mapM Untyped.text = .ok cases :=
    mapM_eq_ok_iff.mpr (List.forall₂_map_left_iff.mpr (List.forall₂_same.mpr fun _ _ => rfl))
  cases cases with
  | nil => rfl
  | cons first others => exact htexts

/-- Extra cases are looked up before or after they are made values. -/
theorem lookup_ofTyped (extra : ExtraCases) (policy : BoxPolicy) (name : String) :
    (AnalysisOptions.ofTyped extra policy).extra.lookup name =
      (extra.lookup name).map fun cases => .list (cases.map .text) :=
  lookup_map (fun _ (cases : List String) => Value.list (cases.map .text)) extra name

/-- The cases that are added to a category are those that are given for it. -/
theorem cases_lookup_ofTyped (extra : ExtraCases) (policy : BoxPolicy) (name : String) :
    Untyped.cases (((AnalysisOptions.ofTyped extra policy).extra.lookup name).getD .null) =
      .ok ((extra.lookup name).getD []) := by
  rw [lookup_ofTyped]
  cases extra.lookup name with
  | none => rfl
  | some cases => exact Untyped.cases_texts cases

/-- Cases that need no check are added like typed ones. -/
theorem addUntypedCases_ofTyped (groups : List Group) (extra : ExtraCases) (policy : BoxPolicy) :
    addUntypedCases groups (AnalysisOptions.ofTyped extra policy).extra =
      (addExtraCases groups extra).mapError .grammar := by
  have htargets : (AnalysisOptions.ofTyped extra policy).extra.forM
      (fun entry => checkExtraTarget groups entry.1) =
        extra.forM fun entry => checkExtraTarget groups entry.1 := by
    simp [AnalysisOptions.ofTyped, List.forM_map]
  have hcases : (groups.mapM fun group => do
      let cases ← (Untyped.cases (((AnalysisOptions.ofTyped extra policy).extra.lookup
        group.name).getD .null)).mapError AnalysisError.value
      return group.addCases cases) =
        .ok (groups.map fun group => group.addCases ((extra.lookup group.name).getD [])) := by
    refine mapM_eq_ok_iff.mpr (List.forall₂_map_right_iff.mpr (List.forall₂_same.mpr ?_))
    intro group _
    rw [cases_lookup_ofTyped]
    rfl
  change ((AnalysisOptions.ofTyped extra policy).extra.forM fun entry =>
      checkExtraTarget groups entry.1).mapError AnalysisError.grammar >>= (fun _ => _) =
    ((extra.forM fun entry => checkExtraTarget groups entry.1) >>= fun _ => _).mapError
      AnalysisError.grammar
  rw [htargets, hcases]
  cases extra.forM fun entry => checkExtraTarget groups entry.1 <;> rfl

/-- An analysis with options that need no check is the typed one. -/
theorem analyzeUntyped_ofTyped (rules : List Rule) (extra : ExtraCases) (policy : BoxPolicy) :
    analyzeUntyped rules (.ofTyped extra policy) =
      (analyze rules extra policy).mapError .grammar := by
  have hpolicy : Untyped.policy (AnalysisOptions.ofTyped extra policy).policy = .ok policy :=
    Untyped.policy_name policy
  have hgroups : analyzeUntyped rules (.ofTyped extra policy) =
      (analyzeGroups rules policy).mapError .grammar >>= fun groups =>
        addUntypedCases groups (AnalysisOptions.ofTyped extra policy).extra >>= fun groups =>
          (assemble rules groups).mapError .grammar := by
    rw [analyzeUntyped, hpolicy]
    rfl
  rw [hgroups, analyze, ← mapError_bind]
  congr 1
  funext groups
  rw [addUntypedCases_ofTyped, mapError_bind]

end SyntaxBridge
