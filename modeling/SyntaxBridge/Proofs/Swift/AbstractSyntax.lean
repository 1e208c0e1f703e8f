import SyntaxBridge.Proofs.Grammar.Analysis
import SyntaxBridge.Swift.AbstractSyntax

/-!
# The declarations of the abstract syntax

What is read off the declarations of types is read off the categories with alternatives, the list
categories and the tokens, in this order (`flatMap_abstractSyntax`). What holds of all declarations is
shown for each kind of them once (`forall_mem_abstractSyntax`). There is one enumeration for each
category with alternatives (`filter_enumerates_abstractSyntax`).
-/

namespace SyntaxBridge.Swift

open AbstractDeclaration

variable {rules : List Rule} {extra : ExtraCases} {policy : BoxPolicy} {grammar : Grammar}

/-- Whether a declaration gives a name to a type. -/
def AbstractDeclaration.namesType : AbstractDeclaration → Bool
  | enumeration .. | listNames _ | word _ => true
  | _ => false

/-- What is read off the declarations of types in the abstract syntax. -/
theorem flatMap_abstractSyntax {β : Type} {f : AbstractDeclaration → List β}
    (hother : ∀ d, d.namesType = false → f d = []) (hnone : f (listNames []) = [])
    (grammar : Grammar) :
    (abstractSyntax grammar).flatMap f =
      (grammar.groups.filter (!·.isToken)).flatMap (f ∘ ofGroup) ++
        f (listNames grammar.listTypes) ++
        (grammar.groups.filter (·.isToken)).flatMap (f ∘ ofGroup) := by
  -- The sections for printing name no types.
  have hsilent (entries : List Group) {declarations : List AbstractDeclaration}
      (hdeclarations : ∀ d ∈ declarations, d.namesType = false) :
      (if entries.isEmpty then [] else declarations).flatMap f = [] := by
    split
    · rfl
    · exact List.flatMap_eq_nil_iff.mpr fun d hd => hother d (hdeclarations d hd)
  have hlists : (if grammar.listTypes.isEmpty then []
      else [heading "Lists", listNames grammar.listTypes]).flatMap f =
        f (listNames grammar.listTypes) := by
    cases grammar.listTypes with
    | nil => exact hnone.symm
    | cons category categories => simp [hother (heading "Lists") rfl]
  have htokens (tokens : List Group) :
      (if tokens.isEmpty then [] else heading "Tokens" :: tokens.map ofGroup).flatMap f =
        tokens.flatMap (f ∘ ofGroup) := by
    cases tokens with
    | nil => rfl
    | cons token tokens => simp [hother (heading "Tokens") rfl, List.flatMap_map, Function.comp_def]
  simp only [abstractSyntax, List.flatMap_append, hlists, htokens, List.flatMap_map]
  rw [hsilent, hsilent, hsilent, List.nil_append, List.append_nil, List.append_nil]
  · rfl
  · intro d hd
    rcases List.mem_cons.mp hd with rfl | hd
    · rfl
    · obtain ⟨token, _, hd⟩ := List.mem_flatMap.mp hd
      simp only [List.mem_cons, List.not_mem_nil, or_false] at hd
      rcases hd with rfl | rfl | rfl <;> rfl
  · simp [namesType]
  · simp [namesType]

/-- The declarations of the abstract syntax are some that are the same for all grammars, the names for
the lists that are used, and some for each category. -/
theorem forall_mem_abstractSyntax {P : AbstractDeclaration → Prop}
    (hfixed : ∀ d ∈ [foundation, heading "Lists", heading "Tokens", heading "Custom printing",
      printing, defaultPrinting, heading "Token helpers"], P d)
    (hlists : grammar.listTypes ≠ [] → P (listNames grammar.listTypes))
    (hgroups : ∀ group ∈ grammar.groups, ∀ d ∈ [ofGroup group,
      printable group.name group.isToken, description group.name, equality group.name,
      hashing group.name], P d) :
    ∀ d ∈ abstractSyntax grammar, P d := by
  -- A section that is left out without entries holds nothing else.
  have hsection {entries : List Group} {declarations : List AbstractDeclaration}
      (h : ∀ d ∈ declarations, P d) : ∀ d ∈ if entries.isEmpty then [] else declarations, P d := by
    split
    · exact List.forall_mem_nil P
    · exact h
  have hdeclared {keep : Group → Bool} : ∀ d ∈ (grammar.groups.filter keep).map ofGroup, P d :=
    List.forall_mem_map.mpr fun group hgroup =>
      hgroups group (List.mem_of_mem_filter hgroup) _ (by simp)
  rw [abstractSyntax]
  simp only [List.forall_mem_append]
  refine ⟨⟨⟨⟨⟨hsection ?_, hdeclared⟩, ?_⟩, hsection ?_⟩, hsection ?_⟩, hsection ?_⟩
  · exact List.forall_mem_singleton.mpr (hfixed _ (by simp))
  · split
    · exact List.forall_mem_nil P
    next hne =>
      refine List.forall_mem_cons.mpr ⟨hfixed _ (by simp), List.forall_mem_singleton.mpr ?_⟩
      exact hlists (by simpa using hne)
  · exact List.forall_mem_cons.mpr ⟨hfixed _ (by simp), hdeclared⟩
  · refine List.forall_mem_append.mpr ⟨fun d hd => hfixed d ?_, List.forall_mem_map.mpr ?_⟩
    · simp only [List.mem_cons, List.not_mem_nil, or_false] at hd ⊢
      tauto
    · exact fun group hgroup => hgroups group hgroup _ (by simp)
  · refine List.forall_mem_cons.mpr ⟨hfixed _ (by simp), fun d hd => ?_⟩
    obtain ⟨group, hgroup, hd⟩ := List.mem_flatMap.mp hd
    refine hgroups group (List.mem_of_mem_filter hgroup) d ?_
    exact List.mem_cons_of_mem _ (List.mem_cons_of_mem _ hd)

/-- Each category is declared. -/
theorem ofGroup_mem_abstractSyntax {group : Group} (hgroup : group ∈ grammar.groups) :
    ofGroup group ∈ abstractSyntax grammar := by
  simp only [abstractSyntax, List.mem_append]
  cases htoken : group.isToken with
  | false =>
    have hfilter : group ∈ grammar.groups.filter (!·.isToken) :=
      List.mem_filter.mpr ⟨hgroup, by rw [htoken, Bool.not_false]⟩
    exact .inl (.inl (.inl (.inl (.inr (List.mem_map_of_mem hfilter)))))
  | true =>
    have hfilter : group ∈ grammar.groups.filter (·.isToken) := List.mem_filter.mpr ⟨hgroup, htoken⟩
    refine .inl (.inl (.inr ?_))
    rw [if_neg (by simpa using List.ne_nil_of_mem hfilter)]
    exact List.mem_cons_of_mem _ (List.mem_map_of_mem hfilter)

/-- The lists that are used are given names. -/
theorem listNames_mem_abstractSyntax (h : grammar.listTypes ≠ []) :
    listNames grammar.listTypes ∈ abstractSyntax grammar := by
  simp only [abstractSyntax, List.mem_append]
  refine .inl (.inl (.inl (.inr ?_)))
  rw [if_neg (by simpa using h)]
  exact List.mem_cons_of_mem _ List.mem_cons_self

/-! ## Enumerations -/

/-- Whether a declaration is the enumeration of a category. -/
def AbstractDeclaration.enumerates (category : String) : AbstractDeclaration → Bool
  | enumeration name _ _ _ => name == category
  | _ => false

theorem enumerates_ofGroup (group : Group) (category : String) :
    (ofGroup group).enumerates category = (!group.isToken && group.name == category) := by
  rw [ofGroup, Group.isToken]
  cases group.members with
  | token token => rfl
  | alternatives alternatives => rw [Members.isToken, Bool.not_false, Bool.true_and, enumerates]

/-- A category with alternatives has one enumeration. -/
theorem filter_enumerates_abstractSyntax (h : analyze rules extra policy = .ok grammar)
    {group : Group} (hgroup : group ∈ grammar.groups) (htoken : group.isToken = false) :
    (abstractSyntax grammar).filter (·.enumerates group.name) = [ofGroup group] := by
  have hwords : ((grammar.groups.filter (·.isToken)).map ofGroup).filter
      (·.enumerates group.name) = [] := by
    refine List.filter_eq_nil_iff.mpr fun d hd => ?_
    obtain ⟨token, htoken, rfl⟩ := List.mem_map.mp hd
    simp [enumerates_ofGroup, (List.mem_filter.mp htoken).2]
  calc (abstractSyntax grammar).filter (·.enumerates group.name)
      = (abstractSyntax grammar).flatMap fun d => [d].filter (·.enumerates group.name) := by
        rw [← List.filter_flatMap, List.flatMap_singleton']
    _ = ((grammar.groups.filter (!·.isToken)).map ofGroup).filter (·.enumerates group.name) := by
        have hgroups (groups : List Group) :
            groups.flatMap ((fun d => [d].filter (·.enumerates group.name)) ∘ ofGroup) =
              (groups.map ofGroup).filter (·.enumerates group.name) := by
          rw [List.map_eq_flatMap, List.filter_flatMap]
          rfl
        rw [flatMap_abstractSyntax ?_ rfl, hgroups, hgroups, hwords, List.append_nil]
        · exact List.append_nil _
        · intro d hd
          cases d <;> first | rfl | cases hd
    _ = ((grammar.groups.filter (!·.isToken)).filter (·.name == group.name)).map ofGroup := by
        rw [List.filter_map]
        refine congrArg (List.map ofGroup) (List.filter_congr fun other hother => ?_)
        have hother : (!other.isToken) = true := (List.mem_filter.mp hother).2
        rw [Function.comp_apply, enumerates_ofGroup, hother, Bool.true_and]
    _ = [ofGroup group] := by
        rw [filter_name_groups_of_analyze h hgroup htoken, List.map_singleton]

/-! ## Cases added by hand -/

/-- A line that is added is that of a case that was added by hand. -/
theorem exists_of_mem_extraCaseLines {taken texts : List String} {line : String}
    (h : line ∈ extraCaseLines taken texts) : ∃ text ∈ texts, line = extraCaseLine text := by
  -- The lines that are already taken grow on the way.
  induction texts generalizing taken with
  | nil => cases h
  | cons text texts ih =>
    rw [extraCaseLines] at h
    split at h
    · obtain ⟨other, hother, heq⟩ := ih h
      exact ⟨other, List.mem_cons_of_mem _ hother, heq⟩
    · rcases List.mem_cons.mp h with heq | h
      · exact ⟨text, List.mem_cons_self, heq⟩
      · obtain ⟨other, hother, heq⟩ := ih h
        exact ⟨other, List.mem_cons_of_mem _ hother, heq⟩

end SyntaxBridge.Swift
