import SyntaxBridge.Proofs.Grammar.Analysis
import SyntaxBridge.Swift.Bridge

/-!
# The declarations of the bridge

What is read off the declarations of a bridge one by one is read off the entrypoints, the categories
with alternatives, the list categories, the tokens and the predefined categories, in this order
(`flatMap_bridge`). What holds of all declarations is shown for each kind of them once
(`forall_mem_bridge`). There is one function for each category with alternatives that chooses among
them by number (`filter_chooses_bridge`), and what is boxed and added by hand makes no difference
(`bridgeSource?_eq_of_analyze`).
-/

namespace SyntaxBridge.Swift

open BridgeDeclaration

variable {rules : List Rule} {extra : ExtraCases} {policy : BoxPolicy} {grammar : Grammar}

/-- The function that chooses among the alternatives of a category. -/
def visitGroup (group : Group) : BridgeDeclaration :=
  visit group.name (group.members.constructors.map (CaseValue.ofConstructor group.name))

/-- The head of a function starts with the name of the function. -/
theorem BridgeDeclaration.visitHead_eq_append (name argument result : String) :
    visitHead name argument result =
      "private func visit" ++
        (name ++ ("(" ++ (argument ++ (") -> " ++ (result ++ " \x7b"))))) := by
  unfold visitHead
  simp only [String.append_assoc]

/-- What is read off the declarations of a bridge, apart from imports and headings. -/
theorem flatMap_bridge {β : Type} {f : BridgeDeclaration → List β} (himports : f imports = [])
    (hheading : ∀ title, f (heading title) = []) (grammar : Grammar) :
    (bridge grammar).flatMap f =
      grammar.entrypoints.flatMap (f ∘ parseFile) ++
        (grammar.groups.filter (!·.isToken)).flatMap (f ∘ visitGroup) ++
        grammar.listTypes.flatMap (f ∘ visitList) ++
        (grammar.groups.filter (·.isToken)).flatMap (f ∘ fun group => visitToken group.name) ++
        scalarConversions.flatMap (f ∘ visitScalar) := by
  -- A section that is left out because it has no entries would have nothing to be read off.
  have hsection (title : String) {α : Type} (entries : List α) (entry : α → BridgeDeclaration) :
      (if entries.isEmpty then [] else heading title :: entries.map entry).flatMap f =
        entries.flatMap (f ∘ entry) := by
    cases entries with
    | nil => rfl
    | cons first entries => simp [hheading, List.flatMap_map, Function.comp_def]
  simp only [bridge, List.flatMap_append, hsection]
  simp only [List.flatMap_cons, himports, hheading, List.flatMap_nil, List.flatMap_map,
    List.append_nil, List.nil_append]
  rfl

/-- The declarations of a bridge are some that are the same for all grammars, and some for each
entrypoint, each category and each list that is used. -/
theorem forall_mem_bridge {P : BridgeDeclaration → Prop}
    (hfixed : ∀ d ∈ [imports, heading "C to Swift mapping", heading "Lists", heading "Tokens",
      heading "Default types"] ++ scalarConversions.map visitScalar, P d)
    (hentrypoints : ∀ category ∈ grammar.entrypoints, P (parseFile category))
    (hlists : ∀ category ∈ grammar.listTypes, P (visitList category))
    (hgroups : ∀ group ∈ grammar.groups, P (visitGroup group) ∧ P (visitToken group.name)) :
    ∀ d ∈ bridge grammar, P d := by
  obtain ⟨hfixed, hscalars⟩ := List.forall_mem_append.mp hfixed
  -- A section that is left out without entries holds nothing else.
  have hsection {title : String} {α : Type} {entries : List α} {entry : α → BridgeDeclaration}
      (htitle : P (heading title)) (h : ∀ e ∈ entries, P (entry e)) :
      ∀ d ∈ if entries.isEmpty then [] else heading title :: entries.map entry, P d := by
    split
    · exact List.forall_mem_nil P
    · exact List.forall_mem_cons.mpr ⟨htitle, List.forall_mem_map.mpr h⟩
  rw [bridge]
  simp only [List.forall_mem_append]
  refine ⟨⟨⟨⟨⟨⟨?_, ?_⟩, ?_⟩, ?_⟩, hsection ?_ hlists⟩, hsection ?_ ?_⟩, ?_⟩
  · exact List.forall_mem_singleton.mpr (hfixed _ (by simp))
  · exact List.forall_mem_map.mpr hentrypoints
  · exact List.forall_mem_singleton.mpr (hfixed _ (by simp))
  · exact List.forall_mem_map.mpr fun group hgroup =>
      (hgroups group (List.mem_of_mem_filter hgroup)).1
  · exact hfixed _ (by simp)
  · exact hfixed _ (by simp)
  · exact fun group hgroup => (hgroups group (List.mem_of_mem_filter hgroup)).2
  · exact List.forall_mem_cons.mpr ⟨hfixed _ (by simp), hscalars⟩

/-- Each entrypoint has a function that parses a file. -/
theorem parseFile_mem_bridge {category : String} (h : category ∈ grammar.entrypoints) :
    parseFile category ∈ bridge grammar := by
  simp only [bridge, List.mem_append]
  exact .inl (.inl (.inl (.inl (.inl (.inr (List.mem_map_of_mem h))))))

/-! ## Functions that choose among cases -/

/-- Whether a declaration is the function that chooses among the cases of a category by number. -/
def BridgeDeclaration.chooses (category : String) : BridgeDeclaration → Bool
  | visit name _ => name == category
  | _ => false

/-- A category with alternatives has one function that chooses among its cases. -/
theorem filter_chooses_bridge (h : analyze rules extra policy = .ok grammar) {group : Group}
    (hgroup : group ∈ grammar.groups) (htoken : group.isToken = false) :
    (bridge grammar).filter (·.chooses group.name) = [visitGroup group] := by
  -- Picking out declarations is reading them off one by one, which `flatMap_bridge` is about.
  calc (bridge grammar).filter (·.chooses group.name)
      = (bridge grammar).flatMap fun d => [d].filter (·.chooses group.name) := by
        rw [← List.filter_flatMap, List.flatMap_singleton']
    _ = (grammar.groups.filter (!·.isToken)).flatMap
          fun other => [visitGroup other].filter (·.chooses group.name) := by
        have hnone {α : Type} (entries : List α) :
            entries.flatMap (fun _ => ([] : List BridgeDeclaration)) = [] :=
          List.flatMap_eq_nil_iff.mpr fun _ _ => rfl
        rw [flatMap_bridge rfl fun _ => rfl]
        simp [Function.comp_def, chooses, hnone]
    _ = [visitGroup group] := by
        rw [← List.filter_flatMap, ← List.map_eq_flatMap, List.filter_map]
        exact congrArg (List.map visitGroup) (filter_name_groups_of_analyze h hgroup htoken)

/-! ## What makes no difference -/

/-- The bridge is that of the bare grammar. -/
theorem bridge_bare (grammar : Grammar) : bridge grammar.bare = bridge grammar := by
  have htoken (group : Group) : group.bare.isToken = group.isToken := rfl
  simp only [bridge, Grammar.bare, List.filter_map, List.map_map, Function.comp_def, htoken,
    List.isEmpty_map]
  rfl

/-- The bridges of two analyses of the same rules are the same. -/
theorem bridgeSource?_eq_of_analyze {extra' : ExtraCases} {policy' : BoxPolicy} {grammar' : Grammar}
    (h : analyze rules extra policy = .ok grammar)
    (h' : analyze rules extra' policy' = .ok grammar') (module : String) :
    bridgeSource? grammar' module = bridgeSource? grammar module := by
  have hbridge : bridge grammar' = bridge grammar := by
    rw [← bridge_bare, ← bridge_bare grammar, bare_eq_of_analyze h h']
  rw [bridgeSource?, bridgeSource?, bridgeSource, bridgeSource, hbridge]

end SyntaxBridge.Swift
