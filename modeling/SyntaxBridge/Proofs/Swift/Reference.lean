import SyntaxBridge.Proofs.Swift.AbstractSyntax
import SyntaxBridge.Proofs.Swift.Bridge
import SyntaxBridge.Proofs.Text.Start

/-!
# References in the generated sources

The functions that a declaration of the bridge calls (`BridgeDeclaration.calls`) and the types that
a declaration of the abstract syntax uses (`AbstractDeclaration.uses`). Both stand in its lines
(`exists_line_of_mem_calls`, `exists_line_of_mem_uses`). They come of the entrypoints, of the parts
of alternatives and of the list categories.
-/

namespace SyntaxBridge.Swift

open BridgeDeclaration Text

/-- The types after which the functions are named that a declaration calls to visit values. -/
def BridgeDeclaration.calls : BridgeDeclaration → List String
  | parseFile category => [Category.listName category]
  | visit _ cases => cases.flatMap fun value => value.arguments.map (·.visited)
  | visitList category => [category, Category.listName (Category.listOf category)]
  | _ => []

/-- The types that a declaration uses: those of the parts of cases, and those of the elements of
lists. Cases that are added by hand are not looked into. -/
def AbstractDeclaration.uses : AbstractDeclaration → List String
  | enumeration _ _ cases _ => cases.flatMap (·.payload)
  | listNames categories => categories.map typeName
  | _ => []

/-- A text stands within another. -/
def Occurs (part text : String) : Prop :=
  ∃ before after, text = before ++ part ++ after

/-- The arguments of a case call the functions for the parts of the alternative. -/
theorem map_visited_arguments (type : String) (rule : Constructor) :
    (CaseValue.ofConstructor type rule).arguments.map (·.visited) =
      rule.construction.map Category.listName := by
  refine List.ext_getElem (by simp [CaseValue.ofConstructor, memberNames]) fun i _ _ => ?_
  simp [CaseValue.ofConstructor]

/-! ## Texts within texts -/

theorem Occurs.append_right {part text : String} (h : Occurs part text) (back : String) :
    Occurs part (text ++ back) := by
  obtain ⟨before, after, rfl⟩ := h
  exact ⟨before, after ++ back, String.append_assoc⟩

theorem Occurs.append_left {part text : String} (h : Occurs part text) (front : String) :
    Occurs part (front ++ text) := by
  obtain ⟨before, after, rfl⟩ := h
  refine ⟨front ++ before, after, ?_⟩
  rw [String.append_assoc, String.append_assoc, String.append_assoc]

theorem occurs_self (part : String) : Occurs part part :=
  ⟨"", "", by rw [String.empty_append, String.append_empty]⟩

theorem Occurs.trans {part middle text : String} (h : Occurs part middle)
    (hmiddle : Occurs middle text) : Occurs part text := by
  obtain ⟨before, after, rfl⟩ := hmiddle
  exact (h.append_left before).append_right after

/-- What occurs in an entry of a listing occurs in the listing. -/
theorem occurs_intercalate (sep : String) {part entry : String} {entries : List String}
    (hentry : entry ∈ entries) (h : Occurs part entry) : Occurs part (sep.intercalate entries) := by
  induction entries with
  | nil => cases hentry
  | cons first entries ih =>
    cases entries with
    | nil =>
      rw [List.mem_singleton] at hentry
      rw [String.intercalate_singleton, ← hentry]
      exact h
    | cons second entries =>
      rw [String.intercalate_cons_cons]
      rcases List.mem_cons.mp hentry with rfl | hentry
      · exact (h.append_right sep).append_right _
      · exact (ih hentry).append_left _

/-! ## Calls in lines -/

/-- A call with something before and behind it. -/
theorem occurs_call (front visited back : String) :
    Occurs ("visit" ++ visited ++ "(") (front ++ ("visit" ++ (visited ++ ("(" ++ back)))) := by
  refine ⟨front, back, ?_⟩
  simp only [String.append_assoc]

/-- The text of a value holds the call that gives an argument. -/
theorem occurs_text {value : CaseValue} {argument : CaseArgument} (h : argument ∈ value.arguments) :
    Occurs ("visit" ++ argument.visited ++ "(") value.text := by
  have hcall : Occurs ("visit" ++ argument.visited ++ "(") argument.text := by
    have hopen : "(value.u." = "(" ++ "value.u." := by decide
    have htext := occurs_call "" argument.visited
      ("value.u." ++ (argument.label ++ ("_." ++ (argument.member ++ ")"))))
    rw [CaseArgument.text, hopen]
    simpa only [String.empty_append, String.append_assoc] using htext
  have hlisting : Occurs ("visit" ++ argument.visited ++ "(")
      (", ".intercalate (value.arguments.map CaseArgument.text)) :=
    occurs_intercalate _ (List.mem_map_of_mem h) hcall
  have hne : ¬ value.arguments.isEmpty = true := by
    rw [List.isEmpty_iff]
    exact List.ne_nil_of_mem h
  rw [CaseValue.text, if_neg hne]
  exact ((hlisting.append_left _).append_right _).append_left _

/-- The line that visits the head and the tail of a list holds both calls. -/
theorem occurs_list_line (category head list tail : String) :
    startsWith "return " ("return [visit" ++ category ++ "(value." ++ head ++ ")] + visit" ++
        list ++ "(value." ++ tail ++ ")") = true ∧
      Occurs ("visit" ++ category ++ "(") ("return [visit" ++ category ++ "(value." ++ head ++
        ")] + visit" ++ list ++ "(value." ++ tail ++ ")") ∧
      Occurs ("visit" ++ list ++ "(") ("return [visit" ++ category ++ "(value." ++ head ++
        ")] + visit" ++ list ++ "(value." ++ tail ++ ")") := by
  have hreturn : "return [visit" = "return " ++ ("[" ++ "visit") := by decide
  have hopen : "(value." = "(" ++ "value." := by decide
  have hplus : ")] + visit" = ")] + " ++ "visit" := by decide
  have hcall (visited : String) : "visit" ++ (visited ++ "(") = "visit" ++ visited ++ "(" :=
    String.append_assoc.symm
  rw [hreturn, hopen, hplus]
  simp only [String.append_assoc]
  rw [hcall, hcall]
  refine ⟨startsWith_append_self _ _, (occurs_call "[" category _).append_left _, ?_⟩
  have hsecond := occurs_call ")] + " list ("value." ++ (tail ++ ")"))
  exact ((((((hsecond.append_left head).append_left "value.").append_left "(").append_left
    category).append_left "visit").append_left "[").append_left "return "

/-- A call of a declaration stands in a line that returns something. -/
theorem exists_line_of_mem_calls {d : BridgeDeclaration} {visited : String} (h : visited ∈ d.calls)
    (module : String) :
    ∃ line ∈ d.lines module,
      startsWith "return " line = true ∧ Occurs ("visit" ++ visited ++ "(") line := by
  cases d with
  | imports | heading | visitToken | visitScalar => cases h
  | parseFile category =>
    rw [calls, List.mem_singleton] at h
    have hline : "return visit" ++ visited ++ "(cTree)" =
        "return " ++ ("visit" ++ (visited ++ ("(" ++ "cTree)"))) := by
      have hvisit : "return visit" = "return " ++ "visit" := by decide
      have hopen : "(cTree)" = "(" ++ "cTree)" := by decide
      rw [hvisit, hopen]
      simp only [String.append_assoc]
    refine ⟨"return visit" ++ visited ++ "(cTree)", ?_, ?_⟩
    · simp [BridgeDeclaration.lines, h]
    · rw [hline]
      exact ⟨startsWith_append_self _ _, occurs_call _ _ _⟩
  | visit name cases =>
    obtain ⟨value, hvalue, h⟩ := List.mem_flatMap.mp h
    obtain ⟨argument, hargument, rfl⟩ := List.mem_map.mp h
    -- The line depends on the place of the case, which gives it its number.
    obtain ⟨number, hnumber, rfl⟩ := List.getElem_of_mem hvalue
    refine ⟨"return " ++ (cases[number]).text, ?_, startsWith_append_self _ _,
      (occurs_text hargument).append_left _⟩
    have hcase : caseLines number cases[number] ∈ cases.mapIdx caseLines :=
      List.mem_mapIdx.mpr ⟨number, hnumber, rfl⟩
    have hline : "return " ++ (cases[number]).text ∈ (cases.mapIdx caseLines).flatten :=
      List.mem_flatten_of_mem hcase (List.mem_cons_of_mem _ List.mem_cons_self)
    exact List.mem_append_left _ (List.mem_append_right _ hline)
  | visitList category =>
    rw [calls, List.mem_cons, List.mem_singleton] at h
    obtain ⟨hstart, hfirst, hsecond⟩ := occurs_list_line category (lower category ++ "_")
      (Category.listName (Category.listOf category))
      (lower (Category.listName (Category.listOf category)) ++ "_")
    refine ⟨_, ?_, hstart, ?_⟩
    · simp [BridgeDeclaration.lines]
    · rcases h with rfl | rfl
      · exact hfirst
      · exact hsecond

/-! ## Types in lines -/

/-- A type that a declaration uses stands in one of its lines. -/
theorem exists_line_of_mem_uses {d : AbstractDeclaration} {type : String} (h : type ∈ d.uses) :
    ∃ line ∈ d.lines, Occurs type line := by
  cases d with
  | enumeration name boxed cases extraCases =>
    obtain ⟨enumCase, hcase, htype⟩ := List.mem_flatMap.mp h
    have hline : Occurs type enumCase.line := by
      have hne : ¬ enumCase.payload.isEmpty = true := by
        rw [List.isEmpty_iff]
        exact List.ne_nil_of_mem htype
      have hlisting := occurs_intercalate ", " htype (occurs_self type)
      rw [EnumCase.line, if_neg hne]
      exact ((hlisting.append_left _).append_right _).append_left _
    refine ⟨enumCase.line, ?_, hline⟩
    have hlines : enumCase.line ∈ AbstractDeclaration.caseLines cases extraCases := by
      rw [AbstractDeclaration.caseLines]
      split
      · exact List.mem_map_of_mem hcase
      · exact List.mem_append_left _ (List.mem_map_of_mem hcase)
    exact List.mem_append_left _ (List.mem_append_right _ hlines)
  | listNames categories =>
    obtain ⟨category, hcategory, rfl⟩ := List.mem_map.mp h
    refine ⟨AbstractDeclaration.listNameLine category, List.mem_map_of_mem hcategory, ?_⟩
    unfold AbstractDeclaration.listNameLine
    exact ((occurs_self _).append_left _).append_right _
  | _ => cases h

end SyntaxBridge.Swift
