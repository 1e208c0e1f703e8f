import SyntaxBridge.Proofs.Swift.AbstractSyntax
import SyntaxBridge.Proofs.Swift.Block
import SyntaxBridge.Proofs.Swift.Bridge
import SyntaxBridge.Proofs.Text.Start

/-!
# The bridge and the abstract syntax agree on cases

The function that visits a category returns, for the number of an alternative, the case that the
enumeration of the category declares for it, with an argument for each part (`CasesAgree`). A line
is here what is written as one; the lines of a declaration stand in the source as a block.

* `casesAgree_lines`: the lines of the two declarations of a category agree.
* `sourcesAgree_of_analyze`: so do the two sources of an analysed grammar, and the bridge takes no
  notice of cases added by hand.
-/

namespace SyntaxBridge.Swift

open Text

/-- A name with entries in brackets, if there are any. -/
def withEntries (name : String) (entries : List String) : String :=
  name ++ if entries.isEmpty then "" else "(" ++ ", ".intercalate entries ++ ")"

/-- The line of a number in a function that chooses among cases. -/
def numberLine (number : Nat) : String :=
  "case " ++ toString number ++ ":"

/-- Whether a line of a function that chooses is the start of a choice. -/
def startsChoice (line : String) : Bool :=
  startsWith "case " line || startsWith "default:" line

/-- The line that declares a case and the line that returns it agree on an alternative: they give
the case the same name and each part an entry, which is the type of the part in one and a call of
the function that visits that type in the other. -/
def AgreeOnCase (rule : Constructor) (declaring returning : String) : Prop :=
  ∃ name calls,
    declaring = "case " ++ withEntries name (rule.construction.map typeName) ∧
    returning = "return ." ++ withEntries name calls ∧
    List.Forall₂ (fun part call => ∃ member, call = "visit" ++ Category.listName part ++
      "(value.u." ++ lower rule.label ++ "_." ++ member ++ ")") rule.construction calls

/-- The lines of the enumeration of a category and those of the function that visits it agree. -/
structure CasesAgree (name : String) (rules : List Constructor)
    (declaration function : List String) : Prop where
  /-- One is the enumeration of the category. -/
  declaration_head : ∃ modifier,
    declaration.head? = some ("public " ++ modifier ++ "enum " ++ name ++ " \x7b")
  /-- The other is the function that visits it. -/
  function_head : ∃ signature,
    function.head? = some ("private func visit" ++ name ++ "(" ++ signature)
  /-- The function numbers the alternatives in order, and the default comes last. -/
  choices_eq : function.filter startsChoice =
    (List.range rules.length).map numberLine ++ ["default:"]
  /-- What the function returns for a number agrees with the case of that number. -/
  agree : ∀ k rule, rules[k]? = some rule → ∃ declaring returning,
    (declaration.filter (startsWith "case "))[k]? = some declaring ∧
      [numberLine k, returning] <:+: function ∧ AgreeOnCase rule declaring returning

/-! ## One alternative -/

/-- The case of an alternative agrees with the value that the alternative is turned into. -/
theorem agreeOnCase_ofConstructor (type : String) (rule : Constructor) :
    AgreeOnCase rule (EnumCase.ofConstructor type rule).line
      ("return " ++ (CaseValue.ofConstructor type rule).text) := by
  refine ⟨caseName type rule.label,
    (CaseValue.ofConstructor type rule).arguments.map CaseArgument.text, ?_, ?_, ?_⟩
  · rw [EnumCase.line, EnumCase.ofConstructor, withEntries, String.append_assoc]
  · rw [CaseValue.text, withEntries, List.isEmpty_map, CaseValue.ofConstructor]
    simp only [String.append_assoc]
    rfl
  · rw [List.forall₂_iff_get]
    refine ⟨by simp [CaseValue.ofConstructor, memberNames], fun i hpart hcall => ?_⟩
    simp [CaseValue.ofConstructor, CaseArgument.text, String.append_assoc]

/-! ## The lines of an enumeration -/

/-- Cases that are added by hand come after the others. -/
theorem exists_caseLines_eq_append (cases : List EnumCase) (extraCases : List String) :
    ∃ rest, AbstractDeclaration.caseLines cases extraCases = cases.map EnumCase.line ++ rest := by
  rw [AbstractDeclaration.caseLines]
  split
  · exact ⟨[], (List.append_nil _).symm⟩
  · exact ⟨_, rfl⟩

/-- The cases of an enumeration begin with those of its alternatives. -/
theorem exists_filter_lines_enumeration (name : String) (boxed : Bool) (cases : List EnumCase)
    (extraCases : List String) :
    ∃ rest, (AbstractDeclaration.enumeration name boxed cases extraCases).lines.filter
      (startsWith "case ") = cases.map EnumCase.line ++ rest := by
  obtain ⟨rest, hrest⟩ := exists_caseLines_eq_append cases extraCases
  have hhead : startsWith "case "
      ("public " ++ (if boxed then "indirect " else "") ++ "enum " ++ name ++ " \x7b") = false := by
    simp only [String.append_assoc]
    exact startsWith_append_eq_false _ (by decide) (by decide)
  have hcases : (cases.map EnumCase.line).filter (startsWith "case ") =
      cases.map EnumCase.line := by
    refine List.filter_eq_self.mpr fun line hline => ?_
    obtain ⟨enumCase, _, rfl⟩ := List.mem_map.mp hline
    rw [EnumCase.line, String.append_assoc]
    exact startsWith_append_self _ _
  refine ⟨(rest ++ ["\x7d"]).filter (startsWith "case "), ?_⟩
  rw [AbstractDeclaration.lines, hrest, List.append_assoc, List.append_assoc, List.filter_append,
    List.filter_append, hcases, List.filter_cons_of_neg (by simp [hhead]), List.filter_nil,
    List.nil_append]

/-! ## The lines of a function -/

/-- A line does not start a choice if its front rules that out. -/
theorem startsChoice_append_eq_false {front : String} (back : String)
    (hcase : startsWith "case " front = false ∧ startsWith front "case " = false)
    (hdefault : startsWith "default:" front = false ∧ startsWith front "default:" = false) :
    startsChoice (front ++ back) = false := by
  rw [startsChoice, startsWith_append_eq_false _ hcase.1 hcase.2,
    startsWith_append_eq_false _ hdefault.1 hdefault.2, Bool.or_false]

/-- Of the two lines for a case, the first starts a choice. -/
theorem filter_startsChoice_caseLines (number : Nat) (value : CaseValue) :
    (BridgeDeclaration.caseLines number value).filter startsChoice = [numberLine number] := by
  have hnumber : startsChoice ("case " ++ toString number ++ ":") = true := by
    rw [startsChoice, String.append_assoc, startsWith_append_self, Bool.true_or]
  have hreturn : startsChoice ("return " ++ value.text) = false :=
    startsChoice_append_eq_false _ (by decide) (by decide)
  rw [BridgeDeclaration.caseLines, List.filter_cons_of_pos hnumber,
    List.filter_cons_of_neg (by simp [hreturn]), List.filter_nil, numberLine]

/-- The numbers of a function that chooses count its cases. -/
theorem filter_startsChoice_lines_visit (module name : String) (cases : List CaseValue) :
    ((BridgeDeclaration.visit name cases).lines module).filter startsChoice =
      (List.range cases.length).map numberLine ++ ["default:"] := by
  have hhead (argument result : String) :
      startsChoice (BridgeDeclaration.visitHead name argument result) = false := by
    rw [BridgeDeclaration.visitHead_eq_append]
    exact startsChoice_append_eq_false _ (by decide) (by decide)
  have herror : startsChoice ("print(\"Error: bad `kind` field when bridging `" ++ name ++
      "` to Swift!\")") = false := by
    rw [String.append_assoc]
    exact startsChoice_append_eq_false _ (by decide) (by decide)
  -- Each case gives a line with its number and a line that returns, and only the former counts.
  have hcases : (cases.mapIdx BridgeDeclaration.caseLines).flatten.filter startsChoice =
      (List.range cases.length).map numberLine := by
    have heach : (cases.mapIdx BridgeDeclaration.caseLines).map (List.filter startsChoice) =
        (List.range cases.length).map fun number => [numberLine number] := by
      refine List.ext_getElem (by simp) fun number _ _ => ?_
      simp [filter_startsChoice_caseLines]
    rw [List.filter_flatten, heach, ← List.flatMap_def, ← List.map_eq_flatMap]
  rw [BridgeDeclaration.lines, List.filter_append, List.filter_append, hcases]
  have hbefore : [BridgeDeclaration.visitHead name ("_ pValue: " ++
      BridgeDeclaration.nativeType module name) name, "let value = pValue.pointee",
      "switch value.kind \x7b"].filter startsChoice = [] := by
    rw [List.filter_cons_of_neg (by simp [hhead]), List.filter_eq_nil_iff.mpr (by decide)]
  have hafter : ["default:", "print(\"Error: bad `kind` field when bridging `" ++ name ++
      "` to Swift!\")", "exit(1)", "\x7d", "\x7d"].filter startsChoice = ["default:"] := by
    rw [List.filter_cons_of_pos (by decide), List.filter_cons_of_neg (by simp [herror]),
      List.filter_eq_nil_iff.mpr (by decide)]
  rw [hbefore, hafter, List.nil_append]

/-- A function that chooses returns a case on the line after its number. -/
theorem infix_lines_visit (module name : String) {cases : List CaseValue} {k : Nat}
    {value : CaseValue} (h : cases[k]? = some value) :
    [numberLine k, "return " ++ value.text] <:+:
      (BridgeDeclaration.visit name cases).lines module := by
  have hmem : BridgeDeclaration.caseLines k value ∈ cases.mapIdx BridgeDeclaration.caseLines := by
    obtain ⟨hk, rfl⟩ := List.getElem?_eq_some_iff.mp h
    exact List.mem_mapIdx.mpr ⟨k, hk, rfl⟩
  have hinfix := List.infix_of_mem_flatten hmem
  exact hinfix.trans (List.infix_append _ _ _)

/-! ## The two declarations of a category -/

variable {rules : List Rule} {extra : ExtraCases} {policy : BoxPolicy} {grammar : Grammar}

/-- The lines of the two declarations of a category with alternatives agree. -/
theorem casesAgree_lines {group : Group} {alternatives : List Constructor}
    (hmembers : group.members = .alternatives alternatives) (module : String) :
    CasesAgree group.name alternatives (AbstractDeclaration.ofGroup group).lines
      ((visitGroup group).lines module) := by
  have hdeclaration : AbstractDeclaration.ofGroup group = .enumeration group.name group.boxed
      (alternatives.map (EnumCase.ofConstructor group.name)) group.extraCases := by
    rw [AbstractDeclaration.ofGroup, hmembers]
  have hfunction : visitGroup group =
      .visit group.name (alternatives.map (CaseValue.ofConstructor group.name)) := by
    rw [visitGroup, hmembers, Members.constructors]
  rw [hdeclaration, hfunction]
  refine ⟨⟨_, rfl⟩, ?_, ?_, fun k rule hrule => ?_⟩
  · have hhead (argument result : String) :
        BridgeDeclaration.visitHead group.name argument result =
          "private func visit" ++ group.name ++ "(" ++
            (argument ++ (") -> " ++ (result ++ " \x7b"))) := by
      rw [BridgeDeclaration.visitHead_eq_append]
      simp only [String.append_assoc]
    exact ⟨_, congrArg some (hhead _ _)⟩
  · rw [filter_startsChoice_lines_visit, List.length_map]
  · obtain ⟨rest, hcases⟩ := exists_filter_lines_enumeration group.name group.boxed
      (alternatives.map (EnumCase.ofConstructor group.name)) group.extraCases
    -- The cases of the alternatives come first in the enumeration, so the numbers of lines agree.
    refine ⟨_, _, ?_, infix_lines_visit module group.name ?_,
      agreeOnCase_ofConstructor group.name rule⟩
    · have hk : k < alternatives.length := (List.getElem?_eq_some_iff.mp hrule).1
      rw [hcases, List.getElem?_append_left (by simpa using hk), List.getElem?_map,
        List.getElem?_map, hrule]
      rfl
    · rw [List.getElem?_map, hrule]
      rfl

/-- The two sources of an analysed grammar agree. -/
structure SourcesAgree (rules : List Rule) (grammar : Grammar) (module : String) : Prop where
  /-- A category with alternatives has one enumeration and one function that chooses, each a block
  of its source, and these agree on the cases of the alternatives. -/
  cases_agree : ∀ group ∈ grammar.groups, group.isToken = false →
    ∃ alternatives declaration function, group.rules = alternatives.map .constructor ∧
      ((abstractSyntax grammar).filter (·.enumerates group.name)).map
        AbstractDeclaration.lines = [declaration] ∧
      HoldsBlock (abstractSyntaxSource grammar) declaration ∧
      ((bridge grammar).filter (·.chooses group.name)).map
        (BridgeDeclaration.lines module) = [function] ∧
      HoldsBlock (bridgeSource grammar module) function ∧
      CasesAgree group.name alternatives declaration function
  /-- The bridge is the same for all extra cases and policies that are accepted. -/
  bridge_eq : ∀ extra policy grammar', analyze rules extra policy = .ok grammar' →
    bridgeSource? grammar' module = bridgeSource? grammar module

/-- The two sources of an analysed grammar agree on the cases of every category with alternatives,
and cases that are added by hand do not reach the bridge. -/
theorem sourcesAgree_of_analyze (h : analyze rules extra policy = .ok grammar) (module : String) :
    SourcesAgree rules grammar module := by
  refine ⟨fun group hgroup htoken => ?_, fun extra' policy' grammar' h' => ?_⟩
  · obtain ⟨alternatives, hmembers⟩ := Group.exists_alternatives htoken
    have henumeration := filter_enumerates_abstractSyntax h hgroup htoken
    have hchoice := filter_chooses_bridge h hgroup htoken
    refine ⟨alternatives, (AbstractDeclaration.ofGroup group).lines,
      (visitGroup group).lines module, ?_, ?_, ?_, ?_, ?_, casesAgree_lines hmembers module⟩
    · rw [Group.rules, hmembers, Members.rules]
    · rw [henumeration, List.map_singleton]
    · refine holdsBlock_of_mem (List.mem_map_of_mem ?_) ?_
      · exact List.mem_of_mem_filter (henumeration ▸ List.mem_singleton_self _)
      · rw [AbstractDeclaration.ofGroup, hmembers]
        exact List.getLast?_concat
    · rw [hchoice, List.map_singleton]
    · refine holdsBlock_of_mem (List.mem_map_of_mem ?_) ?_
      · exact List.mem_of_mem_filter (hchoice ▸ List.mem_singleton_self _)
      · rw [visitGroup, BridgeDeclaration.lines, List.getLast?_append]
        rfl
  · exact bridgeSource?_eq_of_analyze h h' module

/-- The sources of a category with two alternatives and a case added by hand agree. -/
theorem sourcesAgree_expression :
    ∃ grammar, analyze
        [.constructor ⟨"EInt", "Exp", ["Integer"], .unknown⟩,
          .constructor ⟨"ExpAdd", "Exp", ["Exp", "Exp"], .unknown⟩]
        [("Exp", ["hole"])] .all = .ok grammar ∧
      (∃ group ∈ grammar.groups, group.isToken = false ∧ group.extraCases = ["hole"]) ∧
      SourcesAgree grammar.rules grammar "CGrammar" := by
  have h : analyze
      [.constructor ⟨"EInt", "Exp", ["Integer"], .unknown⟩,
        .constructor ⟨"ExpAdd", "Exp", ["Exp", "Exp"], .unknown⟩]
      [("Exp", ["hole"])] .all = .ok {
        rules := [.constructor ⟨"EInt", "Exp", ["Integer"], .unknown⟩,
          .constructor ⟨"ExpAdd", "Exp", ["Exp", "Exp"], .unknown⟩]
        groups := [⟨"Exp", .alternatives [⟨"EInt", "Exp", ["Integer"], .unknown⟩,
          ⟨"ExpAdd", "Exp", ["Exp", "Exp"], .unknown⟩], true, ["hole"]⟩]
        listTypes := []
        entrypoints := ["Exp"] } := by decide +kernel
  exact ⟨_, h, ⟨_, List.mem_singleton_self _, rfl, rfl⟩, sourcesAgree_of_analyze h "CGrammar"⟩

end SyntaxBridge.Swift
