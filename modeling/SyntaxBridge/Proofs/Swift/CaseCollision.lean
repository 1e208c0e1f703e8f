import SyntaxBridge.Grammar.Source
import SyntaxBridge.Proofs.Grammar.Partition
import SyntaxBridge.Proofs.Swift.CaseAgreement
import SyntaxBridge.Proofs.Swift.CaseName

/-!
# Cases that are told apart

An enumeration declares a case for each alternative of its category, and the function that visits
the category builds these cases. Two alternatives get the same case exactly if their labels collide,
and nothing else brings cases together (`casesToldApart_of_analyze`). Labels that are different may
collide, since a case leaves out the name of the category (`distinctLabels_share_case`).
-/

namespace SyntaxBridge.Swift

open Text

/-- The name that stands in a line behind its front, up to the bracket that opens its entries. -/
def nameAfter (front line : String) : String :=
  String.ofList ((line.toList.drop front.toList.length).takeWhile (· != '('))

/-- The names of the cases that the lines of an enumeration declare, in order. -/
def declaredCases (declaration : List String) : List String :=
  (declaration.filter (startsWith "case ")).map (nameAfter "case ")

/-- The names of the cases that the lines of a function return, in order. -/
def returnedCases (function : List String) : List String :=
  (function.filter (startsWith "return ")).map (nameAfter "return .")

/-- The cases of a category are told apart by their names as far as its labels are. -/
structure CasesToldApart (category : String) (rules : List Constructor) (extraCases : List String)
    (declaration function : List String) : Prop where
  /-- The enumeration declares the case of each alternative, in order, and nothing behind them but
  cases that were added by hand. -/
  declaredCases_eq : ∃ added,
    declaredCases declaration = rules.map (caseName category ·.label) ++ added ∧
    (extraCases = [] → added = [])
  /-- The function returns the case of each alternative, in order. -/
  returnedCases_eq : returnedCases function = rules.map (caseName category ·.label)
  /-- What it returns for a number is the case of the alternative with that number. -/
  returns : ∀ k rule, rules[k]? = some rule → ∃ returning,
    (function.filter (startsWith "return "))[k]? = some returning ∧
    [numberLine k, returning] <:+: function ∧
    nameAfter "return ." returning = caseName category rule.label
  /-- Two alternatives have the same case exactly if their labels collide. -/
  same_iff : ∀ a ∈ rules, ∀ b ∈ rules,
    caseName category a.label = caseName category b.label ↔ Collide category a.label b.label
  /-- So no case is declared twice exactly if no two labels collide. -/
  nodup_iff : (rules.map (caseName category ·.label)).Nodup ↔
    rules.Pairwise fun a b => ¬ Collide category a.label b.label

/-! ## Names in lines -/

/-- A name is read off a line up to the bracket behind it. -/
theorem nameAfter_withEntries (front : String) {name : String} (h : '(' ∉ name.toList)
    (entries : List String) : nameAfter front (front ++ withEntries name entries) = name := by
  have hkept : ∀ c ∈ name.toList, (c != '(') = true := by
    intro c hc
    rw [bne_iff_ne]
    rintro rfl
    exact h hc
  have hname (back : List Char) (hback : back.head? = none ∨ back.head? = some '(') :
      (name.toList ++ back).takeWhile (· != '(') = name.toList := by
    rw [List.takeWhile_append_of_pos hkept]
    cases back with
    | nil => exact List.append_nil _
    | cons c back =>
      obtain hnone | hsome := hback
      · cases hnone
      · cases hsome
        rw [List.takeWhile_cons_of_neg (by simp), List.append_nil]
  rw [nameAfter, String.toList_append, List.drop_left, withEntries, String.toList_append, hname]
  · exact String.ofList_toList
  · split_ifs
    · exact .inl rfl
    · rw [String.toList_append, String.toList_append]
      exact .inr rfl

/-- The bracket that opens entries is no character of a case. -/
theorem bracket_notMem_caseName (category : String) {label : String} (h : IsCaseLabel label) :
    '(' ∉ (caseName category label).toList :=
  (isNameText_caseName category h.isNameText).notMem (by decide)

/-- The line that declares the case of an alternative names it. -/
theorem nameAfter_declaring (category : String) {rule : Constructor} (h : IsCaseLabel rule.label) :
    nameAfter "case " (EnumCase.ofConstructor category rule).line =
      caseName category rule.label := by
  rw [EnumCase.line, String.append_assoc]
  exact nameAfter_withEntries _ (bracket_notMem_caseName _ h) _

/-- The line that returns the case of an alternative names it behind a dot. -/
theorem nameAfter_returning (category : String) {rule : Constructor} (h : IsCaseLabel rule.label) :
    nameAfter "return ." ("return " ++ (CaseValue.ofConstructor category rule).text) =
      caseName category rule.label := by
  have hline : "return " ++ (CaseValue.ofConstructor category rule).text =
      "return ." ++ withEntries (caseName category rule.label)
        ((CaseValue.ofConstructor category rule).arguments.map CaseArgument.text) := by
    rw [CaseValue.text, withEntries, List.isEmpty_map, CaseValue.ofConstructor]
    simp only [String.append_assoc]
    rfl
  rw [hline]
  exact nameAfter_withEntries _ (bracket_notMem_caseName _ h) _

/-! ## The lines of the two declarations -/

/-- An enumeration declares its cases and then those that were added by hand. -/
theorem filter_case_lines_enumeration (name : String) (boxed : Bool) (cases : List EnumCase)
    (extraCases : List String) :
    ∃ added, (AbstractDeclaration.enumeration name boxed cases extraCases).lines.filter
        (startsWith "case ") = cases.map EnumCase.line ++ added ∧
      (extraCases = [] → added = []) := by
  have hhead : startsWith "case "
      ("public " ++ (if boxed then "indirect " else "") ++ "enum " ++ name ++ " \x7b") = false := by
    simp only [String.append_assoc]
    exact startsWith_append_eq_false _ (by decide) (by decide)
  have hcases : (cases.map EnumCase.line).filter (startsWith "case ") =
      cases.map EnumCase.line := by
    refine List.filter_eq_self.mpr fun line hline => ?_
    obtain ⟨enumCase, _, rfl⟩ := List.mem_map.mp hline
    rw [EnumCase.line, String.append_assoc]
    exact startsWith_append_self _ _
  -- Between the braces stand the cases, and behind them the additional ones, if there are any.
  obtain ⟨rest, hrest, hnone⟩ : ∃ rest,
      AbstractDeclaration.caseLines cases extraCases = cases.map EnumCase.line ++ rest ∧
        (extraCases = [] → rest = []) := by
    rw [AbstractDeclaration.caseLines]
    split_ifs with hempty
    · exact ⟨[], (List.append_nil _).symm, fun _ => rfl⟩
    · exact ⟨_, rfl, fun hnil => absurd (by rw [hnil]; rfl) hempty⟩
  refine ⟨rest.filter (startsWith "case "), ?_, fun hnil => by rw [hnone hnil]; rfl⟩
  have hbrace : ["\x7d"].filter (startsWith "case ") = [] := by decide
  rw [AbstractDeclaration.lines, hrest, List.filter_append, List.filter_append, List.filter_append,
    hcases, hbrace, List.filter_cons_of_neg (by simp [hhead]), List.filter_nil, List.nil_append,
    List.append_nil]

/-- A function that chooses returns its cases, in order. -/
theorem filter_return_lines_visit (module name : String) (cases : List CaseValue) :
    ((BridgeDeclaration.visit name cases).lines module).filter (startsWith "return ") =
      cases.map fun value => "return " ++ value.text := by
  have hother {front : String} (back : String) (hfront : startsWith "return " front = false ∧
      startsWith front "return " = false) : ¬ startsWith "return " (front ++ back) = true := by
    rw [startsWith_append_eq_false back hfront.1 hfront.2]
    exact Bool.false_ne_true
  have hbefore : [BridgeDeclaration.visitHead name ("_ pValue: " ++
      BridgeDeclaration.nativeType module name) name, "let value = pValue.pointee",
      "switch value.kind \x7b"].filter (startsWith "return ") = [] := by
    rw [BridgeDeclaration.visitHead_eq_append, List.filter_cons_of_neg (hother _ (by decide))]
    decide
  have hafter : ["default:", "print(\"Error: bad `kind` field when bridging `" ++ name ++
      "` to Swift!\")", "exit(1)", "\x7d", "\x7d"].filter (startsWith "return ") = [] := by
    rw [List.filter_cons_of_neg (by decide), String.append_assoc,
      List.filter_cons_of_neg (hother _ (by decide))]
    decide
  -- Of the two lines of a case, the one with its number returns nothing.
  have hcase (number : Nat) (value : CaseValue) :
      (BridgeDeclaration.caseLines number value).filter (startsWith "return ") =
        ["return " ++ value.text] := by
    rw [BridgeDeclaration.caseLines, String.append_assoc,
      List.filter_cons_of_neg (hother _ (by decide)),
      List.filter_cons_of_pos (startsWith_append_self _ _), List.filter_nil]
  have hcases : (cases.mapIdx BridgeDeclaration.caseLines).flatten.filter (startsWith "return ") =
      cases.map fun value => "return " ++ value.text := by
    have heach : (cases.mapIdx BridgeDeclaration.caseLines).map
        (List.filter (startsWith "return ")) =
          cases.map fun value => ["return " ++ value.text] := by
      refine List.ext_getElem (by simp) fun number _ _ => ?_
      simp [hcase]
    rw [List.filter_flatten, heach, ← List.flatMap_def, ← List.map_eq_flatMap]
  rw [BridgeDeclaration.lines, List.filter_append, List.filter_append, hbefore, hcases, hafter,
    List.nil_append, List.append_nil]

/-! ## Alternatives of a category -/

variable {rules : List Rule} {extra : ExtraCases} {policy : BoxPolicy} {grammar : Grammar}

/-- The lines of the two declarations of a category tell its cases apart as far as its labels are. -/
theorem casesToldApart_lines {group : Group} {alternatives : List Constructor}
    (hmembers : group.members = .alternatives alternatives)
    (hlabels : ∀ rule ∈ alternatives, IsCaseLabel rule.label) (module : String) :
    CasesToldApart group.name alternatives group.extraCases
      (AbstractDeclaration.ofGroup group).lines ((visitGroup group).lines module) := by
  have hdeclaration : AbstractDeclaration.ofGroup group = .enumeration group.name group.boxed
      (alternatives.map (EnumCase.ofConstructor group.name)) group.extraCases := by
    rw [AbstractDeclaration.ofGroup, hmembers]
  have hfunction : visitGroup group =
      .visit group.name (alternatives.map (CaseValue.ofConstructor group.name)) := by
    rw [visitGroup, hmembers, Members.constructors]
  have hdeclared : ∀ rule ∈ alternatives,
      nameAfter "case " (EnumCase.ofConstructor group.name rule).line =
        caseName group.name rule.label :=
    fun rule hrule => nameAfter_declaring _ (hlabels rule hrule)
  have hreturned : ∀ rule ∈ alternatives,
      nameAfter "return ." ("return " ++ (CaseValue.ofConstructor group.name rule).text) =
        caseName group.name rule.label :=
    fun rule hrule => nameAfter_returning _ (hlabels rule hrule)
  have hsame : ∀ a ∈ alternatives, ∀ b ∈ alternatives,
      caseName group.name a.label = caseName group.name b.label ↔
        Collide group.name a.label b.label :=
    fun a ha b hb => caseName_eq_iff (hlabels a ha) (hlabels b hb)
  rw [hdeclaration, hfunction]
  refine ⟨?_, ?_, fun k rule hrule => ?_, hsame, ?_⟩
  · obtain ⟨added, hlines, hnone⟩ := filter_case_lines_enumeration group.name group.boxed
      (alternatives.map (EnumCase.ofConstructor group.name)) group.extraCases
    refine ⟨added.map (nameAfter "case "), ?_, fun hnil => by rw [hnone hnil]; rfl⟩
    rw [declaredCases, hlines, List.map_append, List.map_map, List.map_map]
    exact congrArg (· ++ _) (List.map_congr_left hdeclared)
  · rw [returnedCases, filter_return_lines_visit, List.map_map, List.map_map]
    exact List.map_congr_left hreturned
  -- The lines that return are numbered like the alternatives.
  · have hvalue : (alternatives.map (CaseValue.ofConstructor group.name))[k]? =
        some (CaseValue.ofConstructor group.name rule) := by
      rw [List.getElem?_map, hrule]
      rfl
    refine ⟨_, ?_, infix_lines_visit module group.name hvalue,
      hreturned rule (List.mem_of_getElem? hrule)⟩
    rw [filter_return_lines_visit, List.getElem?_map, hvalue]
    rfl
  · rw [List.Nodup, List.pairwise_map]
    exact List.Pairwise.iff_of_mem fun {a b} ha hb => not_congr (hsame a ha b hb)

/-- The rules of a category with alternatives are rules of the grammar. -/
theorem mem_of_mem_alternatives (h : analyze rules extra policy = .ok grammar) {group : Group}
    (hgroup : group ∈ grammar.groups) {alternatives : List Constructor}
    (hrules : group.rules = alternatives.map .constructor) :
    ∀ rule ∈ alternatives, .constructor rule ∈ rules := by
  intro rule hrule
  have hmem : .constructor rule ∈ group.rules := by
    rw [hrules]
    exact List.mem_map_of_mem hrule
  rw [(isPartition_of_analyze h).rules_eq group hgroup] at hmem
  exact List.mem_of_mem_filter hmem

/-- In the sources of an analysed grammar, the cases of every category with alternatives are told
apart as far as its labels are, if these are identifiers that start with a letter. -/
theorem casesToldApart_of_analyze (h : analyze rules extra policy = .ok grammar)
    (hlabels : ∀ rule, .constructor rule ∈ rules → IsCaseLabel rule.label) (module : String)
    {group : Group} (hgroup : group ∈ grammar.groups) (htoken : group.isToken = false) :
    ∃ alternatives declaration function, group.rules = alternatives.map .constructor ∧
      ((abstractSyntax grammar).filter (·.enumerates group.name)).map
        AbstractDeclaration.lines = [declaration] ∧
      HoldsBlock (abstractSyntaxSource grammar) declaration ∧
      ((bridge grammar).filter (·.chooses group.name)).map
        (BridgeDeclaration.lines module) = [function] ∧
      HoldsBlock (bridgeSource grammar module) function ∧
      CasesToldApart group.name alternatives group.extraCases declaration function := by
  obtain ⟨alternatives, hmembers⟩ := Group.exists_alternatives htoken
  have hrules : group.rules = alternatives.map .constructor := by
    rw [Group.rules, hmembers, Members.rules]
  have henumeration := filter_enumerates_abstractSyntax h hgroup htoken
  have hchoice := filter_chooses_bridge h hgroup htoken
  -- Both declarations end in a closing brace, so they stand in the sources as they are.
  have hdeclared : HoldsBlock (abstractSyntaxSource grammar)
      (AbstractDeclaration.ofGroup group).lines := by
    refine holdsBlock_of_mem (List.mem_map_of_mem ?_) ?_
    · exact List.mem_of_mem_filter (henumeration ▸ List.mem_singleton_self _)
    · rw [AbstractDeclaration.ofGroup, hmembers]
      exact List.getLast?_concat
  have hvisited : HoldsBlock (bridgeSource grammar module) ((visitGroup group).lines module) := by
    refine holdsBlock_of_mem (List.mem_map_of_mem ?_) ?_
    · exact List.mem_of_mem_filter (hchoice ▸ List.mem_singleton_self _)
    · rw [visitGroup, BridgeDeclaration.lines, List.getLast?_append]
      rfl
  refine ⟨alternatives, _, _, hrules, ?_, hdeclared, ?_, hvisited,
    casesToldApart_lines hmembers ?_ module⟩
  · rw [henumeration, List.map_singleton]
  · rw [hchoice, List.map_singleton]
  · exact fun rule hrule => hlabels rule (mem_of_mem_alternatives h hgroup hrules rule hrule)

/-- Of the labels `EAdd`, `ExpAdd` and `Exp_add`, the last two give one case. -/
theorem casesToldApart_expression :
    ∃ rules grammar, analyze rules [] .all = .ok grammar ∧
      rules = [.constructor ⟨"EAdd", "Exp", ["Exp"], .unknown⟩,
        .constructor ⟨"ExpAdd", "Exp", ["Integer"], .unknown⟩,
        .constructor ⟨"Exp_add", "Exp", ["String"], .unknown⟩] ∧
      (∀ rule, .constructor rule ∈ rules → IsCaseLabel rule.label) ∧
      (∃ group ∈ grammar.groups, group.isToken = false ∧
        ∃ alternatives declaration function, group.rules = alternatives.map .constructor ∧
          ((abstractSyntax grammar).filter (·.enumerates group.name)).map
            AbstractDeclaration.lines = [declaration] ∧
          HoldsBlock (abstractSyntaxSource grammar) declaration ∧
          ((bridge grammar).filter (·.chooses group.name)).map
            (BridgeDeclaration.lines "CGrammar") = [function] ∧
          HoldsBlock (bridgeSource grammar "CGrammar") function ∧
          CasesToldApart group.name alternatives group.extraCases declaration function) := by
  have h : analyze
      [.constructor ⟨"EAdd", "Exp", ["Exp"], .unknown⟩,
        .constructor ⟨"ExpAdd", "Exp", ["Integer"], .unknown⟩,
        .constructor ⟨"Exp_add", "Exp", ["String"], .unknown⟩] [] .all = .ok {
          rules := [.constructor ⟨"EAdd", "Exp", ["Exp"], .unknown⟩,
            .constructor ⟨"ExpAdd", "Exp", ["Integer"], .unknown⟩,
            .constructor ⟨"Exp_add", "Exp", ["String"], .unknown⟩]
          groups := [⟨"Exp", .alternatives [⟨"EAdd", "Exp", ["Exp"], .unknown⟩,
            ⟨"ExpAdd", "Exp", ["Integer"], .unknown⟩,
            ⟨"Exp_add", "Exp", ["String"], .unknown⟩], true, []⟩]
          listTypes := []
          entrypoints := ["Exp"] } := by decide +kernel
  have hlabels : ∀ rule, .constructor rule ∈
      [Rule.constructor ⟨"EAdd", "Exp", ["Exp"], .unknown⟩,
        .constructor ⟨"ExpAdd", "Exp", ["Integer"], .unknown⟩,
        .constructor ⟨"Exp_add", "Exp", ["String"], .unknown⟩] → IsCaseLabel rule.label := by
    simp only [List.mem_cons, Rule.constructor.injEq, List.not_mem_nil, or_false]
    rintro _ (rfl | rfl | rfl)
    · exact ⟨⟨'E', "Add".toList, rfl, rfl, by decide⟩, 'E', "Add".toList, rfl, rfl⟩
    · exact ⟨⟨'E', "xpAdd".toList, rfl, rfl, by decide⟩, 'E', "xpAdd".toList, rfl, rfl⟩
    · exact ⟨⟨'E', "xp_add".toList, rfl, rfl, by decide⟩, 'E', "xp_add".toList, rfl, rfl⟩
  exact ⟨_, _, h, rfl, hlabels, _, List.mem_singleton_self _, rfl,
    casesToldApart_of_analyze h hlabels "CGrammar" (List.mem_singleton_self _) rfl⟩

/-- Labels that are different identifiers may share a case, which the enumeration then declares
twice. -/
theorem distinctLabels_share_case :
    ∃ rules grammar,
      parseGrammar "ExpAdd. Exp ::= Exp ;\nAdd. Exp ::= Integer ;" = .ok rules ∧
      analyze rules [] .all = .ok grammar ∧
      (∀ rule, .constructor rule ∈ rules → IsCaseLabel rule.label) ∧
      (∀ group ∈ grammar.groups, (group.members.constructors.map (·.label)).Nodup) ∧
      ∃ group ∈ grammar.groups, group.isToken = false ∧
        ¬ (group.members.constructors.map (caseName group.name ·.label)).Nodup ∧
        ¬ (declaredCases (AbstractDeclaration.ofGroup group).lines).Nodup ∧
        ¬ (returnedCases ((visitGroup group).lines "CGrammar")).Nodup := by
  refine ⟨[.constructor ⟨"ExpAdd", "Exp", ["Exp"], .number 1⟩,
    .constructor ⟨"Add", "Exp", ["Integer"], .number 2⟩], {
      rules := [.constructor ⟨"ExpAdd", "Exp", ["Exp"], .number 1⟩,
        .constructor ⟨"Add", "Exp", ["Integer"], .number 2⟩]
      groups := [⟨"Exp", .alternatives [⟨"ExpAdd", "Exp", ["Exp"], .number 1⟩,
        ⟨"Add", "Exp", ["Integer"], .number 2⟩], true, []⟩]
      listTypes := []
      entrypoints := ["Exp"] }, by decide +kernel, by decide +kernel, ?_, by decide, ?_⟩
  · simp only [List.mem_cons, Rule.constructor.injEq, List.not_mem_nil, or_false]
    rintro _ (rfl | rfl)
    · exact ⟨⟨'E', "xpAdd".toList, rfl, rfl, by decide⟩, 'E', "xpAdd".toList, rfl, rfl⟩
    · exact ⟨⟨'A', "dd".toList, rfl, rfl, by decide⟩, 'A', "dd".toList, rfl, rfl⟩
  · exact ⟨_, List.mem_singleton_self _, rfl, by decide +kernel, by decide +kernel,
      by decide +kernel⟩

end SyntaxBridge.Swift
