import Mathlib
import SyntaxBridge.Grammar.Source
import SyntaxBridge.Proofs.Swift.Closure

/-!
# Names of lists of lists

A list category is read at any depth of brackets, but the names that are generated for it are made
by taking off one pair. So the names in the generated sources are identifiers, and the lists whose
types are used are given names, exactly if no list category is declared and no list of lists is
referred to (`namesStayIdentifiers_iff`).

`AbstractDeclaration.names` and `BridgeDeclaration.names` collect the names that a declaration makes
for categories, next to `AbstractDeclaration.uses` and `BridgeDeclaration.calls`.
-/

namespace SyntaxBridge.Swift

variable {rules : List Rule} {extra : ExtraCases} {policy : BoxPolicy} {grammar : Grammar}
  {category module name : String}

/-- The names of the types that a declaration declares or extends. -/
def AbstractDeclaration.names : AbstractDeclaration → List String
  | enumeration name .. | word name | printable name _ | description name | equality name
  | hashing name => [name]
  | listNames categories =>
    categories.map fun category => Category.listName (Category.listOf category)
  | _ => []

/-- The names that a declaration defines functions under, and those of the types and of the parser
functions that it is about. -/
def BridgeDeclaration.names : BridgeDeclaration → List String
  | parseFile category => ["p" ++ Category.listName category, typeName category]
  | visit name _ | visitToken name => ["visit" ++ name, name]
  | visitList category =>
    ["visit" ++ Category.listName (Category.listOf category),
      Category.listName (Category.listOf category), typeName category]
  | visitScalar conversion => ["visit" ++ conversion.category, conversion.category]
  | _ => []

/-- The type of a category is used: for a part of an alternative, for the elements of a list, or
for the result of parsing a file. -/
inductive UsesType (grammar : Grammar) : String → Prop
  | part {group : Group} {alternative : Constructor} {category : String} :
      group ∈ grammar.groups → alternative ∈ group.members.constructors →
      category ∈ alternative.construction → UsesType grammar category
  | element {category : String} : category ∈ grammar.listTypes → UsesType grammar category
  | result {category : String} : category ∈ grammar.entrypoints → UsesType grammar category

/-- The names that are generated for categories are identifiers, and the lists whose types are used
have names. -/
structure NamesStayIdentifiers (grammar : Grammar) (module : String) : Prop where
  /-- A name that the abstract syntax declares or uses stands in its lines and is an identifier. -/
  abstractSyntax : ∀ d ∈ abstractSyntax grammar, ∀ name ∈ d.names ++ d.uses,
    (∃ line ∈ d.lines, Occurs name line) ∧ IsAsciiIdentifier name
  /-- So does, and so is, a name that the bridge defines, mentions or calls. -/
  bridge : ∀ d ∈ bridge grammar, ∀ name ∈ d.names ++ d.calls.map ("visit" ++ ·),
    (∃ line ∈ d.lines module, Occurs name line) ∧ IsAsciiIdentifier name
  /-- If the type of a list category is used, the abstract syntax declares it. -/
  listNames : ∀ category, UsesType grammar category → Category.isList category = true →
    "public typealias " ++ typeName category ++ " = [" ++ typeName (Category.element category) ++
      "]" ∈ abstractLines grammar

/-- No list category is declared, and no list of lists is referred to: all names are identifiers, or
an identifier in one pair of brackets where a category is referred to. -/
structure HasFlatNames (grammar : Grammar) : Prop where
  /-- Declared categories are named by identifiers. -/
  names : ∀ group ∈ grammar.groups, IsAsciiIdentifier group.name
  /-- Parts of alternatives and entrypoints are identifiers, or identifiers in brackets. -/
  elements : ∀ element ∈ references grammar.rules, IsAsciiIdentifier element ∨
    ∃ name, IsAsciiIdentifier name ∧ element = Category.listOf name

/-! ## Names in lines -/

/-- A name that a declaration of the abstract syntax declares or uses stands in one of its lines. -/
theorem exists_line_of_mem_names {d : AbstractDeclaration} (h : name ∈ d.names ++ d.uses) :
    ∃ line ∈ d.lines, Occurs name line := by
  rcases List.mem_append.mp h with h | h
  case inr => exact exists_line_of_mem_uses h
  cases d with
  | foundation | heading | printing | defaultPrinting => cases h
  | listNames categories =>
    obtain ⟨category, hcategory, rfl⟩ := List.mem_map.mp h
    refine ⟨AbstractDeclaration.listNameLine category, List.mem_map_of_mem hcategory, ?_⟩
    unfold AbstractDeclaration.listNameLine
    exact ((((occurs_self _).append_left _).append_right _).append_right _).append_right _
  | enumeration | word | description | equality | hashing =>
    cases List.mem_singleton.mp h
    exact ⟨_, List.mem_cons_self, ((occurs_self _).append_left _).append_right _⟩
  | printable =>
    cases List.mem_singleton.mp h
    exact ⟨_, List.mem_cons_self,
      ((((occurs_self _).append_left _).append_right _).append_right _).append_right _⟩

/-- The head of a function holds its name. -/
theorem occurs_visitHead (visited argument result : String) :
    Occurs ("visit" ++ visited) (BridgeDeclaration.visitHead visited argument result) := by
  have hvisit : "private func visit" = "private func " ++ "visit" := by decide
  refine ⟨"private func ", "(" ++ argument ++ ") -> " ++ result ++ " \x7b", ?_⟩
  rw [BridgeDeclaration.visitHead_eq_append, hvisit]
  simp only [String.append_assoc]

/-- The head of a function holds the type of its result. -/
theorem occurs_result (visited argument result : String) :
    Occurs result (BridgeDeclaration.visitHead visited argument result) := by
  unfold BridgeDeclaration.visitHead
  exact ((occurs_self _).append_left _).append_right _

/-- The function that parses a file calls the parser of the category. -/
theorem occurs_parserName (module visited : String) :
    Occurs ("p" ++ visited) ("if let cTree = " ++ module ++ ".p" ++ visited ++ "(file) \x7b") := by
  have hparser : ".p" = "." ++ "p" := by decide
  refine ⟨"if let cTree = " ++ module ++ ".", "(file) \x7b", ?_⟩
  rw [hparser]
  simp only [String.append_assoc]

/-- A name that a declaration of the bridge defines, mentions or calls stands in one of its
lines. -/
theorem BridgeDeclaration.exists_line_of_mem_names {d : BridgeDeclaration}
    (h : name ∈ d.names ++ d.calls.map ("visit" ++ ·)) (module : String) :
    ∃ line ∈ d.lines module, Occurs name line := by
  rcases List.mem_append.mp h with h | h
  case inr =>
    obtain ⟨visited, hvisited, rfl⟩ := List.mem_map.mp h
    obtain ⟨line, hline, -, hcall⟩ := exists_line_of_mem_calls hvisited module
    exact ⟨line, hline, ((occurs_self _).append_right _).trans hcall⟩
  cases d with
  | imports | heading => cases h
  | parseFile category =>
    simp only [BridgeDeclaration.names, List.mem_cons, List.not_mem_nil, or_false] at h
    rcases h with rfl | rfl
    · refine ⟨_, ?_, occurs_parserName module _⟩
      simp [BridgeDeclaration.lines]
    · exact ⟨_, List.mem_cons_self, ((occurs_self _).append_left _).append_right _⟩
  | visit | visitToken | visitScalar =>
    simp only [BridgeDeclaration.names, List.mem_cons, List.not_mem_nil, or_false] at h
    refine ⟨_, List.mem_cons_self, ?_⟩
    rcases h with rfl | rfl
    · exact occurs_visitHead _ _ _
    · exact ((occurs_self _).append_left _).trans (occurs_visitHead _ _ _)
  | visitList category =>
    simp only [BridgeDeclaration.names, List.mem_cons, List.not_mem_nil, or_false] at h
    refine ⟨_, List.mem_cons_self, ?_⟩
    rcases h with rfl | rfl | rfl
    · exact occurs_visitHead _ _ _
    · exact ((occurs_self _).append_left _).trans (occurs_visitHead _ _ _)
    · exact (((occurs_self _).append_left _).append_right _).trans (occurs_result _ _ _)

/-! ## Names of types -/

/-- A category that is no list category is named by an identifier exactly if its type is. -/
theorem isAsciiIdentifier_typeName_iff (hlist : Category.isList category = false) :
    IsAsciiIdentifier (typeName category) ↔ IsAsciiIdentifier category := by
  rw [typeName, hlist, if_neg Bool.false_ne_true]
  cases hscalar : scalarTypes.lookup category with
  | none => exact Iff.rfl
  | some type =>
    have hall : ∀ entry ∈ scalarTypes, IsAsciiIdentifier entry.1 ∧ IsAsciiIdentifier entry.2 := by
      decide
    obtain ⟨before, after, hentries, -⟩ := List.lookup_eq_some_iff.mp hscalar
    obtain ⟨hname, htype⟩ := hall (category, type) (by simp [hentries])
    exact iff_of_true htype hname

/-- The type of a category that is named by an identifier is, too. -/
theorem isAsciiIdentifier_typeName (h : IsAsciiIdentifier category) :
    IsAsciiIdentifier (typeName category) :=
  (isAsciiIdentifier_typeName_iff h.isList_eq_false).mpr h

/-- A list category whose type is named by an identifier has elements that are no lists. -/
theorem isList_eq_false_of_isAsciiIdentifier_list (h : IsAsciiIdentifier ("List" ++ category)) :
    Category.isList category = false := by
  have hbracket : '[' ∉ ("List" ++ category).toList := h.notMem (by decide)
  rw [String.toList_append, List.mem_append, not_or] at hbracket
  rw [Category.isList, Category.element?_eq_none_of_notMem hbracket.2, Option.isSome_none]

/-! ## Flat names -/

/-- The elements of a list category that is referred to are among those whose lists are used. -/
theorem element_mem_listTypes_of_mem_references (h : analyze rules extra policy = .ok grammar)
    (hmem : category ∈ references grammar.rules) (hlist : Category.isList category = true) :
    Category.element category ∈ grammar.listTypes := by
  obtain ⟨inner, hne, rfl⟩ := Category.isList_iff.mp hlist
  rw [Category.element_listOf hne]
  exact (mem_listTypes_iff_of_analyze h).mpr ⟨hne, hmem⟩

namespace HasFlatNames

variable (hflat : HasFlatNames grammar) (h : analyze rules extra policy = .ok grammar)

include hflat

/-- The type of what is referred to is named by an identifier, and so are its functions. -/
theorem isAsciiIdentifier_of_mem_references (hmem : category ∈ references grammar.rules) :
    IsAsciiIdentifier (typeName category) ∧ IsAsciiIdentifier (Category.listName category) := by
  rcases hflat.elements category hmem with hname | ⟨name, hname, rfl⟩
  · rw [listName_of_isAsciiIdentifier hname]
    exact ⟨isAsciiIdentifier_typeName hname, hname⟩
  · rw [typeName_listOf hname.ne_empty, listName_listOf hname.ne_empty]
    exact ⟨hname.list, hname.list⟩

include h

/-- The elements of the lists that are used are named by identifiers. -/
theorem isAsciiIdentifier_of_mem_listTypes (hmem : category ∈ grammar.listTypes) :
    IsAsciiIdentifier category := by
  obtain ⟨hne, hreference⟩ := (mem_listTypes_iff_of_analyze h).mp hmem
  have helement := Category.element?_listOf hne
  rcases hflat.elements _ hreference with hname | ⟨name, hname, heq⟩
  · rw [hname.element?_eq_none] at helement
    cases helement
  · -- Brackets are taken off in one way only.
    rw [heq, Category.element?_listOf hname.ne_empty] at helement
    cases helement
    exact hname

/-- The type of an entrypoint is named by an identifier, and so are its functions. -/
theorem isAsciiIdentifier_of_mem_entrypoints (hmem : category ∈ grammar.entrypoints) :
    IsAsciiIdentifier (typeName category) ∧ IsAsciiIdentifier (Category.listName category) := by
  rcases mem_references_or_names_of_mem_entrypoints h hmem with hmem | hmem
  · exact hflat.isAsciiIdentifier_of_mem_references hmem
  · obtain ⟨group, hgroup, rfl⟩ := List.mem_map.mp hmem
    have hname := hflat.names group hgroup
    rw [listName_of_isAsciiIdentifier hname]
    exact ⟨isAsciiIdentifier_typeName hname, hname⟩

/-- The names that the declaration of a category makes are identifiers. -/
theorem isAsciiIdentifier_ofGroup {group : Group} (hgroup : group ∈ grammar.groups) :
    ∀ name ∈ (AbstractDeclaration.ofGroup group).names ++ (AbstractDeclaration.ofGroup group).uses,
      IsAsciiIdentifier name := by
  have hname := hflat.names group hgroup
  rw [AbstractDeclaration.ofGroup]
  cases hmembers : group.members with
  | token token => exact List.forall_mem_singleton.mpr hname
  | alternatives alternatives =>
    refine List.forall_mem_cons.mpr ⟨hname, fun type htype => ?_⟩
    obtain ⟨enumCase, hcase, htype⟩ := List.mem_flatMap.mp htype
    obtain ⟨alternative, halternative, rfl⟩ := List.mem_map.mp hcase
    obtain ⟨part, hpart, rfl⟩ := List.mem_map.mp htype
    have hmember : alternative ∈ group.members.constructors := by rwa [hmembers]
    exact (hflat.isAsciiIdentifier_of_mem_references
      (mem_references_of_mem_construction h hgroup hmember hpart)).1

open AbstractDeclaration in
/-- The names that the abstract syntax declares and uses are identifiers. -/
theorem isAsciiIdentifier_of_mem_abstractSyntax :
    ∀ d ∈ abstractSyntax grammar, ∀ name ∈ d.names ++ d.uses, IsAsciiIdentifier name := by
  refine forall_mem_abstractSyntax ?_ (fun _ => ?_) fun group hgroup => ?_
  · simp [AbstractDeclaration.names, AbstractDeclaration.uses]
  · refine List.forall_mem_append.mpr ⟨List.forall_mem_map.mpr fun category hmem => ?_,
      List.forall_mem_map.mpr fun category hmem => ?_⟩
    · have hname := hflat.isAsciiIdentifier_of_mem_listTypes h hmem
      rw [listName_listOf hname.ne_empty]
      exact hname.list
    · exact isAsciiIdentifier_typeName (hflat.isAsciiIdentifier_of_mem_listTypes h hmem)
  · have hname := List.forall_mem_singleton.mpr (hflat.names group hgroup)
    simp only [List.forall_mem_cons, List.not_mem_nil, false_implies, implies_true, and_true]
    exact ⟨hflat.isAsciiIdentifier_ofGroup h hgroup, hname, hname, hname, hname⟩

open BridgeDeclaration in
/-- The names that the bridge defines, mentions and calls are identifiers. -/
theorem isAsciiIdentifier_of_mem_bridge :
    ∀ d ∈ bridge grammar, ∀ name ∈ d.names ++ d.calls.map ("visit" ++ ·),
      IsAsciiIdentifier name := by
  have hvisit {visited : String} (hvisited : IsAsciiIdentifier visited) :
      IsAsciiIdentifier ("visit" ++ visited) :=
    .append (by decide) hvisited
  have hparser {visited : String} (hvisited : IsAsciiIdentifier visited) :
      IsAsciiIdentifier ("p" ++ visited) :=
    .append (by decide) hvisited
  refine forall_mem_bridge ?_ (fun category hmem => ?_) (fun category hmem => ?_)
    fun group hgroup => ⟨?_, ?_⟩
  · refine List.forall_mem_append.mpr ⟨by simp [BridgeDeclaration.names, calls], by decide⟩
  · obtain ⟨htype, hlist⟩ := hflat.isAsciiIdentifier_of_mem_entrypoints h hmem
    simp [BridgeDeclaration.names, calls, htype, hparser hlist, hvisit hlist]
  · have hname := hflat.isAsciiIdentifier_of_mem_listTypes h hmem
    have hlist : IsAsciiIdentifier (Category.listName (Category.listOf category)) := by
      rw [listName_listOf hname.ne_empty]
      exact hname.list
    simp [BridgeDeclaration.names, calls, isAsciiIdentifier_typeName hname, hlist, hvisit hlist,
      hvisit hname]
  · have hname := hflat.names group hgroup
    refine List.forall_mem_append.mpr ⟨?_, List.forall_mem_map.mpr fun visited hvisited => ?_⟩
    · exact List.forall_mem_cons.mpr ⟨hvisit hname, List.forall_mem_singleton.mpr hname⟩
    · obtain ⟨value, hvalue, hvisited⟩ := List.mem_flatMap.mp hvisited
      obtain ⟨alternative, halternative, rfl⟩ := List.mem_map.mp hvalue
      rw [map_visited_arguments] at hvisited
      obtain ⟨part, hpart, rfl⟩ := List.mem_map.mp hvisited
      exact hvisit (hflat.isAsciiIdentifier_of_mem_references
        (mem_references_of_mem_construction h hgroup halternative hpart)).2
  · have hname := hflat.names group hgroup
    exact List.forall_mem_cons.mpr ⟨hvisit hname, List.forall_mem_singleton.mpr hname⟩

/-- The elements of a list category whose type is used are among those whose lists are used. -/
theorem element_mem_listTypes (huses : UsesType grammar category)
    (hlist : Category.isList category = true) : Category.element category ∈ grammar.listTypes := by
  -- What is named by an identifier is no list category.
  have hno (hname : IsAsciiIdentifier category) : False :=
    Bool.false_ne_true (hname.isList_eq_false.symm.trans hlist)
  cases huses with
  | part hgroup halternative hpart =>
    exact element_mem_listTypes_of_mem_references h
      (mem_references_of_mem_construction h hgroup halternative hpart) hlist
  | element hmem => exact (hno (hflat.isAsciiIdentifier_of_mem_listTypes h hmem)).elim
  | result hmem =>
    rcases mem_references_or_names_of_mem_entrypoints h hmem with hmem | hmem
    · exact element_mem_listTypes_of_mem_references h hmem hlist
    · obtain ⟨group, hgroup, rfl⟩ := List.mem_map.mp hmem
      exact (hno (hflat.names group hgroup)).elim

/-- If the names of a grammar are flat, those in its sources are identifiers. -/
theorem namesStayIdentifiers (module : String) : NamesStayIdentifiers grammar module where
  abstractSyntax d hd name hname :=
    ⟨exists_line_of_mem_names hname,
      hflat.isAsciiIdentifier_of_mem_abstractSyntax h d hd name hname⟩
  bridge d hd name hname :=
    ⟨BridgeDeclaration.exists_line_of_mem_names hname module,
      hflat.isAsciiIdentifier_of_mem_bridge h d hd name hname⟩
  listNames category huses hlist := by
    have hmem := hflat.element_mem_listTypes h huses hlist
    obtain ⟨inner, hne, rfl⟩ := Category.isList_iff.mp hlist
    rw [Category.element_listOf hne] at hmem ⊢
    rw [typeName_listOf hne, ← listName_listOf hne]
    exact listNameLine_mem_abstractLines hmem

end HasFlatNames

/-! ## What is used -/

/-- What is referred to has a type that is used. -/
theorem usesType_of_mem_references (h : analyze rules extra policy = .ok grammar)
    (hmem : category ∈ references grammar.rules) : UsesType grammar category := by
  rw [rules_of_analyze h] at hmem
  obtain ⟨rule, hrule, hmem⟩ := List.mem_flatMap.mp hmem
  -- Rules refer to categories for a part, or as the only declaration of the entrypoints.
  cases rule with
  | token token => cases hmem
  | constructor alternative =>
    obtain ⟨group, hgroup, halternative⟩ := exists_group_of_constructor_mem h hrule
    exact .part hgroup halternative hmem
  | entrypoint declared =>
    refine .result ?_
    rw [entrypoints_of_analyze h hrule]
    exact hmem

/-- The declaration of a category declares the type of its name. -/
theorem name_mem_names_ofGroup (group : Group) :
    group.name ∈ (AbstractDeclaration.ofGroup group).names := by
  rw [AbstractDeclaration.ofGroup]
  cases group.members <;> exact List.mem_singleton_self _

/-- The declaration of a category uses the types of the parts of its alternatives. -/
theorem typeName_mem_uses_ofGroup {group : Group} {alternative : Constructor}
    (halternative : alternative ∈ group.members.constructors)
    (hpart : category ∈ alternative.construction) :
    typeName category ∈ (AbstractDeclaration.ofGroup group).uses := by
  rw [AbstractDeclaration.ofGroup]
  cases hmembers : group.members with
  | token token =>
    rw [hmembers] at halternative
    cases halternative
  | alternatives alternatives =>
    rw [hmembers] at halternative
    exact List.mem_flatMap.mpr ⟨_, List.mem_map_of_mem halternative, List.mem_map_of_mem hpart⟩

namespace NamesStayIdentifiers

variable (hstay : NamesStayIdentifiers grammar module)

include hstay

/-- The type of a category that is used is named by an identifier. -/
theorem isAsciiIdentifier_of_usesType (huses : UsesType grammar category) :
    IsAsciiIdentifier (typeName category) := by
  cases huses with
  | part hgroup halternative hpart =>
    refine (hstay.abstractSyntax _ (ofGroup_mem_abstractSyntax hgroup) _
      (List.mem_append_right _ ?_)).2
    exact typeName_mem_uses_ofGroup halternative hpart
  | element hmem =>
    refine (hstay.abstractSyntax _ (listNames_mem_abstractSyntax (List.ne_nil_of_mem hmem)) _
      (List.mem_append_right _ ?_)).2
    exact List.mem_map_of_mem hmem
  | result hmem =>
    refine (hstay.bridge _ (parseFile_mem_bridge hmem) _ ?_).2
    simp [BridgeDeclaration.names]

/-- If the names in the sources of a grammar are identifiers, those of the grammar are flat. -/
theorem hasFlatNames (h : analyze rules extra policy = .ok grammar) : HasFlatNames grammar where
  names group hgroup := by
    refine (hstay.abstractSyntax _ (ofGroup_mem_abstractSyntax hgroup) _
      (List.mem_append_left _ ?_)).2
    exact name_mem_names_ofGroup group
  elements element hmem := by
    have hname := hstay.isAsciiIdentifier_of_usesType (usesType_of_mem_references h hmem)
    cases hlist : Category.isList element with
    | false => exact .inl ((isAsciiIdentifier_typeName_iff hlist).mp hname)
    | true =>
      obtain ⟨inner, hne, rfl⟩ := Category.isList_iff.mp hlist
      rw [typeName_listOf hne] at hname
      -- The type of the elements is used as well, and it is that of no list.
      refine .inr ⟨inner, ?_, rfl⟩
      rw [← isAsciiIdentifier_typeName_iff (isList_eq_false_of_isAsciiIdentifier_list hname)]
      refine hstay.isAsciiIdentifier_of_usesType (.element ?_)
      exact (mem_listTypes_iff_of_analyze h).mpr ⟨hne, hmem⟩

end NamesStayIdentifiers

/-! ## The names of a grammar and those in its sources -/

/-- The names in the sources of a grammar are identifiers, and the lists whose types are used have
names, exactly if the grammar declares no list category and refers to no list of lists. -/
theorem namesStayIdentifiers_iff (h : analyze rules extra policy = .ok grammar) (module : String) :
    NamesStayIdentifiers grammar module ↔ HasFlatNames grammar :=
  ⟨fun hstay => hstay.hasFlatNames h, fun hflat => hflat.namesStayIdentifiers h module⟩

/-- The names of a grammar with a list stay identifiers. -/
theorem namesStayIdentifiers_call :
    ∃ grammar, analyze
        [.constructor ⟨"ECall", "Exp", ["Name", "[Exp]"], .unknown⟩, .token ⟨"Name", .unknown⟩]
        [] .cycles = .ok grammar ∧
      HasFlatNames grammar ∧ NamesStayIdentifiers grammar "CGrammar" := by
  let grammar : Grammar := {
    rules := [.constructor ⟨"ECall", "Exp", ["Name", "[Exp]"], .unknown⟩, .token ⟨"Name", .unknown⟩]
    groups := [⟨"Exp", .alternatives [⟨"ECall", "Exp", ["Name", "[Exp]"], .unknown⟩], false, []⟩,
      ⟨"Name", .token ⟨"Name", .unknown⟩, false, []⟩]
    listTypes := ["Exp"]
    entrypoints := ["Exp"] }
  have h : analyze grammar.rules [] .cycles = .ok grammar := by cbv
  have hflat : HasFlatNames grammar :=
    { names := by decide
      elements := List.forall_mem_cons.mpr ⟨.inl (by decide),
        List.forall_mem_singleton.mpr (.inr ⟨"Exp", by decide, rfl⟩)⟩ }
  exact ⟨grammar, h, hflat, (namesStayIdentifiers_iff h "CGrammar").mpr hflat⟩

/-- A name without square brackets. -/
def withoutBrackets (name : String) : String :=
  String.ofList (name.toList.filter fun c => c != '[' && c != ']')

/-- A list of lists makes a name that is no identifier, and an element type without a name, although
all names in it are identifiers but for their brackets. -/
theorem listOfLists_loses_names :
    ∃ rules grammar, parseGrammar "EAll. Exp ::= [[Exp]] ;" = .ok rules ∧
      analyze rules [] .all = .ok grammar ∧
      (∀ name ∈ rules.filterMap Rule.type? ++ references rules,
        IsAsciiIdentifier (withoutBrackets name)) ∧
      "public typealias List[Exp] = [ListExp]" ∈ abstractLines grammar ∧
      ¬ IsAsciiIdentifier "List[Exp]" ∧
      (UsesType grammar "[Exp]" ∧ typeName "[Exp]" = "ListExp" ∧
        "public typealias ListExp = [Exp]" ∉ abstractLines grammar) ∧
      ¬ NamesStayIdentifiers grammar "CGrammar" := by
  let grammar : Grammar := {
    rules := [.constructor ⟨"EAll", "Exp", ["[[Exp]]"], .number 1⟩]
    groups := [⟨"Exp", .alternatives [⟨"EAll", "Exp", ["[[Exp]]"], .number 1⟩], true, []⟩]
    listTypes := ["[Exp]"]
    entrypoints := ["Exp"] }
  have h : analyze grammar.rules [] .all = .ok grammar := by cbv
  have hmem : "[Exp]" ∈ grammar.listTypes := List.mem_singleton_self _
  refine ⟨grammar.rules, grammar, by decide +kernel, h, by decide, ?_, by decide,
    ⟨.element hmem, by decide, by decide +kernel⟩, fun hstay => ?_⟩
  · exact listNameLine_mem_abstractLines hmem
  · have hname := hstay.isAsciiIdentifier_of_usesType (.part (List.mem_singleton_self _)
      (List.mem_singleton_self _) (List.mem_singleton_self "[[Exp]]"))
    exact absurd hname (by decide)

end SyntaxBridge.Swift
