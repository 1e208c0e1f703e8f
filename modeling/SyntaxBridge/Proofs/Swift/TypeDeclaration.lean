import SyntaxBridge.Proofs.Swift.AbstractSyntax
import SyntaxBridge.Proofs.Text.Start

/-!
# The types that the abstract syntax declares

The lines of the abstract syntax that start an enumeration or a structure, or that give a list type
its name, are one for each category and one for each list category
(`filter_startsType_abstractSyntax`). So a type is declared as often as there are categories of its
name (`countP_declaresType`), and a list type is named as often as it is the type of a list category
(`countP_declaresAlias`).
-/

namespace SyntaxBridge.Swift

open AbstractDeclaration Text

/-- What the declarations of enumerations and structures start with. -/
def typeStarts : List String :=
  ["public enum ", "public indirect enum ", "public struct "]

/-- What the declaration of a name for a type starts with. -/
def aliasStart : String := "public typealias "

/-- Whether a line declares a type of some name. -/
def startsType (line : String) : Bool :=
  (aliasStart :: typeStarts).any fun start => startsWith start line

/-- Whether a line starts the enumeration or the structure of a type. -/
def declaresType (name line : String) : Bool :=
  typeStarts.any fun start => startsWith (start ++ (name ++ " ")) line

/-- Whether a line declares a name for a type. -/
def declaresAlias (name line : String) : Bool :=
  startsWith (aliasStart ++ (name ++ " ")) line

/-- What the declaration of a category starts with. -/
def typeStart (group : Group) : String :=
  if group.isToken then "public struct "
  else if group.boxed then "public indirect enum " else "public enum "

/-- The line that the declaration of a category starts with. -/
def typeHead (group : Group) : String :=
  typeStart group ++ (group.name ++ " \x7b")

theorem typeStart_mem_typeStarts (group : Group) : typeStart group ∈ typeStarts := by
  rw [typeStart]
  split
  · decide
  · split <;> decide

/-! ## The lines of a declaration -/

/-- A line declares no type if its front rules that out. -/
theorem startsType_append_eq_false {front : String} (back : String)
    (h : ∀ start ∈ aliasStart :: typeStarts,
      startsWith start front = false ∧ startsWith front start = false) :
    startsType (front ++ back) = false := by
  rw [startsType, List.any_eq_false]
  intro start hstart
  rw [startsWith_append_eq_false back (h start hstart).1 (h start hstart).2]
  exact Bool.false_ne_true

/-- What starts a type declaration makes the whole line one. -/
theorem startsType_append {start : String} (h : start ∈ aliasStart :: typeStarts) (back : String) :
    startsType (start ++ back) = true :=
  List.any_eq_true.mpr ⟨start, h, startsWith_append_self _ _⟩

/-- Declarations of other kinds declare no type. -/
theorem filter_startsType_of_namesType_eq_false {d : AbstractDeclaration}
    (h : d.namesType = false) : d.lines.filter startsType = [] := by
  have hextension (back : String) : startsType ("extension " ++ back) = false :=
    startsType_append_eq_false _ (by decide)
  have hprotocol (back : String) : startsType ("public protocol " ++ back) = false :=
    startsType_append_eq_false _ (by decide)
  have hequality (back : String) : startsType ("public static func ==(lhs: " ++ back) = false :=
    startsType_append_eq_false _ (by decide)
  refine List.filter_eq_nil_iff.mpr ?_
  cases d with
  | enumeration | listNames | word => cases h
  | foundation => decide
  | heading title =>
    have hheading : startsType ("//MARK:- " ++ title) = false :=
      startsType_append_eq_false _ (by decide)
    simp only [AbstractDeclaration.lines, List.forall_mem_cons, hheading]
    decide
  | printing =>
    simp only [AbstractDeclaration.lines, String.append_assoc, List.forall_mem_cons, hprotocol]
    decide
  | defaultPrinting =>
    simp only [AbstractDeclaration.lines, String.append_assoc, List.forall_mem_cons, hextension]
    decide
  | printable name isToken =>
    simp only [AbstractDeclaration.lines, String.append_assoc, List.forall_mem_append,
      List.forall_mem_cons, hextension]
    cases isToken <;> decide
  | description name =>
    simp only [AbstractDeclaration.lines, String.append_assoc, List.forall_mem_cons, hextension]
    decide
  | equality name =>
    simp only [AbstractDeclaration.lines, String.append_assoc, List.forall_mem_cons, hextension,
      hequality]
    decide
  | hashing name =>
    simp only [AbstractDeclaration.lines, String.append_assoc, List.forall_mem_cons, hextension]
    decide

/-- A case that is added by hand is written as a case. -/
theorem startsWith_extraCaseLine (text : String) :
    startsWith "case " (extraCaseLine text) = true := by
  rw [extraCaseLine]
  split
  next hcase => exact (startsWith_ofList _ _).trans hcase
  next => exact startsWith_append_self _ _

/-- The lines between the braces of an enumeration are cases and a comment. -/
theorem forall_mem_caseLines {P : String → Prop}
    (hcase : ∀ line, startsWith "case " line = true → P line) (hcomment : P "//additional cases")
    (cases : List EnumCase) (extraCases : List String) :
    ∀ line ∈ caseLines cases extraCases, P line := by
  have hcases : ∀ line ∈ cases.map EnumCase.line, P line := by
    intro line hline
    obtain ⟨enumCase, _, rfl⟩ := List.mem_map.mp hline
    refine hcase _ ?_
    rw [EnumCase.line, String.append_assoc]
    exact startsWith_append_self _ _
  rw [caseLines]
  split
  · exact hcases
  · refine List.forall_mem_append.mpr ⟨hcases, List.forall_mem_cons.mpr ⟨hcomment, ?_⟩⟩
    intro line hline
    obtain ⟨text, -, rfl⟩ := exists_of_mem_extraCaseLines hline
    exact hcase _ (startsWith_extraCaseLine text)

/-- No case of an enumeration declares a type. -/
theorem filter_startsType_caseLines (cases : List EnumCase) (extraCases : List String) :
    (caseLines cases extraCases).filter startsType = [] := by
  have hcase (line : String) (h : startsWith "case " line = true) : startsType line = false := by
    obtain ⟨back, rfl⟩ := startsWith_iff_exists_append.mp h
    exact startsType_append_eq_false _ (by decide)
  refine List.filter_eq_nil_iff.mpr fun line hline => ne_true_of_eq_false ?_
  exact forall_mem_caseLines (P := fun line => startsType line = false) hcase (by decide) _ _ line
    hline

/-- The declaration of a category declares one type. -/
theorem filter_startsType_ofGroup (group : Group) :
    (ofGroup group).lines.filter startsType = [typeHead group] := by
  have hhead : startsType (typeHead group) = true :=
    startsType_append (List.mem_cons_of_mem _ (typeStart_mem_typeStarts group)) _
  cases hmembers : group.members with
  | token token =>
    have hlines : (ofGroup group).lines = typeHead group ::
        ["public let value: String", "", "public init(_ value: String) \x7b", "self.value = value",
          "\x7d", "\x7d"] := by
      have htoken : group.isToken = true := by
        rw [Group.isToken, hmembers, Members.isToken]
      rw [typeHead, typeStart, if_pos htoken, ofGroup, hmembers, ← String.append_assoc]
      rfl
    rw [hlines, List.filter_cons_of_pos hhead, List.filter_eq_nil_iff.mpr (by decide)]
  | alternatives alternatives =>
    have hlines : (ofGroup group).lines = [typeHead group] ++
        caseLines (alternatives.map (EnumCase.ofConstructor group.name)) group.extraCases ++
          ["\x7d"] := by
      have hstart : "public " ++ (if group.boxed then "indirect " else "") ++ "enum " =
          if group.boxed then "public indirect enum " else "public enum " := by
        cases group.boxed <;> decide
      have htoken : ¬ group.isToken = true := by
        rw [Group.isToken, hmembers, Members.isToken]
        exact Bool.false_ne_true
      rw [typeHead, typeStart, if_neg htoken, ofGroup, hmembers, ← String.append_assoc, ← hstart]
      rfl
    rw [hlines, List.filter_append, List.filter_append, filter_startsType_caseLines,
      List.filter_cons_of_pos hhead, List.filter_nil, List.filter_cons_of_neg (by decide),
      List.filter_nil, List.append_nil, List.append_nil]

theorem listNameLine_eq_append (category : String) :
    listNameLine category = aliasStart ++ (Category.listName (Category.listOf category) ++
      (" " ++ ("= [" ++ typeName category ++ "]"))) := by
  have hequals : " = [" = " " ++ "= [" := by decide
  unfold listNameLine aliasStart
  rw [hequals]
  simp only [String.append_assoc]

/-- Each line of the names for list types declares one. -/
theorem filter_startsType_listNames (categories : List String) :
    (listNames categories).lines.filter startsType = categories.map listNameLine := by
  refine List.filter_eq_self.mpr fun line hline => ?_
  obtain ⟨category, _, rfl⟩ := List.mem_map.mp hline
  rw [listNameLine_eq_append]
  exact startsType_append List.mem_cons_self _

/-! ## All lines -/

/-- The lines of the abstract syntax that declare a type. -/
theorem filter_startsType_abstractSyntax (grammar : Grammar) :
    ((abstractSyntax grammar).flatMap AbstractDeclaration.lines).filter startsType =
      (grammar.groups.filter (!·.isToken)).map typeHead ++ grammar.listTypes.map listNameLine ++
        (grammar.groups.filter (·.isToken)).map typeHead := by
  have hgroups (groups : List Group) :
      groups.flatMap ((fun d => d.lines.filter startsType) ∘ ofGroup) = groups.map typeHead := by
    rw [List.map_eq_flatMap]
    exact congrArg (List.flatMap · groups) (funext filter_startsType_ofGroup)
  rw [List.filter_flatMap, flatMap_abstractSyntax (fun d => filter_startsType_of_namesType_eq_false)
    (filter_startsType_listNames []), hgroups, hgroups, filter_startsType_listNames]

/-! ## Counting declarations -/

/-- No two of the ways to start a type declaration start alike. -/
theorem startsWith_starts_eq_false {start other : String}
    (hstart : start ∈ aliasStart :: typeStarts) (hother : other ∈ aliasStart :: typeStarts)
    (hne : start ≠ other) (more back : String) :
    startsWith (start ++ more) (other ++ back) = false := by
  have hstarts : ∀ start ∈ aliasStart :: typeStarts, ∀ other ∈ aliasStart :: typeStarts,
      start ≠ other → startsWith start other = false := by decide
  exact startsWith_append_append_eq_false _ _ (hstarts start hstart other hother hne)
    (hstarts other hother start hstart hne.symm)

theorem aliasStart_notMem_typeStarts : aliasStart ∉ typeStarts := by decide

variable {name : String}

/-- A declared type and the name in the head of a declaration are compared whole. -/
theorem startsWith_name_brace {other : String} (hname : ' ' ∉ name.toList)
    (hother : ' ' ∉ other.toList) (back : String) :
    startsWith (name ++ " ") (other ++ (" " ++ back)) = (name == other) := by
  rw [← String.append_assoc]
  exact startsWith_name_append rfl hname hother back

/-- The declaration of a category declares the type of that name. -/
theorem declaresType_typeHead {group : Group} (hname : ' ' ∉ name.toList)
    (hgroup : ' ' ∉ group.name.toList) :
    declaresType name (typeHead group) = (name == group.name) := by
  have hsame : startsWith (typeStart group ++ (name ++ " ")) (typeHead group) =
      (name == group.name) := by
    have hbrace : " \x7b" = " " ++ "\x7b" := by decide
    rw [typeHead, startsWith_append_append, hbrace, startsWith_name_brace hname hgroup]
  -- Only the start that the group has can be that of the line.
  have hmem := typeStart_mem_typeStarts group
  rw [declaresType, Bool.eq_iff_iff, List.any_eq_true, ← hsame]
  constructor
  · rintro ⟨start, hstart, h⟩
    by_cases heq : start = typeStart group
    · exact heq ▸ h
    · rw [typeHead, startsWith_starts_eq_false (List.mem_cons_of_mem _ hstart)
        (List.mem_cons_of_mem _ hmem) heq] at h
      cases h
  · exact fun h => ⟨_, hmem, h⟩

theorem declaresType_listNameLine (name category : String) :
    declaresType name (listNameLine category) = false := by
  rw [declaresType, List.any_eq_false]
  intro start hstart
  have hne : start ≠ aliasStart := fun heq => aliasStart_notMem_typeStarts (heq ▸ hstart)
  rw [listNameLine_eq_append, startsWith_starts_eq_false (List.mem_cons_of_mem _ hstart)
    List.mem_cons_self hne]
  exact Bool.false_ne_true

/-- The name of a list type declares it. -/
theorem declaresAlias_listNameLine {category : String} (hname : ' ' ∉ name.toList)
    (hcategory : ' ' ∉ (Category.listName (Category.listOf category)).toList) :
    declaresAlias name (listNameLine category) =
      (name == Category.listName (Category.listOf category)) := by
  rw [declaresAlias, listNameLine_eq_append, startsWith_append_append,
    startsWith_name_brace hname hcategory]

theorem declaresAlias_typeHead (name : String) (group : Group) :
    declaresAlias name (typeHead group) = false := by
  have hmem := typeStart_mem_typeStarts group
  have hne : aliasStart ≠ typeStart group := fun heq => aliasStart_notMem_typeStarts (heq ▸ hmem)
  exact startsWith_starts_eq_false List.mem_cons_self (List.mem_cons_of_mem _ hmem) hne _ _

/-- What is counted among the lines that declare types is counted among all lines. -/
theorem countP_abstractSyntax {p : String → Bool}
    (hp : ∀ line, p line = true → startsType line = true) (grammar : Grammar) :
    ((abstractSyntax grammar).flatMap AbstractDeclaration.lines).countP p =
      grammar.groups.countP (p ∘ typeHead) + grammar.listTypes.countP (p ∘ listNameLine) := by
  have hlines : ((abstractSyntax grammar).flatMap AbstractDeclaration.lines).countP p =
      (((abstractSyntax grammar).flatMap AbstractDeclaration.lines).filter
        startsType).countP p := by
    rw [List.countP_filter]
    refine List.countP_congr fun line _ => ?_
    rw [Bool.and_eq_true]
    exact ⟨fun h => ⟨h, hp line h⟩, And.left⟩
  rw [hlines, filter_startsType_abstractSyntax, List.countP_append, List.countP_append,
    List.countP_map, List.countP_map, List.countP_map,
    List.countP_eq_countP_filter_add grammar.groups (p ∘ typeHead) (·.isToken)]
  omega

/-- A type is declared as often as there are categories of its name. -/
theorem countP_declaresType {grammar : Grammar} (hname : ' ' ∉ name.toList)
    (hgroups : ∀ group ∈ grammar.groups, ' ' ∉ group.name.toList) :
    ((abstractSyntax grammar).flatMap AbstractDeclaration.lines).countP (declaresType name) =
      (grammar.groups.map (·.name)).count name := by
  have hstarts (line : String) (h : declaresType name line = true) : startsType line = true := by
    obtain ⟨start, hstart, h⟩ := List.any_eq_true.mp h
    exact List.any_eq_true.mpr
      ⟨start, List.mem_cons_of_mem _ hstart, startsWith_of_startsWith_append h⟩
  have hlists : grammar.listTypes.countP (declaresType name ∘ listNameLine) = 0 :=
    List.countP_eq_zero.mpr fun category _ =>
      ne_true_of_eq_false (declaresType_listNameLine name category)
  rw [countP_abstractSyntax hstarts, hlists, Nat.add_zero, List.count, List.countP_map]
  refine List.countP_congr fun group hgroup => ?_
  rw [Function.comp_apply, Function.comp_apply, declaresType_typeHead hname (hgroups group hgroup),
    Bool.beq_comm]

/-- A list type is named as often as it is the type of a list category. -/
theorem countP_declaresAlias {grammar : Grammar} (hname : ' ' ∉ name.toList)
    (hlists : ∀ category ∈ grammar.listTypes,
      ' ' ∉ (Category.listName (Category.listOf category)).toList) :
    ((abstractSyntax grammar).flatMap AbstractDeclaration.lines).countP (declaresAlias name) =
      (grammar.listTypes.map fun category =>
        Category.listName (Category.listOf category)).count name := by
  have hstarts (line : String) (h : declaresAlias name line = true) : startsType line = true :=
    List.any_eq_true.mpr ⟨aliasStart, List.mem_cons_self, startsWith_of_startsWith_append h⟩
  have hgroups : grammar.groups.countP (declaresAlias name ∘ typeHead) = 0 :=
    List.countP_eq_zero.mpr fun group _ => ne_true_of_eq_false (declaresAlias_typeHead name group)
  rw [countP_abstractSyntax hstarts, hgroups, Nat.zero_add, List.count, List.countP_map]
  refine List.countP_congr fun category hcategory => ?_
  rw [Function.comp_apply, Function.comp_apply,
    declaresAlias_listNameLine hname (hlists category hcategory), Bool.beq_comm]

end SyntaxBridge.Swift
