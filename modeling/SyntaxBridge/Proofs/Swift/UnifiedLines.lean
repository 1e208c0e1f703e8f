import SyntaxBridge.Proofs.Grammar.Unified
import SyntaxBridge.Proofs.Swift.AbstractSyntax
import SyntaxBridge.Proofs.Swift.NameText
import SyntaxBridge.Swift.Bridge

/-!
# Lines without marks

The lines of a declaration are written from names and from texts that are the same for all grammars.
None of the latter holds a line feed or a carriage return, so none stands in the lines unless one
stands in the names (`NamesLack.lacks_abstractSyntax`). For the bridge, only carriage returns matter
(`BridgeDeclaration.isUnified_lines`).
-/

namespace SyntaxBridge.Swift

open Text

variable {mark : Char} {name label text line : String}

/-! ## Names -/

/-- What stands between the brackets of a name is part of it. -/
theorem lacks_of_element? (h : Lacks mark name) (helement : Category.element? name = some text) :
    Lacks mark text := by
  obtain ⟨-, rfl⟩ := Category.element?_eq_some_iff.mp helement
  rw [Category.listOf, lacks_append, lacks_append] at h
  exact h.1.2

section LineMark

variable (hmark : IsLineMark mark)

include hmark

/-- The category of lists of a category is named by the category in brackets. -/
theorem lacks_listOf (h : Lacks mark name) : Lacks mark (Category.listOf name) := by
  simp only [Category.listOf, lacks_append, h, and_true]
  rcases hmark with rfl | rfl <;> decide

/-- A list category is called by characters of the name of its elements. -/
theorem lacks_listName (h : Lacks mark name) : Lacks mark (Category.listName name) := by
  rw [Category.listName]
  split
  next inner helement =>
    refine lacks_append.mpr ⟨?_, lacks_of_element? h helement⟩
    rcases hmark with rfl | rfl <;> decide
  next => exact h

/-- The type of a category is called by its own name, or by the name of a predefined type. -/
theorem lacks_typeName (h : Lacks mark name) : Lacks mark (typeName name) := by
  rw [typeName]
  split
  · exact lacks_listName hmark h
  cases hscalar : scalarTypes.lookup name with
  | none => exact h
  | some type =>
    have hall : ∀ entry ∈ scalarTypes, Lacks mark entry.2 := by
      rcases hmark with rfl | rfl <;> decide
    obtain ⟨before, after, hentries, -⟩ := List.lookup_eq_some_iff.mp hscalar
    exact hall (name, type) (by simp [hentries])

theorem lacks_lower (h : Lacks mark name) : Lacks mark (lower name) :=
  lacks_ofList.mpr (notMem_lower hmark.control h)

theorem lacks_caseName (type : String) (h : Lacks mark label) :
    Lacks mark (caseName type label) := by
  have hbare : Lacks mark (String.ofList (bareCaseName type.toList label.toList)) := by
    rw [lacks_ofList, bareCaseName]
    exact notMem_lowerFirst hmark.control fun hmem => h (subset_bareCaseName _ _ hmem)
  rw [caseName]
  split
  · rw [escape, lacks_append, lacks_append]
    rcases hmark with rfl | rfl <;> exact ⟨⟨by decide, hbare⟩, by decide⟩
  · exact hbare

theorem lacks_memberName (construction : List String) (index : Nat) (h : Lacks mark name) :
    Lacks mark (memberName construction index name) := by
  have hname := lacks_lower hmark (lacks_listName hmark h)
  have hunderscore : Lacks mark "_" := by rcases hmark with rfl | rfl <;> decide
  have hdigit : mark.isDigit = false := by rcases hmark with rfl | rfl <;> decide
  -- A member is numbered if there are several of its category.
  rw [memberName]
  split
  · exact lacks_append.mpr ⟨hname, hunderscore⟩
  · rw [lacks_append, lacks_append]
    exact ⟨⟨hname, hunderscore⟩, lacks_toString hdigit _⟩

end LineMark

/-! ## The abstract syntax -/

/-- The texts that a case is written from. -/
def EnumCase.texts (enumCase : EnumCase) : List String :=
  enumCase.name :: enumCase.payload

/-- The texts that a declaration of the abstract syntax is written from. -/
def AbstractDeclaration.texts : AbstractDeclaration → List String
  | foundation | printing | defaultPrinting => []
  | heading title => [title]
  | enumeration name _ cases extraCases =>
    name :: cases.flatMap EnumCase.texts ++ extraCases
  | listNames categories => categories
  | word name | printable name _ | description name | equality name | hashing name => [name]

/-- A mark does not stand in the names that the abstract syntax of a grammar is written from, or in
the cases that were added by hand. -/
structure NamesLack (mark : Char) (grammar : Grammar) : Prop where
  /-- Names of declared categories. -/
  names : ∀ group ∈ grammar.groups, Lacks mark group.name
  /-- Labels of alternatives. -/
  labels : ∀ group ∈ grammar.groups, ∀ rule ∈ group.members.constructors, Lacks mark rule.label
  /-- Parts of alternatives. -/
  parts : ∀ group ∈ grammar.groups, ∀ rule ∈ group.members.constructors,
    ∀ part ∈ rule.construction, Lacks mark part
  /-- Categories whose lists are used. -/
  listTypes : ∀ category ∈ grammar.listTypes, Lacks mark category
  /-- Cases that were added by hand. -/
  extraCases : ∀ group ∈ grammar.groups, ∀ text ∈ group.extraCases, Lacks mark text

section LineMark

variable (hmark : IsLineMark mark)

include hmark

/-- The line of a case is written from the texts of the case. -/
theorem EnumCase.lacks_line {enumCase : EnumCase} (h : ∀ text ∈ enumCase.texts, Lacks mark text) :
    Lacks mark enumCase.line := by
  obtain ⟨hname, hpayload⟩ := List.forall_mem_cons.mp h
  have hfixed : ∀ fixed ∈ ["case ", "", "(", ", ", ")"], Lacks mark fixed := by
    rcases hmark with rfl | rfl <;> decide
  have htypes : Lacks mark (", ".intercalate enumCase.payload) :=
    lacks_intercalate (hfixed _ (by simp)) hpayload
  rw [line, lacks_append, lacks_append]
  refine ⟨⟨hfixed _ (by simp), hname⟩, ?_⟩
  split_ifs
  · exact hfixed _ (by simp)
  · exact lacks_append.mpr
      ⟨lacks_append.mpr ⟨hfixed _ (by simp), htypes⟩, hfixed _ (by simp)⟩

/-- The line of a case that was added by hand is written from its text. -/
theorem lacks_extraCaseLine (h : Lacks mark text) : Lacks mark (extraCaseLine text) := by
  have hbare : mark ∉ trim text.toList := fun hmem => h ((trim_sublist _).subset hmem)
  rw [extraCaseLine]
  split_ifs
  · exact lacks_ofList.mpr hbare
  · refine lacks_append.mpr ⟨?_, lacks_ofList.mpr hbare⟩
    rcases hmark with rfl | rfl <;> decide

/-- The lines of the cases of an enumeration are written from the texts of the cases. -/
theorem AbstractDeclaration.lacks_of_mem_caseLines {cases : List EnumCase}
    {extraCases : List String}
    (hcases : ∀ enumCase ∈ cases, ∀ text ∈ enumCase.texts, Lacks mark text)
    (hextra : ∀ text ∈ extraCases, Lacks mark text) (h : line ∈ caseLines cases extraCases) :
    Lacks mark line := by
  have hdeclared (hmem : line ∈ cases.map EnumCase.line) : Lacks mark line := by
    obtain ⟨enumCase, hcase, rfl⟩ := List.mem_map.mp hmem
    exact EnumCase.lacks_line hmark (hcases enumCase hcase)
  rw [caseLines] at h
  split at h
  · exact hdeclared h
  rcases List.mem_append.mp h with h | h
  · exact hdeclared h
  -- A comment stands before the cases that were added.
  rcases List.mem_cons.mp h with rfl | h
  · rcases hmark with rfl | rfl <;> decide
  · obtain ⟨text, htext, rfl⟩ := exists_of_mem_extraCaseLines h
    exact lacks_extraCaseLine hmark (hextra text htext)

/-- No line mark stands in the lines of a declaration if none stands in its texts. -/
theorem AbstractDeclaration.lacks_lines {declaration : AbstractDeclaration}
    (h : ∀ text ∈ declaration.texts, Lacks mark text) :
    ∀ line ∈ declaration.lines, Lacks mark line := by
  -- Where the lines are put together, the texts of the declaration are taken out first. What is
  -- left are texts that all grammars share.
  cases declaration with
  | foundation | printing | defaultPrinting => rcases hmark with rfl | rfl <;> decide +kernel
  | heading title =>
    have htitle : Lacks mark title := h title List.mem_cons_self
    simp only [lines, List.forall_mem_singleton, lacks_append, htitle, and_true]
    rcases hmark with rfl | rfl <;> decide +kernel
  | enumeration name boxed cases extraCases =>
    rw [texts, List.cons_append, List.forall_mem_cons, List.forall_mem_append] at h
    obtain ⟨hname, hcases, hextra⟩ := h
    have hcases : ∀ enumCase ∈ cases, ∀ text ∈ enumCase.texts, Lacks mark text :=
      fun enumCase hcase text htext =>
        hcases text (List.mem_flatMap.mpr ⟨enumCase, hcase, htext⟩)
    have hlines : ∀ line ∈ caseLines cases extraCases, Lacks mark line := by
      intro line hline
      exact lacks_of_mem_caseLines hmark hcases hextra hline
    have hboxed : Lacks mark (if boxed then "indirect " else "") := by
      rcases hmark with rfl | rfl <;> split_ifs <;> decide
    simp only [lines, List.forall_mem_append, List.forall_mem_singleton, lacks_append, hboxed,
      hname, and_true]
    rcases hmark with rfl | rfl <;> exact ⟨⟨by decide +kernel, hlines⟩, by decide +kernel⟩
  | listNames categories =>
    refine List.forall_mem_map.mpr fun category hcategory => ?_
    have hname : Lacks mark category := h category hcategory
    have hlist : Lacks mark (Category.listName (Category.listOf category)) :=
      lacks_listName hmark (lacks_listOf hmark hname)
    have htype := lacks_typeName hmark hname
    unfold listNameLine
    simp only [lacks_append, hlist, htype, and_true]
    rcases hmark with rfl | rfl <;> decide +kernel
  | printable name isToken =>
    have hname : Lacks mark name := h name List.mem_cons_self
    have hbody : ∀ line ∈ if isToken then ["public func show() -> String \x7b",
        "return description", "\x7d"] else [], Lacks mark line := by
      rcases hmark with rfl | rfl <;> split_ifs <;> decide +kernel
    simp only [lines, List.forall_mem_append, List.forall_mem_singleton, lacks_append, hname,
      and_true]
    rcases hmark with rfl | rfl <;> exact ⟨⟨by decide +kernel, hbody⟩, by decide +kernel⟩
  | word name | description name | equality name | hashing name =>
    have hname : Lacks mark name := h name List.mem_cons_self
    simp only [lines, List.forall_mem_cons, lacks_append, hname, and_true]
    rcases hmark with rfl | rfl <;> decide +kernel

variable {grammar : Grammar}

/-- The declaration of a category is written from the names of its alternatives. -/
theorem NamesLack.lacks_ofGroup (hnames : NamesLack mark grammar) {group : Group}
    (hgroup : group ∈ grammar.groups) :
    ∀ text ∈ (AbstractDeclaration.ofGroup group).texts, Lacks mark text := by
  have hname := hnames.names group hgroup
  have hlabels := hnames.labels group hgroup
  have hparts := hnames.parts group hgroup
  rw [AbstractDeclaration.ofGroup]
  cases hmembers : group.members with
  | token token => exact List.forall_mem_singleton.mpr hname
  | alternatives alternatives =>
    rw [hmembers] at hlabels hparts
    refine List.forall_mem_cons.mpr ⟨hname, List.forall_mem_append.mpr ⟨fun text htext => ?_, ?_⟩⟩
    · obtain ⟨enumCase, hcase, htext⟩ := List.mem_flatMap.mp htext
      obtain ⟨rule, hrule, rfl⟩ := List.mem_map.mp hcase
      rcases List.mem_cons.mp htext with rfl | htext
      · exact lacks_caseName hmark _ (hlabels rule hrule)
      · obtain ⟨part, hpart, rfl⟩ := List.mem_map.mp htext
        exact lacks_typeName hmark (hparts rule hrule part hpart)
    · exact hnames.extraCases group hgroup

/-- The abstract syntax is written from the names of its grammar. -/
theorem NamesLack.lacks_abstractSyntax (hnames : NamesLack mark grammar) :
    ∀ declaration ∈ abstractSyntax grammar, ∀ line ∈ declaration.lines, Lacks mark line := by
  have htexts : ∀ declaration ∈ abstractSyntax grammar, ∀ text ∈ declaration.texts,
      Lacks mark text := by
    refine forall_mem_abstractSyntax ?_ (fun _ => hnames.listTypes) fun group hgroup => ?_
    · rcases hmark with rfl | rfl <;> decide +kernel
    · have hname : ∀ text ∈ [group.name], Lacks mark text :=
        List.forall_mem_singleton.mpr (hnames.names group hgroup)
      simp only [List.forall_mem_cons, List.not_mem_nil, false_implies, implies_true, and_true]
      exact ⟨hnames.lacks_ofGroup hmark hgroup, hname, hname, hname, hname⟩
  exact fun declaration hdeclaration =>
    AbstractDeclaration.lacks_lines hmark (htexts declaration hdeclaration)

end LineMark

/-! ## The bridge -/

/-- The texts that an argument of a case is written from. -/
def CaseArgument.texts (argument : CaseArgument) : List String :=
  [argument.visited, argument.label, argument.member]

/-- The texts that a case with its arguments is written from. -/
def CaseValue.texts (value : CaseValue) : List String :=
  value.name :: value.arguments.flatMap CaseArgument.texts

/-- The texts that a declaration of the bridge is written from, beside the module. -/
def BridgeDeclaration.texts : BridgeDeclaration → List String
  | imports => []
  | heading title => [title]
  | parseFile category | visitList category => [category]
  | visit name cases => name :: cases.flatMap CaseValue.texts
  | visitToken name => [name]
  | visitScalar conversion => [conversion.category, conversion.type, conversion.value]

/-- An argument of a case is written from its texts. -/
theorem CaseArgument.isUnified_text {argument : CaseArgument}
    (h : ∀ text ∈ argument.texts, IsUnified text) : IsUnified argument.text := by
  simp only [texts, List.forall_mem_cons] at h
  obtain ⟨hvisited, hlabel, hmember, -⟩ := h
  simp only [text, isUnified_append, hvisited, hlabel, hmember, and_true]
  decide +kernel

/-- A case with its arguments is written from its texts. -/
theorem CaseValue.isUnified_text {value : CaseValue} (h : ∀ text ∈ value.texts, IsUnified text) :
    IsUnified value.text := by
  obtain ⟨hname, harguments⟩ := List.forall_mem_cons.mp h
  have htexts : IsUnified (", ".intercalate (value.arguments.map CaseArgument.text)) := by
    refine isUnified_intercalate (by decide) (List.forall_mem_map.mpr fun argument hargument => ?_)
    exact CaseArgument.isUnified_text fun text htext =>
      harguments text (List.mem_flatMap.mpr ⟨argument, hargument, htext⟩)
  rw [text, isUnified_append, isUnified_append]
  refine ⟨⟨by decide, hname⟩, ?_⟩
  split_ifs
  · decide
  · exact isUnified_append.mpr ⟨isUnified_append.mpr ⟨by decide, htexts⟩, by decide⟩

namespace BridgeDeclaration

/-- The native type of a category is written from its name and that of the module. -/
theorem isUnified_nativeType {module : String} (hmodule : IsUnified module)
    (hname : IsUnified name) : IsUnified (nativeType module name) := by
  rw [nativeType]
  split_ifs
  · simp only [escape, isUnified_append, hmodule, hname, true_and, and_true]
    decide
  · simp only [isUnified_append, hmodule, hname, true_and, and_true]
    decide

/-- The head of a function is written from the texts that it is given. -/
theorem isUnified_visitHead {argument result : String} (hname : IsUnified name)
    (hargument : IsUnified argument) (hresult : IsUnified result) :
    IsUnified (visitHead name argument result) := by
  unfold visitHead
  simp only [isUnified_append, hname, hargument, hresult, and_true]
  decide +kernel

/-- The head of the function for a category is written from its name and that of the module. -/
theorem isUnified_valueHead {module : String} (hmodule : IsUnified module)
    (hname : IsUnified name) :
    IsUnified (visitHead name ("_ pValue: " ++ nativeType module name) name) := by
  have hnative := isUnified_nativeType hmodule hname
  exact isUnified_visitHead hname (isUnified_append.mpr ⟨by decide, hnative⟩) hname

/-- The head of the function for a list is written from the name of its elements, its own name and
that of the module. -/
theorem isUnified_listHead {module list : String} (hmodule : IsUnified module)
    (hlist : IsUnified list) (hname : IsUnified name) :
    IsUnified (visitHead list ("_ pValue: " ++ nativeType module list ++ "?")
      ("[" ++ typeName name ++ "]")) := by
  have hnative := isUnified_nativeType hmodule hlist
  have htype : IsUnified (typeName name) := lacks_typeName (.inr rfl) hname
  refine isUnified_visitHead hlist ?_ ?_
  · exact isUnified_append.mpr ⟨isUnified_append.mpr ⟨by decide, hnative⟩, by decide⟩
  · exact isUnified_append.mpr ⟨isUnified_append.mpr ⟨by decide, htype⟩, by decide⟩

/-- The lines of the cases of a switch are written from the texts of the cases. -/
theorem isUnified_of_mem_caseLines {values : List CaseValue}
    (h : ∀ value ∈ values, IsUnified value.text) :
    ∀ line ∈ (values.mapIdx caseLines).flatten, IsUnified line := by
  refine List.forall_mem_flatten.mpr fun lines hlines => ?_
  obtain ⟨number, hnumber, rfl⟩ := List.mem_mapIdx.mp hlines
  have hdigits : IsUnified (toString number) := lacks_toString (by decide) number
  have hvalue := h _ (List.getElem_mem hnumber)
  simp only [caseLines, List.forall_mem_cons, isUnified_append, hdigits, hvalue, and_true]
  decide +kernel

/-- No carriage return stands in the lines of a declaration if none stands in its texts. -/
theorem isUnified_lines {module : String} (hmodule : IsUnified module)
    {declaration : BridgeDeclaration} (h : ∀ text ∈ declaration.texts, IsUnified text) :
    ∀ line ∈ declaration.lines module, IsUnified line := by
  -- As above: what is left to decide are the texts that all grammars share.
  cases declaration with
  | imports =>
    simp only [lines, List.forall_mem_cons, isUnified_append, hmodule, and_true]
    decide +kernel
  | heading title =>
    have htitle : IsUnified title := h title List.mem_cons_self
    simp only [lines, List.forall_mem_singleton, isUnified_append, htitle, and_true]
    decide +kernel
  | parseFile category =>
    have hname : IsUnified category := h category List.mem_cons_self
    have hvisited : IsUnified (Category.listName category) := lacks_listName (.inr rfl) hname
    have htype : IsUnified (typeName category) := lacks_typeName (.inr rfl) hname
    simp only [lines, List.forall_mem_cons, isUnified_append, hmodule, hvisited, htype, and_true]
    decide +kernel
  | visit name cases =>
    rw [texts, List.forall_mem_cons] at h
    obtain ⟨hname, hcases⟩ := h
    have hcases : ∀ value ∈ cases, IsUnified value.text := fun value hvalue =>
      CaseValue.isUnified_text fun text htext =>
        hcases text (List.mem_flatMap.mpr ⟨value, hvalue, htext⟩)
    have hlines := isUnified_of_mem_caseLines hcases
    have hhead := isUnified_valueHead hmodule hname
    simp only [lines, List.forall_mem_append, List.forall_mem_cons, isUnified_append, hname, hhead,
      and_true, true_and]
    exact ⟨⟨by decide +kernel, hlines⟩, by decide +kernel⟩
  | visitList category =>
    have hname : IsUnified category := h category List.mem_cons_self
    have hlist : IsUnified (Category.listName (Category.listOf category)) :=
      lacks_listName (.inr rfl) (lacks_listOf (.inr rfl) hname)
    have hvisit := isUnified_listHead hmodule hlist hname
    -- The members that hold an element and the other elements.
    have hhead : IsUnified (lower category) := lacks_lower (.inr rfl) hname
    have htail : IsUnified (lower (Category.listName (Category.listOf category))) :=
      lacks_lower (.inr rfl) hlist
    simp only [lines, List.forall_mem_cons, isUnified_append, hname, hlist, hvisit, hhead, htail,
      and_true, true_and]
    decide +kernel
  | visitToken name =>
    have hname : IsUnified name := h name List.mem_cons_self
    have hhead := isUnified_valueHead hmodule hname
    simp only [lines, List.forall_mem_cons, isUnified_append, hname, hhead, and_true, true_and]
    decide +kernel
  | visitScalar conversion =>
    simp only [texts, List.forall_mem_cons] at h
    obtain ⟨hcategory, htype, hvalue, -⟩ := h
    have hhead : IsUnified (visitHead conversion.category
        ("_ p" ++ conversion.category ++ ": " ++ module ++ "." ++ conversion.category)
        conversion.type) := by
      refine isUnified_visitHead hcategory ?_ htype
      simp only [isUnified_append, hcategory, hmodule, and_true]
      decide
    simp only [lines, List.forall_mem_cons, isUnified_append, hhead, hvalue, and_true, true_and]
    decide +kernel

end BridgeDeclaration

end SyntaxBridge.Swift
