import SyntaxBridge.Proofs.Swift.AbstractSyntax
import SyntaxBridge.Proofs.Swift.SourceLines

/-!
# The blocks of the abstract syntax

Every declaration of the abstract syntax is written as a block of source, if what stands for a name
in it is one and no case that was added by hand is mistaken for something else
(`AbstractDeclaration.isBlock`). The proofs follow the braces: the innermost lines come first.
-/

namespace SyntaxBridge.Swift

open Text

variable {name line text category : String}

/-! ## Cases of enumerations -/

/-- A case that was added by hand does not disturb the lines around it. -/
def IsExtraCase (text : String) : Prop :=
  IsPlain text ∧ (trim text.toList).getLast? ≠ some ':'

instance (text : String) : Decidable (IsExtraCase text) :=
  inferInstanceAs (Decidable (_ ∧ _))

/-- All names of a case are names. -/
structure EnumCase.IsWellNamed (enumCase : EnumCase) : Prop where
  name : IsNameText enumCase.name
  payload : ∀ type ∈ enumCase.payload, IsNameText type

/-- A line without colons does not end in one. -/
theorem getLast?_trim_ne {c : Char} (h : c ∉ line.toList) : (trim line.toList).getLast? ≠ some c :=
  fun hlast => h ((trim_sublist _).subset (List.mem_of_getLast? hlast))

/-- The line of a case may stand in an enumeration. -/
theorem EnumCase.IsWellNamed.isCaseLine_line {enumCase : EnumCase} (h : enumCase.IsWellNamed) :
    IsCaseLine enumCase.line := by
  obtain ⟨hname, hpayload⟩ := h
  have htypes : IsPlain (", ".intercalate enumCase.payload) :=
    isPlain_intercalate (by decide) fun type htype => (hpayload type htype).isPlain
  have hplain : IsPlain ("case " ++ enumCase.name) := .append (by decide) hname.isPlain
  rw [line]
  split
  -- Without types, the line ends in the name, which holds no colon.
  · refine isCaseLine_of_getLast? (hplain.append (by decide)) (by simp) ?_
    refine getLast?_trim_ne ?_
    have hcolon : ':' ∉ enumCase.name.toList := hname.notMem rfl
    simpa using hcolon
  · have htuple : IsPlain ("(" ++ ", ".intercalate enumCase.payload ++ ")") :=
      (IsPlain.append (by decide) htypes).append (by decide)
    refine isCaseLine_of_getLast? (hplain.append htuple) (by simp) ?_
    have hlast : ("case " ++ enumCase.name ++
        ("(" ++ ", ".intercalate enumCase.payload ++ ")")).toList.getLast? = some ')' := by
      rw [← String.append_assoc, String.toList_append]
      exact List.getLast?_concat
    rw [getLast?_trim hlast rfl]
    decide

/-- The line of a case that was added by hand may stand in an enumeration. -/
theorem isCaseLine_extraCaseLine (h : IsExtraCase text) : IsCaseLine (extraCaseLine text) := by
  obtain ⟨hplain, hlast⟩ := h
  have hbare : IsPlain (String.ofList (trim text.toList)) := by
    intro c hc
    rw [String.toList_ofList] at hc
    exact hplain c ((trim_sublist _).subset hc)
  rw [extraCaseLine]
  split
  next hcase =>
    obtain ⟨rest, hrest⟩ := List.isPrefixOf_iff_prefix.mp hcase
    refine isCaseLine_of_getLast? hbare ?_ ?_
    · rw [String.toList_ofList, ← hrest]
      rfl
    · rwa [String.toList_ofList, trim_trim]
  next =>
    refine isCaseLine_of_getLast? (.append (isPlain_ofList (by decide)) hbare) (by simp) ?_
    rw [String.toList_append, String.toList_ofList (l := trim text.toList)]
    cases hend : (trim text.toList).getLast? with
    -- Nothing is left of the text.
    | none =>
      rw [List.getLast?_eq_none_iff.mp hend]
      decide
    | some c =>
      have hback : ("case ".toList ++ trim text.toList).getLast? = some c := by
        rw [List.getLast?_append, hend]
        rfl
      rwa [getLast?_trim hback ((isBare_trim _).last c hend), ← hend]

/-- The lines between the braces of an enumeration may stand there. -/
theorem AbstractDeclaration.isCaseLine_of_mem_caseLines {cases : List EnumCase}
    {extraCases : List String} (hcases : ∀ enumCase ∈ cases, enumCase.IsWellNamed)
    (hextra : ∀ text ∈ extraCases, IsExtraCase text) (h : line ∈ caseLines cases extraCases) :
    IsCaseLine line := by
  have hdeclared (hmem : line ∈ cases.map EnumCase.line) : IsCaseLine line := by
    obtain ⟨enumCase, hcase, rfl⟩ := List.mem_map.mp hmem
    exact (hcases enumCase hcase).isCaseLine_line
  rw [caseLines] at h
  split at h
  · exact hdeclared h
  rcases List.mem_append.mp h with h | h
  · exact hdeclared h
  rcases List.mem_cons.mp h with rfl | h
  · exact ⟨by decide, by decide, by decide⟩
  · obtain ⟨text, htext, rfl⟩ := exists_of_mem_extraCaseLines h
    exact isCaseLine_extraCaseLine (hextra text htext)

/-! ## The abstract syntax -/

/-- What stands for a name in a declaration is one, and the cases that were added by hand do not
disturb the others. -/
def AbstractDeclaration.IsWellNamed : AbstractDeclaration → Prop
  | foundation | printing | defaultPrinting => True
  | heading title => IsPlain title
  | enumeration name _ cases extraCases => IsNameText name ∧
      (∀ enumCase ∈ cases, enumCase.IsWellNamed) ∧ ∀ text ∈ extraCases, IsExtraCase text
  | listNames categories => categories ≠ [] ∧ ∀ category ∈ categories, IsNameText category
  | word name | printable name _ | description name | equality name | hashing name =>
    IsNameText name

/-- The line that names the lists of a category is plain. -/
theorem AbstractDeclaration.isPlain_listNameLine (h : IsNameText category) :
    IsPlain (listNameLine category) := by
  unfold listNameLine
  exact (((IsPlain.append (by decide) h.listOf.listName.isPlain).append (by decide)).append
    h.typeName.isPlain).append (by decide)

/-- The names for lists of categories are a block, if there are any. -/
theorem AbstractDeclaration.isBlock_listNames {categories : List String}
    (h : (listNames categories).IsWellNamed) : IsBlock (listNames categories).lines := by
  obtain ⟨hne, hnames⟩ := h
  obtain ⟨init, last, hinit⟩ := (List.eq_nil_or_concat categories).resolve_left hne
  rw [List.concat_eq_append] at hinit
  have hlast : (categories.map listNameLine).getLast? = some (listNameLine last) := by
    rw [hinit, List.map_append]
    exact List.getLast?_concat
  refine isBlock_of_plain (List.forall_mem_map.mpr fun category hcategory => ?_) hlast ?_
  · exact isPlain_listNameLine (hnames category hcategory)
  · unfold listNameLine
    simp

/-- The head of an enumeration ends in its brace. -/
theorem isHeadEnd_append (h : IsPlain text) : IsHeadEnd (text ++ " \x7b") := by
  have hends : (text ++ " \x7b").toList = text.toList ++ [' '] ++ ['\x7b'] := by simp
  rw [IsHeadEnd, hends, List.getLast?_concat, List.dropLast_concat]
  exact ⟨rfl, List.forall_mem_append.mpr ⟨h, List.forall_mem_singleton.mpr rfl⟩⟩

/-- An enumeration is a block. -/
theorem AbstractDeclaration.isBlock_enumeration {boxed : Bool} {cases : List EnumCase}
    {extraCases : List String} (h : (enumeration name boxed cases extraCases).IsWellNamed) :
    IsBlock (enumeration name boxed cases extraCases).lines := by
  obtain ⟨hname, hcases, hextra⟩ := h
  have hprefix : IsPlain (if boxed then "indirect " else "") := by cases boxed <;> decide
  have hhead : IsPlain ("public " ++ (if boxed then "indirect " else "") ++ "enum " ++ name) :=
    ((IsPlain.append (by decide) hprefix).append (by decide)).append hname.isPlain
  exact (isSource_enum (isHeadEnd_append hhead) (by simp) fun line =>
    isCaseLine_of_mem_caseLines hcases hextra).isBlock

/-- The name of the protocol of what can be printed is a name. -/
theorem AbstractDeclaration.isPlain_printingProtocol : IsPlain printingProtocol := by
  unfold printingProtocol
  exact isPlain_ofList (by decide)

/-- A declaration of the abstract syntax is a block. -/
theorem AbstractDeclaration.isBlock {declaration : AbstractDeclaration}
    (h : declaration.IsWellNamed) : IsBlock declaration.lines := by
  have hextension : IsOrdinaryStart "extension " := isOrdinaryStart_ofList (by decide)
  have hopen : IsHeadEnd " \x7b" := isHeadEnd_ofList (by decide)
  have hshow : IsBlockHead "public func show() -> String \x7b" := isBlockHead_ofList (by decide)
  cases declaration with
  | foundation =>
    have himport : IsPlain "import Foundation" := isPlain_ofList (by decide)
    exact isBlock_of_plain (List.forall_mem_singleton.mpr himport) rfl (by decide)
  | heading title => exact isBlock_heading h
  | enumeration name boxed cases extraCases => exact isBlock_enumeration h
  | listNames categories => exact isBlock_listNames h
  | word name =>
    have hlet : IsPlain "public let value: String" := isPlain_ofList (by decide)
    have hempty : IsPlain "" := isPlain_ofList (by decide)
    have hset : IsPlain "self.value = value" := isPlain_ofList (by decide)
    have hinit : IsBlockHead "public init(_ value: String) \x7b" := isBlockHead_ofList (by decide)
    have hstruct : IsOrdinaryStart "public struct " := isOrdinaryStart_ofList (by decide)
    have hbody := hlet.isSource.append (hempty.isSource.append (hset.isSource.block hinit))
    exact hbody.isBlock_append (hstruct.append (IsNameText.isPlain h)) hopen
  | printing =>
    have hprotocol : IsOrdinaryStart "public protocol " := isOrdinaryStart_ofList (by decide)
    have hfunc : IsPlain "func show() -> String" := isPlain_ofList (by decide)
    exact hfunc.isSource.isBlock_append (hprotocol.append isPlain_printingProtocol) hopen
  | defaultPrinting =>
    have hdescription : IsPlain "let description = String(reflecting: self)" :=
      isPlain_ofList (by decide)
    have hmodule : IsPlain
        "let moduleName = description.components(separatedBy: \".\").first!" :=
      isPlain_ofList (by decide)
    have hreturn : IsPlain
        "return description.replacingOccurrences(of: \"\\(moduleName).\", with: \"\")" :=
      isPlain_ofList (by decide)
    have hbody := hdescription.isSource.append (hmodule.isSource.append hreturn.isSource)
    exact (hbody.block hshow).isBlock_append (hextension.append isPlain_printingProtocol) hopen
  | printable name isToken =>
    have hcolon : IsPlain ": " := isPlain_ofList (by decide)
    have hstart := ((hextension.append (IsNameText.isPlain h)).append hcolon).append
      isPlain_printingProtocol
    have hreturn : IsPlain "return description" := isPlain_ofList (by decide)
    have hbody : IsSource (if isToken then ["public func show() -> String \x7b",
        "return description", "\x7d"] else []) := by
      split
      · exact hreturn.isSource.block hshow
      · exact isSource_of_plain (List.forall_mem_nil _)
    exact hbody.isBlock_append hstart hopen
  | description name =>
    have hend : IsHeadEnd ": CustomStringConvertible \x7b" := isHeadEnd_ofList (by decide)
    have hfront : IsPlain "public var description: String " := isPlain_ofList (by decide)
    have hinner : IsPlain
        " return \"\\(type(of: self))(\\(String(reflecting: value)))\" " :=
      isPlain_ofList (by decide)
    exact (isSource_inline hfront hinner).isBlock_append
      (hextension.append (IsNameText.isPlain h)) hend
  | equality name =>
    have hname : IsPlain name := IsNameText.isPlain h
    have hend : IsHeadEnd ": Equatable \x7b" := isHeadEnd_ofList (by decide)
    have hfront : IsOrdinaryStart "public static func ==(lhs: " :=
      isOrdinaryStart_ofList (by decide)
    have hmiddle : IsPlain ", rhs: " := isPlain_ofList (by decide)
    have hresult : IsHeadEnd ") -> Bool \x7b" := isHeadEnd_ofList (by decide)
    have hhead := isBlockHead_append (((hfront.append hname).append hmiddle).append hname) hresult
    have hcompare : IsPlain "return lhs.value == rhs.value" := isPlain_ofList (by decide)
    exact (hcompare.isSource.block hhead).isBlock_append (hextension.append hname) hend
  | hashing name =>
    have hend : IsHeadEnd ": Hashable \x7b" := isHeadEnd_ofList (by decide)
    have hhead : IsBlockHead "public func hash(into hasher: inout Hasher) \x7b" :=
      isBlockHead_ofList (by decide)
    have hcombine : IsPlain "hasher.combine(value)" := isPlain_ofList (by decide)
    exact (hcombine.isSource.block hhead).isBlock_append
      (hextension.append (IsNameText.isPlain h)) hend

end SyntaxBridge.Swift
