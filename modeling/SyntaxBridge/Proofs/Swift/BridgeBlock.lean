import SyntaxBridge.Proofs.Swift.SourceLines
import SyntaxBridge.Swift.Bridge

/-!
# The blocks of the bridge

Every declaration of a bridge is written as a block of source, if what stands for a name in it is one
(`BridgeDeclaration.isBlock`). What can stand in a switch is shown line by line, as the labels must
be told apart from the statements below them (`BridgeDeclaration.isSwitchLine_of_mem_caseLines`).
-/

namespace SyntaxBridge.Swift

open Text

variable {name line module argument result category : String} {body : List String}

/-! ## Cases of a switch -/

/-- All names of an argument are names. -/
structure CaseArgument.IsWellNamed (argument : CaseArgument) : Prop where
  visited : IsNameText argument.visited
  label : IsNameText argument.label
  member : IsNameText argument.member

/-- All names of a case with its arguments are names. -/
structure CaseValue.IsWellNamed (value : CaseValue) : Prop where
  name : IsNameText value.name
  arguments : ∀ argument ∈ value.arguments, argument.IsWellNamed

theorem CaseArgument.IsWellNamed.isPlain_text {argument : CaseArgument} (h : argument.IsWellNamed) :
    IsPlain argument.text := by
  obtain ⟨hvisited, hlabel, hmember⟩ := h
  unfold CaseArgument.text
  refine .append (.append (.append (.append (.append (.append ?_ hvisited.isPlain) ?_)
    hlabel.isPlain) ?_) hmember.isPlain) ?_
  all_goals exact isPlain_ofList (by decide)

theorem CaseValue.IsWellNamed.isPlain_text {value : CaseValue} (h : value.IsWellNamed) :
    IsPlain value.text := by
  obtain ⟨hname, harguments⟩ := h
  have hparts : ∀ part ∈ value.arguments.map CaseArgument.text, IsPlain part := by
    intro part hpart
    obtain ⟨argument, hargument, rfl⟩ := List.mem_map.mp hpart
    exact (harguments argument hargument).isPlain_text
  unfold CaseValue.text
  refine .append (.append (isPlain_ofList (by decide)) hname.isPlain) ?_
  split
  · exact isPlain_ofList (by decide)
  · refine .append (.append ?_ (isPlain_intercalate ?_ hparts)) ?_
    all_goals exact isPlain_ofList (by decide)

/-- The lines of a case may stand in a switch. -/
theorem BridgeDeclaration.isSwitchLine_of_mem_caseLines {value : CaseValue}
    (hvalue : value.IsWellNamed) {number : Nat} (h : line ∈ caseLines number value) :
    IsSwitchLine line := by
  rw [caseLines, List.mem_cons, List.mem_singleton] at h
  rcases h with rfl | rfl
  · exact isSwitchLine_case number
  · have hreturn : IsPlain "return " := isPlain_ofList (by decide)
    exact isSwitchLine_of_head? (c := 'r') (hreturn.append hvalue.isPlain_text) (by simp) rfl
      (by decide) (by decide)

/-! ## Heads -/

/-- The type that represents a category in the module of the parser holds no braces. -/
theorem BridgeDeclaration.isPlain_nativeType (hmodule : IsPlain module) (hname : IsNameText name) :
    IsPlain (nativeType module name) := by
  have hquote : IsPlain "`" := isPlain_ofList (by decide)
  unfold nativeType
  refine .append (.append hmodule (isPlain_ofList (by decide))) ?_
  split
  · exact (hquote.append hname.isPlain).append hquote
  · exact hname.isPlain

/-- A function that visits a value is a block. -/
theorem BridgeDeclaration.isBlock_visitHead (hname : IsPlain name) (hargument : IsPlain argument)
    (hresult : IsPlain result) (hbody : IsSource body) :
    IsBlock (visitHead name argument result :: (body ++ ["\x7d"])) := by
  have hfront : IsOrdinaryStart "private func visit" := isOrdinaryStart_ofList (by decide)
  have hopen : IsPlain "(" := isPlain_ofList (by decide)
  have hclose : IsPlain ") -> " := isPlain_ofList (by decide)
  have hend : IsHeadEnd " \x7b" := isHeadEnd_ofList (by decide)
  have hstart := ((((hfront.append hname).append hopen).append hargument).append hclose).append
    hresult
  exact hbody.isBlock_append hstart hend

/-- A function that visits a value of a category is a block. -/
theorem BridgeDeclaration.isBlock_visitValue (hmodule : IsPlain module) (hname : IsNameText name)
    (hresult : IsPlain result) (hbody : IsSource body) :
    IsBlock (visitHead name ("_ pValue: " ++ nativeType module name) result ::
      (body ++ ["\x7d"])) := by
  have hlabel : IsPlain "_ pValue: " := isPlain_ofList (by decide)
  exact isBlock_visitHead hname.isPlain (hlabel.append (isPlain_nativeType hmodule hname)) hresult
    hbody

/-! ## The bridge -/

/-- What stands for a name in a declaration is one. -/
def BridgeDeclaration.IsWellNamed : BridgeDeclaration → Prop
  | imports => True
  | heading title => IsPlain title
  | parseFile category | visitList category => IsNameText category
  | visit name cases => IsNameText name ∧ ∀ value ∈ cases, value.IsWellNamed
  | visitToken name => IsNameText name
  | visitScalar conversion =>
    IsPlain conversion.category ∧ IsPlain conversion.type ∧ IsPlain conversion.value

/-- The lines below the head of a switch may stand there. -/
theorem BridgeDeclaration.isSwitchLine_of_mem {cases : List CaseValue} (hname : IsPlain name)
    (hcases : ∀ value ∈ cases, value.IsWellNamed)
    (h : line ∈ (cases.mapIdx caseLines).flatten ++ ["default:",
      "print(\"Error: bad `kind` field when bridging `" ++ name ++ "` to Swift!\")", "exit(1)"]) :
    IsSwitchLine line := by
  rcases List.mem_append.mp h with h | h
  · obtain ⟨lines, hlines, hline⟩ := List.mem_flatten.mp h
    obtain ⟨number, hnumber, rfl⟩ := List.mem_mapIdx.mp hlines
    exact isSwitchLine_of_mem_caseLines (hcases _ (List.getElem_mem hnumber)) hline
  · -- What is done for a number without a case.
    simp only [List.mem_cons, List.not_mem_nil, or_false] at h
    rcases h with rfl | rfl | rfl
    · exact isSwitchLine_default
    · have hfront : IsPlain "print(\"Error: bad `kind` field when bridging `" :=
        isPlain_ofList (by decide)
      have hback : IsPlain "` to Swift!\")" := isPlain_ofList (by decide)
      exact isSwitchLine_of_head? (c := 'p') ((hfront.append hname).append hback) (by simp) rfl
        (by decide) (by decide)
    · exact isSwitchLine_of_head? (c := 'e') (isPlain_ofList (by decide)) rfl rfl (by decide)
        (by decide)

/-- A function that chooses among cases by number is a block. -/
theorem BridgeDeclaration.isBlock_visit {cases : List CaseValue} (hmodule : IsPlain module)
    (h : (visit name cases).IsWellNamed) : IsBlock (lines module (visit name cases)) := by
  obtain ⟨hname, hcases⟩ := h
  have hvalue : IsPlain "let value = pValue.pointee" := isPlain_ofList (by decide)
  have hswitch := isSource_switch fun line => isSwitchLine_of_mem hname.isPlain hcases
  have hblock := isBlock_visitValue hmodule hname hname.isPlain (hvalue.isSource.append hswitch)
  simpa [lines] using hblock

/-- The function that parses a file is a block. -/
theorem BridgeDeclaration.isBlock_parseFile (hmodule : IsPlain module)
    (h : IsNameText category) : IsBlock (lines module (parseFile category)) := by
  have hvisited := h.listName.isPlain
  -- From the innermost block to the function.
  have hreturn : IsPlain ("return visit" ++ Category.listName category ++ "(cTree)") := by
    exact .append (.append (isPlain_ofList (by decide)) hvisited) (isPlain_ofList (by decide))
  have hparse : IsOrdinaryStart ("if let cTree = " ++ module ++ ".p" ++
      Category.listName category) := by
    refine .append (.append (.append ?_ hmodule) ?_) hvisited
    · exact isOrdinaryStart_ofList (by decide)
    · exact isPlain_ofList (by decide)
  have hopened : IsHeadEnd "(file) \x7b" := isHeadEnd_ofList (by decide)
  have hparsed := hreturn.isSource.block (isBlockHead_append hparse hopened)
  have hdefer : IsPlain "defer " := isPlain_ofList (by decide)
  have hclose : IsPlain " fclose(file) " := isPlain_ofList (by decide)
  have hopen : IsBlockHead "if let file = fopen(path, \"r\") \x7b" :=
    isBlockHead_ofList (by decide)
  have hfile := ((isSource_inline hdefer hclose).append hparsed).block hopen
  have hnil : IsPlain "return nil" := isPlain_ofList (by decide)
  have hfunction : IsOrdinaryStart "public func parseFile(at path: Swift.String) -> " :=
    isOrdinaryStart_ofList (by decide)
  have hend : IsHeadEnd "? \x7b" := isHeadEnd_ofList (by decide)
  exact (hfile.append hnil.isSource).isBlock_append (hfunction.append h.typeName.isPlain) hend

/-- The function that visits a list is a block. -/
theorem BridgeDeclaration.isBlock_visitList (hmodule : IsPlain module)
    (h : IsNameText category) : IsBlock (lines module (visitList category)) := by
  have hcategory := h.isPlain
  have hlist : IsNameText (Category.listName (Category.listOf category)) := h.listOf.listName
  have hunderscore : IsPlain "_" := isPlain_ofList (by decide)
  have hhead := h.lower.isPlain.append hunderscore
  have htail := hlist.lower.isPlain.append hunderscore
  have hempty : IsPlain "return []" := isPlain_ofList (by decide)
  have hguard : IsBlockHead "guard let value = pValue?.pointee else \x7b" :=
    isBlockHead_ofList (by decide)
  have hif : IsOrdinaryStart ("if value." ++ (lower category ++ "_")) :=
    .append (isOrdinaryStart_ofList (by decide)) hhead
  have hnil : IsHeadEnd " == nil \x7b" := isHeadEnd_ofList (by decide)
  have hreturn : IsPlain ("return [visit" ++ category ++ "(value." ++ (lower category ++ "_") ++
      ")] + visit" ++ Category.listName (Category.listOf category) ++ "(value." ++
        (lower (Category.listName (Category.listOf category)) ++ "_") ++ ")") := by
    refine .append (.append (.append (.append (.append (.append (.append (.append ?_ hcategory) ?_)
      hhead) ?_) hlist.isPlain) ?_) htail) ?_
    all_goals exact isPlain_ofList (by decide)
  -- Two early returns for lists that are empty, and one that calls the function again.
  have hbody := (hempty.isSource.block hguard).append
    ((hempty.isSource.block (isBlockHead_append hif hnil)).append hreturn.isSource)
  have hargument : IsPlain ("_ pValue: " ++
      nativeType module (Category.listName (Category.listOf category)) ++ "?") := by
    refine .append (.append ?_ (isPlain_nativeType hmodule hlist)) ?_
    all_goals exact isPlain_ofList (by decide)
  have hresult : IsPlain ("[" ++ typeName category ++ "]") := by
    refine .append (.append ?_ h.typeName.isPlain) ?_
    all_goals exact isPlain_ofList (by decide)
  exact isBlock_visitHead hlist.isPlain hargument hresult hbody

/-- A declaration of a bridge is a block. -/
theorem BridgeDeclaration.isBlock {declaration : BridgeDeclaration} (hmodule : IsPlain module)
    (h : declaration.IsWellNamed) : IsBlock (declaration.lines module) := by
  have hreturn : IsPlain "return " := isPlain_ofList (by decide)
  cases declaration with
  | imports =>
    have hfoundation : IsPlain "import Foundation" := isPlain_ofList (by decide)
    have himport : IsPlain "import " := isPlain_ofList (by decide)
    refine isBlock_of_plain (List.forall_mem_cons.mpr ⟨hfoundation, ?_⟩) rfl (by simp)
    exact List.forall_mem_singleton.mpr (himport.append hmodule)
  | heading title => exact isBlock_heading h
  | parseFile category => exact isBlock_parseFile hmodule h
  | visit name cases => exact isBlock_visit hmodule h
  | visitList category => exact isBlock_visitList hmodule h
  | visitToken name =>
    have hname : IsNameText name := h
    have htoken : IsPlain ("return " ++ name ++ "(String(cString: pValue))") :=
      (hreturn.append hname.isPlain).append (isPlain_ofList (by decide))
    exact isBlock_visitValue hmodule hname hname.isPlain htoken.isSource
  | visitScalar conversion =>
    obtain ⟨hcategory, htype, hvalue⟩ := h
    have hargument : IsPlain ("_ p" ++ conversion.category ++ ": " ++ module ++ "." ++
        conversion.category) := by
      refine .append (.append (.append (.append (.append ?_ hcategory) ?_) hmodule) ?_) hcategory
      all_goals exact isPlain_ofList (by decide)
    exact isBlock_visitHead hcategory hargument htype (hreturn.append hvalue).isSource

end SyntaxBridge.Swift
