import Mathlib
import SyntaxBridge.Proofs.Swift.AbstractSyntaxBlock
import SyntaxBridge.Proofs.Swift.BlockLayout
import SyntaxBridge.Proofs.Swift.Bridge
import SyntaxBridge.Proofs.Swift.BridgeBlock
import SyntaxBridge.Proofs.Swift.Known
import SyntaxBridge.Swift.Sources

/-!
# The layout of the generated sources

Where the names of a grammar are identifiers, every declaration that is generated from it is a block
(`isWellNamed_of_mem_abstractSyntax`, `isWellNamed_of_mem_bridge`), and so both generated sources
are well indented (`exists_wellIndented_generateSources`).
-/

namespace SyntaxBridge.Swift

open Text

variable {rules : List Rule} {extra : ExtraCases} {policy : BoxPolicy} {grammar : Grammar}
  {group : Group} {category module : String}

/-- All names of a grammar are identifiers, those of list categories in brackets, and the cases that
were added by hand do not disturb the lines around them. -/
structure HasIdentifiers (grammar : Grammar) : Prop where
  /-- Declared categories are named by identifiers. -/
  names : ∀ group ∈ grammar.groups, IsAsciiIdentifier group.name
  /-- Alternatives are labelled by identifiers. -/
  labels : ∀ group ∈ grammar.groups, ∀ rule ∈ group.members.constructors,
    IsAsciiIdentifier rule.label
  /-- Parts of alternatives and entrypoints are identifiers, or identifiers in brackets. -/
  elements : ∀ element ∈ references grammar.rules, IsAsciiIdentifier element ∨
    ∃ name, IsAsciiIdentifier name ∧ element = Category.listOf name
  /-- Cases that were added by hand hold no braces and no line feeds, and do not end in a colon. -/
  extraCases : ∀ group ∈ grammar.groups, ∀ text ∈ group.extraCases, IsExtraCase text

/-! ## Names -/

/-- What is referred to is a name. -/
theorem HasIdentifiers.isNameText_of_mem_references (hnames : HasIdentifiers grammar)
    (hmem : category ∈ references grammar.rules) : IsNameText category := by
  rcases hnames.elements category hmem with hname | ⟨name, hname, rfl⟩
  · exact isNameText_of_isAsciiIdentifier hname
  · exact (isNameText_of_isAsciiIdentifier hname).listOf

/-- Declared categories are named by names. -/
theorem HasIdentifiers.isNameText_name (hnames : HasIdentifiers grammar)
    (hgroup : group ∈ grammar.groups) : IsNameText group.name :=
  isNameText_of_isAsciiIdentifier (hnames.names group hgroup)

/-- The elements of the lists that are used are named by names. -/
theorem HasIdentifiers.isNameText_of_mem_listTypes (hnames : HasIdentifiers grammar)
    (h : analyze rules extra policy = .ok grammar) (hmem : category ∈ grammar.listTypes) :
    IsNameText category := by
  obtain ⟨hne, hreference⟩ := (mem_listTypes_iff_of_analyze h).mp hmem
  exact (hnames.isNameText_of_mem_references hreference).of_element?
    (Category.element?_eq_some_iff.mpr ⟨hne, rfl⟩)

/-- Entrypoints are named by names. -/
theorem HasIdentifiers.isNameText_of_mem_entrypoints (hnames : HasIdentifiers grammar)
    (h : analyze rules extra policy = .ok grammar) (hmem : category ∈ grammar.entrypoints) :
    IsNameText category := by
  rcases mem_references_or_names_of_mem_entrypoints h hmem with hmem | hmem
  · exact hnames.isNameText_of_mem_references hmem
  · obtain ⟨group, hgroup, rfl⟩ := List.mem_map.mp hmem
    exact hnames.isNameText_name hgroup

/-! ## Alternatives -/

/-- The case of an alternative is well named. -/
theorem HasIdentifiers.isWellNamed_enumCase (hnames : HasIdentifiers grammar)
    (h : analyze rules extra policy = .ok grammar) (hgroup : group ∈ grammar.groups)
    {rule : Constructor} (hrule : rule ∈ group.members.constructors) :
    (EnumCase.ofConstructor group.name rule).IsWellNamed where
  name := isNameText_caseName _
    (isNameText_of_isAsciiIdentifier (hnames.labels group hgroup rule hrule))
  payload type htype := by
    obtain ⟨part, hpart, rfl⟩ := List.mem_map.mp htype
    have hreference := mem_references_of_mem_construction h hgroup hrule hpart
    exact (hnames.isNameText_of_mem_references hreference).typeName

/-- The value that an alternative is turned into is well named. -/
theorem HasIdentifiers.isWellNamed_caseValue (hnames : HasIdentifiers grammar)
    (h : analyze rules extra policy = .ok grammar) (hgroup : group ∈ grammar.groups)
    {rule : Constructor} (hrule : rule ∈ group.members.constructors) :
    (CaseValue.ofConstructor group.name rule).IsWellNamed := by
  have hlabel : IsNameText rule.label :=
    isNameText_of_isAsciiIdentifier (hnames.labels group hgroup rule hrule)
  have hpart : ∀ part ∈ rule.construction, IsNameText part := fun part hpart =>
    hnames.isNameText_of_mem_references (mem_references_of_mem_construction h hgroup hrule hpart)
  refine ⟨isNameText_caseName _ hlabel, fun argument hargument => ?_⟩
  -- The parts and the members that hold them are numbered alike.
  obtain ⟨index, hindex, rfl⟩ := List.mem_iff_getElem.mp hargument
  have hlength : index < rule.construction.length := by
    simpa [CaseValue.ofConstructor, memberNames] using hindex
  have hname := hpart _ (List.getElem_mem hlength)
  simp only [CaseValue.ofConstructor, List.getElem_zipWith, memberNames, List.getElem_mapIdx]
  exact ⟨hname.listName, hlabel.lower, isNameText_memberName _ _ hname⟩

/-! ## Declarations -/

/-- The declaration of a category is well named. -/
theorem HasIdentifiers.isWellNamed_ofGroup (hnames : HasIdentifiers grammar)
    (h : analyze rules extra policy = .ok grammar) (hgroup : group ∈ grammar.groups) :
    (AbstractDeclaration.ofGroup group).IsWellNamed := by
  have hname := hnames.isNameText_name hgroup
  have hcases {rule : Constructor} (hrule : rule ∈ group.members.constructors) :=
    hnames.isWellNamed_enumCase h hgroup hrule
  rw [AbstractDeclaration.ofGroup]
  cases hmembers : group.members with
  | token token => exact hname
  | alternatives alternatives =>
    rw [hmembers] at hcases
    refine ⟨hname, fun enumCase hcase => ?_, hnames.extraCases group hgroup⟩
    obtain ⟨rule, hrule, rfl⟩ := List.mem_map.mp hcase
    exact hcases hrule

open AbstractDeclaration in
/-- The declarations of the abstract syntax are well named. -/
theorem HasIdentifiers.isWellNamed_of_mem_abstractSyntax (hnames : HasIdentifiers grammar)
    (h : analyze rules extra policy = .ok grammar) :
    ∀ declaration ∈ abstractSyntax grammar, declaration.IsWellNamed := by
  have htitle : ∀ title ∈ ["Lists", "Tokens", "Custom printing", "Token helpers"],
      (heading title).IsWellNamed := by
    simp only [List.forall_mem_cons, AbstractDeclaration.IsWellNamed]
    exact ⟨isPlain_ofList (by decide), isPlain_ofList (by decide), isPlain_ofList (by decide),
      isPlain_ofList (by decide), List.forall_mem_nil _⟩
  refine forall_mem_abstractSyntax ?_ (fun hne => ⟨hne, ?_⟩) fun group hgroup => ?_
  · simp only [List.forall_mem_cons, List.not_mem_nil, false_implies, implies_true, and_true]
    exact ⟨trivial, htitle _ (by simp), htitle _ (by simp), htitle _ (by simp), trivial, trivial,
      htitle _ (by simp)⟩
  · exact fun category hmem => hnames.isNameText_of_mem_listTypes h hmem
  · have hname := hnames.isNameText_name hgroup
    simp only [List.forall_mem_cons, List.not_mem_nil, false_implies, implies_true, and_true]
    exact ⟨hnames.isWellNamed_ofGroup h hgroup, hname, hname, hname, hname⟩

open BridgeDeclaration in
/-- The declarations of the bridge are well named. -/
theorem HasIdentifiers.isWellNamed_of_mem_bridge (hnames : HasIdentifiers grammar)
    (h : analyze rules extra policy = .ok grammar) :
    ∀ declaration ∈ bridge grammar, declaration.IsWellNamed := by
  have htitle : ∀ title ∈ ["C to Swift mapping", "Lists", "Tokens", "Default types"],
      (heading title).IsWellNamed := by
    simp only [List.forall_mem_cons, BridgeDeclaration.IsWellNamed]
    exact ⟨isPlain_ofList (by decide), isPlain_ofList (by decide), isPlain_ofList (by decide),
      isPlain_ofList (by decide), List.forall_mem_nil _⟩
  have hscalars : ∀ conversion ∈ scalarConversions, (visitScalar conversion).IsWellNamed := by
    simp only [scalarConversions, List.forall_mem_cons, BridgeDeclaration.IsWellNamed]
    refine ⟨⟨?_, ?_, ?_⟩, ⟨?_, ?_, ?_⟩, ⟨?_, ?_, ?_⟩, ⟨?_, ?_, ?_⟩, List.forall_mem_nil _⟩
    all_goals exact isPlain_ofList (by decide)
  refine forall_mem_bridge (List.forall_mem_append.mpr ⟨?_, List.forall_mem_map.mpr hscalars⟩) ?_ ?_
    fun group hgroup => ⟨⟨hnames.isNameText_name hgroup, fun value hvalue => ?_⟩,
      hnames.isNameText_name hgroup⟩
  · exact List.forall_mem_cons.mpr ⟨trivial, List.forall_mem_map.mpr htitle⟩
  · exact fun category hmem => hnames.isNameText_of_mem_entrypoints h hmem
  · exact fun category hmem => hnames.isNameText_of_mem_listTypes h hmem
  · obtain ⟨rule, hrule, rfl⟩ := List.mem_map.mp hvalue
    exact hnames.isWellNamed_caseValue h hgroup hrule

/-! ## Sources -/

/-- The depth behind lines is the number of braces that they open less those that they close, and
the two sources that are generated from a grammar with identifiers for names are well indented. -/
theorem exists_wellIndented_generateSources (h : analyze rules extra policy = .ok grammar)
    (hnames : HasIdentifiers grammar) (hmodule : IsAsciiIdentifier module) (grammarName : String) :
    (∀ lines : List (List Char), lines.foldl depthAfter 0 =
      (lines.flatten.count '\x7b' : Int) - lines.flatten.count '\x7d') ∧
    ∃ abstractText bridgeText,
      generateSources grammar module grammarName =
        some [⟨abstractSyntaxFile, header abstractSyntaxFile grammarName ++ abstractText⟩,
          ⟨bridgeFile module, header (bridgeFile module) grammarName ++ bridgeText⟩] ∧
      WellIndented ((abstractSyntax grammar).map AbstractDeclaration.lines) abstractText ∧
      WellIndented ((bridge grammar).map (BridgeDeclaration.lines module)) bridgeText := by
  refine ⟨fun lines => ?_, pretty (abstractSyntaxSource grammar),
    pretty (bridgeSource grammar module), ?_, ?_, ?_⟩
  · rw [foldl_depthAfter, Int.zero_add, braceChange]
  · have hmodule : module.isEmpty = false := by simpa using hmodule.ne_empty
    rw [generateSources, bridgeSource?, hmodule]
    rfl
  · refine wellIndented_pretty (List.forall_mem_map.mpr fun declaration hdeclaration => ?_)
    exact AbstractDeclaration.isBlock
      (hnames.isWellNamed_of_mem_abstractSyntax h declaration hdeclaration)
  · refine wellIndented_pretty (List.forall_mem_map.mpr fun declaration hdeclaration => ?_)
    exact BridgeDeclaration.isBlock (isNameText_of_isAsciiIdentifier hmodule).isPlain
      (hnames.isWellNamed_of_mem_bridge h declaration hdeclaration)

/-- The sources of a grammar with a token, a list, and a case that was added by hand are well
indented. -/
theorem wellIndented_call :
    ∃ grammar abstractText bridgeText,
      analyze [.constructor ⟨"ECall", "Exp", ["Name", "[Exp]"], .unknown⟩, .token ⟨"Name", .unknown⟩]
        [("Exp", ["hole(String)"])] .cycles = .ok grammar ∧
      grammar.listTypes = ["Exp"] ∧
      generateSources grammar "CGrammar" "Calls.cf" =
        some [⟨abstractSyntaxFile, header abstractSyntaxFile "Calls.cf" ++ abstractText⟩,
          ⟨bridgeFile "CGrammar", header (bridgeFile "CGrammar") "Calls.cf" ++ bridgeText⟩] ∧
      WellIndented ((abstractSyntax grammar).map AbstractDeclaration.lines) abstractText ∧
      WellIndented ((bridge grammar).map (BridgeDeclaration.lines "CGrammar")) bridgeText := by
  let grammar : Grammar := {
    rules := [.constructor ⟨"ECall", "Exp", ["Name", "[Exp]"], .unknown⟩, .token ⟨"Name", .unknown⟩]
    groups := [⟨"Exp", .alternatives [⟨"ECall", "Exp", ["Name", "[Exp]"], .unknown⟩], false,
        ["hole(String)"]⟩,
      ⟨"Name", .token ⟨"Name", .unknown⟩, false, []⟩]
    listTypes := ["Exp"]
    entrypoints := ["Exp"] }
  have h : analyze grammar.rules [("Exp", ["hole(String)"])] .cycles = .ok grammar := by cbv
  have hexp : IsAsciiIdentifier "Exp" := ⟨'E', "xp".toList, rfl, rfl, by decide⟩
  have hname : IsAsciiIdentifier "Name" := ⟨'N', "ame".toList, rfl, rfl, by decide⟩
  have hlabel : IsAsciiIdentifier "ECall" := ⟨'E', "Call".toList, rfl, rfl, by decide⟩
  have hmodule : IsAsciiIdentifier "CGrammar" := ⟨'C', "Grammar".toList, rfl, rfl, by decide⟩
  have hextra : IsExtraCase "hole(String)" := by decide
  have hlist : "[Exp]" = Category.listOf "Exp" := rfl
  have hnames : HasIdentifiers grammar :=
    { names := by simp [grammar, hexp, hname]
      labels := by simp [grammar, Members.constructors, hlabel]
      elements := by
        have hreferences : references grammar.rules = ["Name", "[Exp]"] := rfl
        rw [hreferences]
        exact List.forall_mem_cons.mpr ⟨.inl hname,
          List.forall_mem_singleton.mpr (.inr ⟨"Exp", hexp, hlist⟩)⟩
      extraCases := by simp [grammar, hextra] }
  obtain ⟨-, abstractText, bridgeText, hsources, habstract, hbridge⟩ :=
    exists_wellIndented_generateSources h hnames hmodule "Calls.cf"
  exact ⟨grammar, abstractText, bridgeText, h, rfl, hsources, habstract, hbridge⟩

end SyntaxBridge.Swift
