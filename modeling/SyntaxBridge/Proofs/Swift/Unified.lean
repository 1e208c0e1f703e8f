import SyntaxBridge.Proofs.Swift.Block
import SyntaxBridge.Proofs.Swift.Bridge
import SyntaxBridge.Proofs.Swift.Known
import SyntaxBridge.Proofs.Swift.UnifiedLines
import SyntaxBridge.Swift.Sources

/-!
# Sources without carriage returns

No carriage return stands in the sources of a grammar whose names hold none
(`HasUnifiedNames.isUnified_of_generateSources`), and the names of a grammar that was analysed are
those of its rules, and what was added by hand (`hasUnifiedNames_of_analyze`).
-/

namespace SyntaxBridge.Swift

open Text

variable {rules : List Rule} {extra : ExtraCases} {policy : BoxPolicy} {grammar : Grammar}
  {group : Group} {rule : Constructor} {category module grammarName : String}

/-- No carriage return stands in the names of a grammar, or in the cases that were added by hand. -/
structure HasUnifiedNames (grammar : Grammar) : Prop where
  /-- Names of declared categories. -/
  names : ∀ group ∈ grammar.groups, IsUnified group.name
  /-- Labels of alternatives. -/
  labels : ∀ group ∈ grammar.groups, ∀ rule ∈ group.members.constructors, IsUnified rule.label
  /-- Parts of alternatives and entrypoints. -/
  elements : ∀ element ∈ references grammar.rules, IsUnified element
  /-- Cases that were added by hand. -/
  extraCases : ∀ group ∈ grammar.groups, ∀ text ∈ group.extraCases, IsUnified text

/-- The names of an analysed grammar are those of its rules. -/
theorem hasUnifiedNames_of_analyze (h : analyze rules extra policy = .ok grammar)
    (hrules : ∀ rule ∈ rules, rule.IsUnified)
    (hextra : ∀ entry ∈ extra, ∀ text ∈ entry.2, IsUnified text) : HasUnifiedNames grammar where
  names group hgroup := by
    have hname : group.name ∈ grammar.groups.map (·.name) := List.mem_map_of_mem hgroup
    obtain ⟨rule, hrule, htype⟩ := (isPartition_of_analyze h).mem_names group.name |>.mp hname
    exact (hrules rule hrule).type htype
  labels group hgroup rule hrule :=
    hrules _ (constructor_mem_of_analyze h hgroup hrule) rule.label List.mem_cons_self
  elements element helement := by
    rw [rules_of_analyze h] at helement
    obtain ⟨rule, hrule, hmem⟩ := List.mem_flatMap.mp helement
    exact (hrules rule hrule).reference hmem
  extraCases group hgroup := by
    rw [extraCases_of_analyze h hgroup]
    cases hlookup : extra.lookup group.name with
    | none => exact List.forall_mem_nil _
    | some cases =>
      obtain ⟨before, after, hentries, -⟩ := List.lookup_eq_some_iff.mp hlookup
      exact hextra (group.name, cases) (by simp [hentries])

namespace HasUnifiedNames

/-! ## Texts of declarations -/

/-- The elements of the lists that are used hold no carriage return. -/
theorem isUnified_of_mem_listTypes (hnames : HasUnifiedNames grammar)
    (h : analyze rules extra policy = .ok grammar) (hmem : category ∈ grammar.listTypes) :
    IsUnified category := by
  obtain ⟨hne, hreference⟩ := (mem_listTypes_iff_of_analyze h).mp hmem
  exact lacks_of_element? (hnames.elements _ hreference)
    (Category.element?_eq_some_iff.mpr ⟨hne, rfl⟩)

/-- Entrypoints hold no carriage return. -/
theorem isUnified_of_mem_entrypoints (hnames : HasUnifiedNames grammar)
    (h : analyze rules extra policy = .ok grammar) (hmem : category ∈ grammar.entrypoints) :
    IsUnified category := by
  rcases mem_references_or_names_of_mem_entrypoints h hmem with hmem | hmem
  · exact hnames.elements category hmem
  · obtain ⟨group, hgroup, rfl⟩ := List.mem_map.mp hmem
    exact hnames.names group hgroup

/-- The parts of alternatives hold no carriage return. -/
theorem isUnified_of_mem_construction (hnames : HasUnifiedNames grammar)
    (h : analyze rules extra policy = .ok grammar) (hgroup : group ∈ grammar.groups)
    (hrule : rule ∈ group.members.constructors) (hmem : category ∈ rule.construction) :
    IsUnified category :=
  hnames.elements category (mem_references_of_mem_construction h hgroup hrule hmem)

/-- The texts of the value that an alternative is turned into hold no carriage return. -/
theorem isUnified_caseValue (hnames : HasUnifiedNames grammar)
    (h : analyze rules extra policy = .ok grammar) (hgroup : group ∈ grammar.groups)
    (hrule : rule ∈ group.members.constructors) :
    ∀ text ∈ (CaseValue.ofConstructor group.name rule).texts, IsUnified text := by
  have hlabel := hnames.labels group hgroup rule hrule
  refine List.forall_mem_cons.mpr ⟨lacks_caseName (.inr rfl) _ hlabel, fun text htext => ?_⟩
  obtain ⟨argument, hargument, htext⟩ := List.mem_flatMap.mp htext
  -- The parts and the members that hold them are numbered alike.
  obtain ⟨index, hindex, rfl⟩ := List.mem_iff_getElem.mp hargument
  have hlength : index < rule.construction.length := by
    simpa [CaseValue.ofConstructor, memberNames] using hindex
  have hpart := hnames.isUnified_of_mem_construction h hgroup hrule (List.getElem_mem hlength)
  simp only [CaseValue.ofConstructor, List.getElem_zipWith, memberNames, List.getElem_mapIdx,
    CaseArgument.texts, List.mem_cons, List.not_mem_nil, or_false] at htext
  rcases htext with rfl | rfl | rfl
  · exact lacks_listName (.inr rfl) hpart
  · exact lacks_lower (.inr rfl) hlabel
  · exact lacks_memberName (.inr rfl) _ _ hpart

/-- The names that the abstract syntax is written from hold no carriage return. -/
theorem namesLack (hnames : HasUnifiedNames grammar)
    (h : analyze rules extra policy = .ok grammar) : NamesLack '\r' grammar where
  names := hnames.names
  labels := hnames.labels
  parts _ hgroup _ hrule _ hpart := hnames.isUnified_of_mem_construction h hgroup hrule hpart
  listTypes _ hmem := hnames.isUnified_of_mem_listTypes h hmem
  extraCases := hnames.extraCases

/-- The texts of the declarations of the bridge hold no carriage return. -/
theorem isUnified_bridge (hnames : HasUnifiedNames grammar)
    (h : analyze rules extra policy = .ok grammar) :
    ∀ declaration ∈ bridge grammar, ∀ text ∈ declaration.texts, IsUnified text := by
  refine forall_mem_bridge (by decide +kernel) ?_ ?_ fun group hgroup => ⟨?_, ?_⟩
  · exact fun category hmem => List.forall_mem_singleton.mpr
      (hnames.isUnified_of_mem_entrypoints h hmem)
  · exact fun category hmem => List.forall_mem_singleton.mpr
      (hnames.isUnified_of_mem_listTypes h hmem)
  · refine List.forall_mem_cons.mpr ⟨hnames.names group hgroup, fun text htext => ?_⟩
    obtain ⟨value, hvalue, htext⟩ := List.mem_flatMap.mp htext
    obtain ⟨rule, hrule, rfl⟩ := List.mem_map.mp hvalue
    exact hnames.isUnified_caseValue h hgroup hrule text htext
  · exact List.forall_mem_singleton.mpr (hnames.names group hgroup)

end HasUnifiedNames

/-! ## Sources -/

/-- A source is written from the lines of its blocks, and line feeds. -/
theorem isUnified_renderBlocks {blocks : List (List String)}
    (h : ∀ block ∈ blocks, ∀ line ∈ block, IsUnified line) : IsUnified (renderBlocks blocks) := by
  have hjoin {block : List String} (hblock : ∀ line ∈ block, IsUnified line) :
      IsUnified (String.join (block.map (· ++ "\n"))) := by
    induction block with
    | nil => decide
    | cons line block ih =>
      obtain ⟨hline, hblock⟩ := List.forall_mem_cons.mp hblock
      rw [List.map_cons, String.join_cons, isUnified_append, isUnified_append]
      exact ⟨⟨hline, by decide⟩, ih hblock⟩
  rw [renderBlocks_eq]
  refine isUnified_intercalate (by decide) fun text htext => ?_
  obtain ⟨block, hblock, htext⟩ := List.mem_filterMap.mp htext
  rw [blockText?] at htext
  split_ifs at htext
  cases htext
  -- Only line feeds are dropped at the end of a block.
  obtain ⟨back, -, hback⟩ := exists_eq_dropEndWhile_append (· == '\n')
    (String.join (block.map (· ++ "\n"))).toList
  have hnone := hjoin (h block hblock)
  rw [IsUnified, hback, List.mem_append, not_or] at hnone
  exact isUnified_ofList.mpr hnone.1

/-- Indented lines are the lines, spaces and line feeds. -/
theorem return_notMem_indentLines {lines : List (List Char)} (width depth : Int)
    (h : ∀ line ∈ lines, '\r' ∉ line) : '\r' ∉ indentLines width depth lines := by
  induction lines generalizing depth with
  | nil => exact List.not_mem_nil
  | cons line lines ih =>
    obtain ⟨hline, hlines⟩ := List.forall_mem_cons.mp h
    have htrim : '\r' ∉ trim line := fun hmem => hline ((trim_sublist line).subset hmem)
    have hspaces : '\r' ∉ indentation (lineLevel depth (trim line)) width := fun hmem =>
      absurd (List.eq_of_mem_replicate hmem) (by decide)
    rw [indentLines, List.mem_append, not_or]
    refine ⟨?_, ih _ hlines⟩
    rw [indentLine]
    split_ifs
    · decide
    · rw [List.mem_append, List.mem_append, not_or, not_or]
      exact ⟨⟨hspaces, htrim⟩, by decide⟩

/-- Indenting adds no carriage return. -/
theorem isUnified_pretty {code : String} (h : IsUnified code) (width : Int) :
    IsUnified (pretty code width) := by
  have hlines : ∀ line ∈ splitOn '\n' code.toList, '\r' ∉ line := fun line hline hmem =>
    h (subset_of_mem_splitWhere hline hmem)
  have htext := return_notMem_indentLines width 0 hlines
  rw [pretty, isUnified_ofList, prettyChars]
  split_ifs
  · exact fun hmem => htext (List.dropLast_subset _ hmem)
  · exact htext

/-- A header is written from the name of the file and the name of the grammar. -/
theorem isUnified_header {file : String} (hfile : IsUnified file)
    (hgrammar : IsUnified grammarName) : IsUnified (header file grammarName) := by
  refine isUnified_intercalate (by decide) ?_
  simp only [List.forall_mem_cons, isUnified_append, hfile, hgrammar, and_true]
  decide +kernel

/-- No carriage return stands in a file that is written from a code without them. -/
theorem isUnified_ofCode {name code : String} (hname : IsUnified name)
    (hgrammar : IsUnified grammarName) (hcode : IsUnified code) :
    IsUnified (SourceFile.ofCode name grammarName code).text :=
  isUnified_append.mpr ⟨isUnified_header hname hgrammar, isUnified_pretty hcode 4⟩

/-- No carriage return stands in the sources of a grammar if none stands in its names, in the name
of the module and in the name of the file that holds the grammar. -/
theorem HasUnifiedNames.isUnified_of_generateSources {files : List SourceFile}
    (hnames : HasUnifiedNames grammar) (h : analyze rules extra policy = .ok grammar)
    (hmodule : IsUnified module) (hgrammar : IsUnified grammarName)
    (hfiles : generateSources grammar module grammarName = some files) :
    ∀ file ∈ files, IsUnified file.text := by
  obtain ⟨bridgeCode, hbridge, rfl⟩ := Option.map_eq_some_iff.mp hfiles
  rw [bridgeSource?] at hbridge
  split_ifs at hbridge
  cases hbridge
  have habstract : IsUnified (abstractSyntaxSource grammar) := by
    have hlines := (hnames.namesLack h).lacks_abstractSyntax (.inr rfl)
    exact isUnified_renderBlocks (List.forall_mem_map.mpr hlines)
  have hbridge : IsUnified (bridgeSource grammar module) := by
    refine isUnified_renderBlocks (List.forall_mem_map.mpr fun declaration hdeclaration => ?_)
    exact BridgeDeclaration.isUnified_lines hmodule (hnames.isUnified_bridge h _ hdeclaration)
  refine List.forall_mem_cons.mpr ⟨?_, List.forall_mem_singleton.mpr ?_⟩
  · exact isUnified_ofCode (by decide +kernel) hgrammar habstract
  · exact isUnified_ofCode (isUnified_append.mpr ⟨hmodule, by decide +kernel⟩) hgrammar hbridge

end SyntaxBridge.Swift
