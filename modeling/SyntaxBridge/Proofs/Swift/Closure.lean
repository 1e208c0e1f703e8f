import Mathlib.Data.List.Nodup
import SyntaxBridge.Proofs.Swift.Definition
import SyntaxBridge.Proofs.Swift.Known
import SyntaxBridge.Proofs.Swift.Reference
import SyntaxBridge.Proofs.Swift.TypeDeclaration
import SyntaxBridge.Proofs.Swift.WellIndented

/-!
# The generated sources are closed under their references

If a grammar refers to known categories only (`RefersToKnown`), what its sources refer to is there,
and there once: the functions that the bridge calls, and the types that the abstract syntax uses.
The function that visits a category returns a type that stands for the category in the abstract
syntax (`Denotes`).

Each usable category has its own definition (`exists_definition_of_usable`,
`nodup_visited_definitions`) and its own type (`declared_of_usable`), whatever it comes from, and
this makes up the main result (`sourcesClosed_of_refersToKnown`). What is said of lines holds of the
texts, since these are written line by line (`writtenLines_abstractSyntaxSource`,
`writtenLines_bridgeSource`).
-/

namespace SyntaxBridge.Swift

variable {rules : List Rule} {extra : ExtraCases} {policy : BoxPolicy} {grammar : Grammar}
  {category module : String}

/-- The lines of the abstract syntax. -/
def abstractLines (grammar : Grammar) : List String :=
  (abstractSyntax grammar).flatMap AbstractDeclaration.lines

/-- The lines of the bridge. -/
def bridgeLines (grammar : Grammar) (module : String) : List String :=
  (bridge grammar).flatMap (BridgeDeclaration.lines module)

/-- The type of a result stands for the type of a category. -/
inductive Denotes (grammar : Grammar) : String → String → Prop
  /-- The type of a declared category is named like it. -/
  | declared {name : String} : name ∈ grammar.groups.map (·.name) → typeName name = name →
      Denotes grammar name name
  /-- The type of a predefined category is qualified. -/
  | scalar {name : String} : name ∈ scalarNames → Denotes grammar name ("Swift." ++ typeName name)
  /-- The type of a list category is named in the abstract syntax. -/
  | list {element : String} :
      "public typealias " ++ typeName (Category.listOf element) ++ " = " ++
        ("[" ++ typeName element ++ "]") ∈ abstractLines grammar →
      Denotes grammar (Category.listOf element) ("[" ++ typeName element ++ "]")

/-- A type is predefined, or is declared once as an enumeration or a structure, or is declared once
as the name of the lists of a category. -/
def Declared (grammar : Grammar) (type : String) : Prop :=
  type ∈ scalarTypes.map (·.2) ∨
    (abstractLines grammar).countP (declaresType type) = 1 ∨
    (∃ element ∈ grammar.listTypes, type = Category.listName (Category.listOf element)) ∧
      (abstractLines grammar).countP (declaresAlias type) = 1

/-- The sources of a grammar are closed under their references. -/
structure SourcesClosed (grammar : Grammar) (module : String) : Prop where
  /-- A function that is called to visit a value is defined once. -/
  calls_defined : ∀ d ∈ bridge grammar, ∀ visited ∈ d.calls,
    (∃ line ∈ d.lines module,
      Text.startsWith "return " line = true ∧ Occurs ("visit" ++ visited ++ "(") line) ∧
    (bridgeLines grammar module).countP (Text.startsWith (definitionStart visited)) = 1
  /-- A type that is used is declared. -/
  uses_declared : ∀ d ∈ abstractSyntax grammar, ∀ type ∈ d.uses,
    (∃ line ∈ d.lines, Occurs type line) ∧ Declared grammar type
  /-- The function that visits a category returns a type that stands for it. -/
  results_denote : ∀ category,
    category ∈ references grammar.rules ∨ category ∈ grammar.entrypoints ∨ Known grammar category →
    ∃ argument result, (bridgeLines grammar module).filter
        (Text.startsWith (definitionStart (Category.listName category))) =
      [BridgeDeclaration.visitHead (Category.listName category) argument result] ∧
    Denotes grammar category result
  /-- Where all names are identifiers, these lines are those of the texts, but for empty ones. -/
  written : HasIdentifiers grammar → IsAsciiIdentifier module →
    writtenLines (abstractSyntaxSource grammar) = (abstractLines grammar).filter (· ≠ "") ∧
      writtenLines (bridgeSource grammar module) = (bridgeLines grammar module).filter (· ≠ "")

/-! ## Definitions -/

/-- The names of the functions that a bridge defines, up to their order. -/
theorem visited_definitions_perm (grammar : Grammar) (module : String) :
    ((definitions grammar module).map (·.visited)).Perm
      (grammar.groups.map (·.name) ++
        (grammar.listTypes.map fun element => Category.listName (Category.listOf element)) ++
        scalarConversions.map (·.category)) := by
  have hgroups : ((grammar.groups.filter (!·.isToken)).map (·.name) ++
      (grammar.groups.filter (·.isToken)).map (·.name)).Perm (grammar.groups.map (·.name)) := by
    rw [← List.map_append]
    exact (List.perm_append_comm.trans (List.filter_append_perm _ _)).map _
  rw [definitions_eq]
  simp only [List.map_append, List.map_map]
  refine List.Perm.append_right _ ?_
  -- The tokens move in front of the lists.
  rw [List.append_assoc]
  refine (List.perm_append_comm.append_left _).trans ?_
  rw [← List.append_assoc]
  exact hgroups.append_right _

/-- The predefined categories are those that are converted. -/
theorem mem_scalarConversions {name : String} :
    name ∈ scalarConversions.map (·.category) ↔ name ∈ scalarNames := by
  have hperm : (scalarConversions.map (·.category)).Perm scalarNames := by decide
  exact hperm.mem_iff

/-- The type of the lists of a category that is used. -/
theorem listName_listOf_of_mem_listTypes (h : analyze rules extra policy = .ok grammar)
    (hmem : category ∈ grammar.listTypes) :
    Category.listName (Category.listOf category) = "List" ++ category :=
  listName_listOf ((mem_listTypes_iff_of_analyze h).mp hmem).1

/-- No two list categories have the same type. -/
theorem nodup_listNames (h : analyze rules extra policy = .ok grammar) :
    (grammar.listTypes.map fun element =>
      Category.listName (Category.listOf element)).Nodup := by
  have hlists : grammar.listTypes.Nodup :=
    (isPartition_of_analyze h).pairwise_listTypes.imp fun hlt => ne_of_lt hlt
  refine List.Nodup.map_on (fun element hmem other hother heq => ?_) hlists
  rw [listName_listOf_of_mem_listTypes h hmem, listName_listOf_of_mem_listTypes h hother] at heq
  exact (String.append_right_inj _).mp heq

/-- No two functions of a bridge have the same name. -/
theorem nodup_visited_definitions (h : analyze rules extra policy = .ok grammar)
    (hrefers : RefersToKnown grammar) (module : String) :
    ((definitions grammar module).map (·.visited)).Nodup := by
  rw [(visited_definitions_perm grammar module).nodup_iff, List.nodup_append, List.nodup_append]
  refine ⟨⟨nodup_names_of_analyze h, nodup_listNames h, ?_⟩, by decide, ?_⟩
  · intro name hname list hlist
    obtain ⟨group, hgroup, rfl⟩ := List.mem_map.mp hname
    obtain ⟨element, helement, rfl⟩ := List.mem_map.mp hlist
    exact hrefers.ne_listName group hgroup element helement
  · intro name hname scalar hscalar
    rw [mem_scalarConversions] at hscalar
    rintro rfl
    rcases List.mem_append.mp hname with hname | hname
    · obtain ⟨group, hgroup, rfl⟩ := List.mem_map.mp hname
      exact hrefers.notMem_scalarNames group hgroup hscalar
    · obtain ⟨element, helement, rfl⟩ := List.mem_map.mp hname
      -- No predefined category starts like the type of a list.
      have hnone : ∀ name ∈ scalarNames, Text.startsWith "List" name = false := by decide
      have hstart := hnone _ hscalar
      rw [listName_listOf_of_mem_listTypes h helement, Text.startsWith_append_self] at hstart
      cases hstart

/-- A bridge defines functions for usable categories. -/
theorem usable_of_mem_definitions (h : analyze rules extra policy = .ok grammar)
    (hrefers : RefersToKnown grammar) {definition : Definition}
    (hmem : definition ∈ definitions grammar module) :
    ∃ category, Usable grammar category ∧ definition.visited = Category.listName category := by
  have hvisited := (visited_definitions_perm grammar module).mem_iff.mp (List.mem_map_of_mem hmem)
  have hknown {name : String} (hname : Known grammar name) (heq : name = definition.visited) :
      ∃ category, Usable grammar category ∧ definition.visited = Category.listName category := by
    refine ⟨name, .inl hname, ?_⟩
    rw [listName_of_isAsciiIdentifier (hname.isAsciiIdentifier hrefers), heq]
  rcases List.mem_append.mp hvisited with hvisited | hscalar
  · rcases List.mem_append.mp hvisited with hdeclared | hlist
    · exact hknown (.inr hdeclared) rfl
    · obtain ⟨element, helement, heq⟩ := List.mem_map.mp hlist
      have husable := known_of_mem_listTypes h hrefers helement
      exact ⟨_, .inr ⟨element, helement, husable, rfl⟩, heq.symm⟩
  · exact hknown (.inl (mem_scalarConversions.mp hscalar)) rfl

/-- The abstract syntax names the type of each list category. -/
theorem listNameLine_mem_abstractLines (hmem : category ∈ grammar.listTypes) :
    AbstractDeclaration.listNameLine category ∈ abstractLines grammar := by
  have hline : AbstractDeclaration.listNameLine category ∈
      (abstractLines grammar).filter startsType := by
    rw [abstractLines, filter_startsType_abstractSyntax]
    exact List.mem_append_left _ (List.mem_append_right _ (List.mem_map_of_mem hmem))
  exact List.mem_of_mem_filter hline

/-- A predefined category has a function that visits it, and the result stands for the category. -/
theorem exists_definition_of_mem_scalarNames (h : category ∈ scalarNames) (grammar : Grammar)
    (module : String) :
    ∃ definition ∈ definitions grammar module, definition.visited = category ∧
      Denotes grammar category definition.result := by
  obtain ⟨conversion, hconversion, rfl⟩ := List.mem_map.mp (mem_scalarConversions.mpr h)
  have htypes : ∀ conversion ∈ scalarConversions,
      conversion.type = "Swift." ++ typeName conversion.category := by decide
  refine ⟨scalarDefinition module conversion, ?_, rfl, ?_⟩
  · rw [definitions_eq]
    exact List.mem_append_right _ (List.mem_map_of_mem hconversion)
  · rw [scalarDefinition, htypes conversion hconversion]
    exact .scalar h

/-- So has a declared category, whether it is a token or not. -/
theorem exists_definition_of_mem_groups {group : Group} (hgroup : group ∈ grammar.groups)
    (htype : typeName group.name = group.name) (module : String) :
    ∃ definition ∈ definitions grammar module, definition.visited = group.name ∧
      Denotes grammar group.name definition.result := by
  refine ⟨valueDefinition module group.name, ?_, rfl, .declared (List.mem_map_of_mem hgroup) htype⟩
  rw [definitions_eq]
  refine List.mem_append_left _ ?_
  cases htoken : group.isToken with
  | false =>
    have hfilter : group ∈ grammar.groups.filter (!·.isToken) :=
      List.mem_filter.mpr ⟨hgroup, by rw [htoken, Bool.not_false]⟩
    exact List.mem_append_left _
      (List.mem_append_left _ (List.mem_map.mpr ⟨group, hfilter, rfl⟩))
  | true =>
    have hfilter := List.mem_filter.mpr ⟨hgroup, htoken⟩
    exact List.mem_append_right _ (List.mem_map.mpr ⟨group, hfilter, rfl⟩)

/-- So has a list category that is used. -/
theorem exists_definition_of_mem_listTypes (hmem : category ∈ grammar.listTypes)
    (hne : category ≠ "") (module : String) :
    ∃ definition ∈ definitions grammar module,
      definition.visited = Category.listName (Category.listOf category) ∧
        Denotes grammar (Category.listOf category) definition.result := by
  refine ⟨listDefinition module category, ?_, rfl, .list ?_⟩
  · rw [definitions_eq]
    exact List.mem_append_left _ (List.mem_append_left _
      (List.mem_append_right _ (List.mem_map_of_mem hmem)))
  · have hline := listNameLine_mem_abstractLines hmem
    have hequals : " = [" = " = " ++ "[" := by decide
    unfold AbstractDeclaration.listNameLine at hline
    rw [listName_listOf hne, ← typeName_listOf hne, hequals] at hline
    simpa only [String.append_assoc] using hline

/-- A usable category has a function that visits it, and the result stands for the category. -/
theorem exists_definition_of_usable (hrefers : RefersToKnown grammar) (h : Usable grammar category)
    (module : String) :
    ∃ definition ∈ definitions grammar module,
      definition.visited = Category.listName category ∧
        Denotes grammar category definition.result := by
  rcases h with hknown | ⟨element, helement, hknown, rfl⟩
  · have hidentifier := hknown.isAsciiIdentifier hrefers
    rw [listName_of_isAsciiIdentifier hidentifier]
    rcases hknown with hscalar | hdeclared
    · exact exists_definition_of_mem_scalarNames hscalar grammar module
    · obtain ⟨group, hgroup, rfl⟩ := List.mem_map.mp hdeclared
      have hnone := hrefers.notMem_scalarNames group hgroup
      have htype := typeName_of_isAsciiIdentifier hidentifier hnone
      exact exists_definition_of_mem_groups hgroup htype module
  · have hne := (hknown.isAsciiIdentifier hrefers).ne_empty
    exact exists_definition_of_mem_listTypes helement hne module

/-- A usable category has one function that visits it, and the result stands for the category. -/
theorem exists_filter_definitionStart (h : analyze rules extra policy = .ok grammar)
    (hrefers : RefersToKnown grammar) (husable : Usable grammar category) (module : String) :
    ∃ argument result, (bridgeLines grammar module).filter
        (Text.startsWith (definitionStart (Category.listName category))) =
      [BridgeDeclaration.visitHead (Category.listName category) argument result] ∧
    Denotes grammar category result := by
  -- The name of a function ends at the bracket, since identifiers hold none.
  have hbracket {name : String} (hname : Usable grammar name) :
      '(' ∉ (Category.listName name).toList :=
    (hname.isAsciiIdentifier_listName hrefers).notMem (by decide)
  have hnames : ∀ definition ∈ definitions grammar module, '(' ∉ definition.visited.toList := by
    intro definition hmem
    obtain ⟨name, hname, heq⟩ := usable_of_mem_definitions h hrefers hmem
    rw [heq]
    exact hbracket hname
  obtain ⟨definition, hmem, hvisited, hdenotes⟩ :=
    exists_definition_of_usable hrefers husable module
  refine ⟨definition.argument, definition.result, ?_, hdenotes⟩
  have honly := filter_name_eq_singleton (nodup_visited_definitions h hrefers module) hmem
  rw [bridgeLines, filter_definitionStart_bridge (hbracket husable) hnames, ← hvisited, honly,
    List.map_singleton, Definition.head]

/-- What a bridge calls is the function of a usable category. -/
theorem usable_of_mem_calls (h : analyze rules extra policy = .ok grammar)
    (hrefers : RefersToKnown grammar) {d : BridgeDeclaration} (hd : d ∈ bridge grammar)
    {visited : String} (hvisited : visited ∈ d.calls) :
    ∃ category, Usable grammar category ∧ visited = Category.listName category := by
  have hmem : visited ∈ (bridge grammar).flatMap BridgeDeclaration.calls :=
    List.mem_flatMap_of_mem hd hvisited
  rw [flatMap_bridge rfl fun _ => rfl] at hmem
  simp only [List.mem_append, List.mem_flatMap, Function.comp_apply] at hmem
  -- The calls come from the three kinds of functions that make some.
  rcases hmem with (((⟨entrypoint, hentrypoint, hcall⟩ | ⟨group, hgroup, hcall⟩) |
    ⟨element, helement, hcall⟩) | ⟨token, _, hcall⟩) | ⟨conversion, _, hcall⟩
  · rw [BridgeDeclaration.calls, List.mem_singleton] at hcall
    exact ⟨entrypoint, usable_of_mem_entrypoints h hrefers hentrypoint, hcall⟩
  · obtain ⟨value, hvalue, hcall⟩ := List.mem_flatMap.mp hcall
    obtain ⟨alternative, halternative, rfl⟩ := List.mem_map.mp hvalue
    rw [map_visited_arguments] at hcall
    obtain ⟨part, hpart, rfl⟩ := List.mem_map.mp hcall
    exact ⟨part, usable_of_mem_construction h hrefers (List.mem_of_mem_filter hgroup) halternative
      hpart, rfl⟩
  · have hknown := known_of_mem_listTypes h hrefers helement
    rw [BridgeDeclaration.calls, List.mem_cons, List.mem_singleton] at hcall
    rcases hcall with rfl | rfl
    · have hidentifier := hknown.isAsciiIdentifier hrefers
      exact ⟨_, .inl hknown, (listName_of_isAsciiIdentifier hidentifier).symm⟩
    · exact ⟨_, .inr ⟨element, helement, hknown, rfl⟩, rfl⟩
  · cases hcall
  · cases hcall

/-! ## Types -/

/-- What the abstract syntax uses is the type of a usable category. -/
theorem usable_of_mem_uses (h : analyze rules extra policy = .ok grammar)
    (hrefers : RefersToKnown grammar) {d : AbstractDeclaration} (hd : d ∈ abstractSyntax grammar)
    {type : String} (htype : type ∈ d.uses) :
    ∃ category, Usable grammar category ∧ type = typeName category := by
  have hmem : type ∈ (abstractSyntax grammar).flatMap AbstractDeclaration.uses :=
    List.mem_flatMap_of_mem hd htype
  have hgroups {groups : List Group} (hsub : ∀ group ∈ groups, group ∈ grammar.groups)
      (hmem : type ∈ groups.flatMap (AbstractDeclaration.uses ∘ AbstractDeclaration.ofGroup)) :
      ∃ category, Usable grammar category ∧ type = typeName category := by
    obtain ⟨group, hgroup, htype⟩ := List.mem_flatMap.mp hmem
    rw [Function.comp_apply, AbstractDeclaration.ofGroup] at htype
    cases hmembers : group.members with
    | token token =>
      rw [hmembers] at htype
      cases htype
    | alternatives alternatives =>
      rw [hmembers] at htype
      obtain ⟨enumCase, hcase, htype⟩ := List.mem_flatMap.mp htype
      obtain ⟨alternative, halternative, rfl⟩ := List.mem_map.mp hcase
      obtain ⟨part, hpart, rfl⟩ := List.mem_map.mp htype
      refine ⟨part, usable_of_mem_construction h hrefers (hsub group hgroup) ?_ hpart, rfl⟩
      rw [hmembers]
      exact halternative
  rw [flatMap_abstractSyntax ?_ rfl] at hmem
  · rcases List.mem_append.mp hmem with hmem | hmem
    · rcases List.mem_append.mp hmem with hmem | hmem
      · exact hgroups (fun group => List.mem_of_mem_filter) hmem
      · obtain ⟨element, helement, rfl⟩ := List.mem_map.mp hmem
        exact ⟨element, .inl (known_of_mem_listTypes h hrefers helement), rfl⟩
    · exact hgroups (fun group => List.mem_of_mem_filter) hmem
  · intro d hd
    cases d <;> first | rfl | cases hd

/-- The type of a usable category is declared. -/
theorem declared_of_usable (h : analyze rules extra policy = .ok grammar)
    (hrefers : RefersToKnown grammar) (husable : Usable grammar category) :
    Declared grammar (typeName category) := by
  rcases husable with (hscalar | hdeclared) | ⟨element, helement, hknown, rfl⟩
  · have htypes : ∀ name ∈ scalarNames, typeName name ∈ scalarTypes.map (·.2) := by decide
    exact .inl (htypes category hscalar)
  · obtain ⟨group, hgroup, rfl⟩ := List.mem_map.mp hdeclared
    have hidentifier := hrefers.isAsciiIdentifier group hgroup
    rw [typeName_of_isAsciiIdentifier hidentifier (hrefers.notMem_scalarNames group hgroup)]
    refine .inr (.inl ?_)
    rw [abstractLines, countP_declaresType (hidentifier.notMem (by decide)) fun other hother =>
      (hrefers.isAsciiIdentifier other hother).notMem (by decide)]
    exact List.count_eq_one_of_mem (nodup_names_of_analyze h) hdeclared
  · have hne := (hknown.isAsciiIdentifier hrefers).ne_empty
    have hlists : ∀ type ∈ grammar.listTypes,
        ' ' ∉ (Category.listName (Category.listOf type)).toList := by
      intro type htype
      rw [listName_listOf_of_mem_listTypes h htype]
      have hknown := known_of_mem_listTypes h hrefers htype
      exact (hknown.isAsciiIdentifier hrefers).list.notMem (by decide)
    -- The type of a list category is the name that the abstract syntax gives its lists.
    rw [typeName_listOf hne, ← listName_listOf hne]
    refine .inr (.inr ⟨⟨element, helement, rfl⟩, ?_⟩)
    rw [abstractLines, countP_declaresAlias (hlists element helement) hlists]
    exact List.count_eq_one_of_mem (nodup_listNames h) (List.mem_map.mpr ⟨element, helement, rfl⟩)

/-! ## Texts -/

/-- The lines of the text of the abstract syntax. -/
theorem writtenLines_abstractSyntaxSource (h : analyze rules extra policy = .ok grammar)
    (hnames : HasIdentifiers grammar) :
    writtenLines (abstractSyntaxSource grammar) = (abstractLines grammar).filter (· ≠ "") := by
  have hwritten : ∀ block ∈ (abstractSyntax grammar).map AbstractDeclaration.lines,
      IsWritten block := by
    refine List.forall_mem_map.mpr fun declaration hdeclaration => IsBlock.isWritten ?_
    have hnamed := hnames.isWellNamed_of_mem_abstractSyntax h declaration hdeclaration
    exact AbstractDeclaration.isBlock hnamed
  rw [abstractSyntaxSource, writtenLines_renderBlocks hwritten, abstractLines, List.flatMap_def]

/-- The lines of the text of the bridge. -/
theorem writtenLines_bridgeSource (h : analyze rules extra policy = .ok grammar)
    (hnames : HasIdentifiers grammar) (hmodule : IsAsciiIdentifier module) :
    writtenLines (bridgeSource grammar module) = (bridgeLines grammar module).filter (· ≠ "") := by
  have hwritten : ∀ block ∈ (bridge grammar).map (BridgeDeclaration.lines module),
      IsWritten block := by
    refine List.forall_mem_map.mpr fun declaration hdeclaration => IsBlock.isWritten ?_
    have hnamed := hnames.isWellNamed_of_mem_bridge h declaration hdeclaration
    exact BridgeDeclaration.isBlock (isNameText_of_isAsciiIdentifier hmodule).isPlain hnamed
  rw [bridgeSource, writtenLines_renderBlocks hwritten, bridgeLines, List.flatMap_def]

/-! ## Closure -/

/-- If a grammar refers to known categories only, its sources are closed under their references. -/
theorem sourcesClosed_of_refersToKnown (h : analyze rules extra policy = .ok grammar)
    (hrefers : RefersToKnown grammar) (module : String) : SourcesClosed grammar module where
  calls_defined := fun d hd visited hvisited => by
    obtain ⟨category, husable, rfl⟩ := usable_of_mem_calls h hrefers hd hvisited
    obtain ⟨argument, result, hdefinition, _⟩ :=
      exists_filter_definitionStart h hrefers husable module
    refine ⟨exists_line_of_mem_calls hvisited module, ?_⟩
    rw [List.countP_eq_length_filter, hdefinition, List.length_singleton]
  uses_declared := fun d hd type htype => by
    obtain ⟨category, husable, rfl⟩ := usable_of_mem_uses h hrefers hd htype
    exact ⟨exists_line_of_mem_uses htype, declared_of_usable h hrefers husable⟩
  results_denote := fun category hcategory => by
    have husable : Usable grammar category := by
      rcases hcategory with hreference | hentrypoint | hknown
      · exact usable_of_mem_references h hrefers hreference
      · exact usable_of_mem_entrypoints h hrefers hentrypoint
      · exact .inl hknown
    exact exists_filter_definitionStart h hrefers husable module
  written := fun hnames hmodule =>
    ⟨writtenLines_abstractSyntaxSource h hnames, writtenLines_bridgeSource h hnames hmodule⟩

/-- The sources of a grammar with lists of a declared and of a predefined category, one of them an
entrypoint, are closed. -/
theorem sourcesClosed_expression :
    ∃ grammar, analyze
        [.entrypoint ⟨["[Exp]"], .unknown⟩, .constructor ⟨"EVar", "Exp", ["Ident"], .unknown⟩,
          .constructor ⟨"ECall", "Exp", ["Ident", "[Integer]"], .unknown⟩,
          .token ⟨"Ident", .unknown⟩]
        [] .all = .ok grammar ∧
      RefersToKnown grammar ∧ SourcesClosed grammar "CGrammar" := by
  have hgroups : analyzeGroups
      [.entrypoint ⟨["[Exp]"], .unknown⟩, .constructor ⟨"EVar", "Exp", ["Ident"], .unknown⟩,
        .constructor ⟨"ECall", "Exp", ["Ident", "[Integer]"], .unknown⟩, .token ⟨"Ident", .unknown⟩]
      .all = .ok [
        ⟨"Exp", .alternatives [⟨"EVar", "Exp", ["Ident"], .unknown⟩,
          ⟨"ECall", "Exp", ["Ident", "[Integer]"], .unknown⟩], true, []⟩,
        ⟨"Ident", .token ⟨"Ident", .unknown⟩, false, []⟩] := by
    -- The categories are declared in order, so that sorting leaves them alone.
    refine congrArg (Except.ok ∘ List.map _) (List.mergeSort_of_pairwise ?_)
    decide
  have h := analyze_eq_ok_iff.mpr ⟨_, ["[Exp]"], hgroups, List.forall_mem_nil _, by decide, rfl⟩
  suffices hrefers : RefersToKnown _ from
    ⟨_, h, hrefers, sourcesClosed_of_refersToKnown h hrefers "CGrammar"⟩
  constructor
  case known =>
    intro name hname
    have hreferences : ∀ name ∈ ["[Exp]", "Ident", "Ident", "[Integer]"],
        name = "Ident" ∨ name ∈ ["Exp", "Integer"].map Category.listOf := by decide
    have hlisted : ∀ type ∈ ["Exp", "Integer"], type ∈ scalarNames ∨ type ∈ ["Exp", "Ident"] := by
      decide
    rcases hreferences name hname with rfl | hlist
    · exact .inl (.inr (by decide))
    · obtain ⟨type, htype, rfl⟩ := List.mem_map.mp hlist
      exact .inr ⟨type, hlisted type htype, rfl⟩
  case isAsciiIdentifier =>
    intro group hgroup
    rcases List.mem_cons.mp hgroup with rfl | hgroup
    · exact ⟨'E', "xp".toList, rfl, by decide, by decide⟩
    · cases List.mem_singleton.mp hgroup
      exact ⟨'I', "dent".toList, rfl, by decide, by decide⟩
  case notMem_scalarNames => decide
  case ne_listName =>
    intro group hgroup type htype
    have hlists : type ∈ ["Exp", "Integer"] := mem_ordered.mp htype
    have hnames : ∀ type ∈ ["Exp", "Integer"], ∀ name ∈ ["Exp", "Ident"],
        name ≠ Category.listName (Category.listOf type) := by decide
    exact hnames type hlists group.name (List.mem_map_of_mem hgroup)

end SyntaxBridge.Swift
