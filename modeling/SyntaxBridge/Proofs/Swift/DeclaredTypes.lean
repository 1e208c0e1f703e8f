import Mathlib
import SyntaxBridge.Proofs.Grammar.Partition
import SyntaxBridge.Proofs.Swift.TypeLine
import SyntaxBridge.Proofs.Swift.UnifiedLines

/-!
# The types of the abstract syntax, read off its text

The lines of the abstract syntax of a grammar that declare or extend a type come in sections, and
each of them lists names in order (`typeLines_abstractSyntaxSource`). So each category has one
enumeration or one structure and is extended once to be printed, each token has its helpers, each
list type has its name, and nothing else is declared but how values are printed
(`declaresTypes_of_analyze`).
-/

namespace SyntaxBridge.Swift

open AbstractDeclaration Text

variable {rules : List Rule} {extra : ExtraCases} {policy : BoxPolicy} {grammar : Grammar}

/-! ## The sections of a grammar -/

/-- Types that are declared or extended alike. -/
structure TypeSection where
  /-- The word that says what is done. -/
  keyword : String
  /-- The protocol that the types are made to conform to. -/
  conformance : Option String
  /-- The names of the types, in order. -/
  names : List String

/-- A section has a line for each name. -/
def TypeSection.lines (types : TypeSection) : List TypeLine :=
  types.names.map (⟨types.keyword, ·, types.conformance⟩)

/-- The sections of the abstract syntax before the helpers of tokens. -/
def typeSections (grammar : Grammar) : List TypeSection :=
  let enums := grammar.groups.filter (!·.isToken)
  let tokens := grammar.groups.filter (·.isToken)
  let protocols := if grammar.groups.isEmpty then [] else [printingProtocol]
  [⟨"enum", none, enums.map (·.name)⟩,
    ⟨"typealias", none, grammar.listTypes.map ("List" ++ ·)⟩,
    ⟨"struct", none, tokens.map (·.name)⟩,
    ⟨"protocol", none, protocols⟩,
    ⟨"extension", none, protocols⟩,
    ⟨"extension", some printingProtocol, grammar.groups.map (·.name)⟩]

/-- The protocols of a token beside that of what can be printed. -/
def helperProtocols : List String :=
  ["CustomStringConvertible", "Equatable", "Hashable"]

/-- The helpers of a token. -/
def tokenHelpers (group : Group) : List TypeLine :=
  helperProtocols.map (⟨"extension", group.name, some ·⟩)

/-- What the abstract syntax of a grammar declares or extends. -/
def sectionLines (grammar : Grammar) : List TypeLine :=
  (typeSections grammar).flatMap TypeSection.lines ++
    (grammar.groups.filter (·.isToken)).flatMap tokenHelpers

/-- Categories are declared by their names, tokens as structures and the others as enumerations. -/
theorem flatMap_declared_ofGroup {groups : List Group} (isToken : Bool)
    (h : ∀ group ∈ groups, group.isToken = isToken) :
    (groups.map ofGroup).flatMap declared =
      groups.map (⟨if isToken then "struct" else "enum", ·.name, none⟩) := by
  have hgroup (group : Group) : (ofGroup group).declared =
      [⟨if group.isToken then "struct" else "enum", group.name, none⟩] := by
    rw [ofGroup, Group.isToken]
    cases group.members <;> rfl
  rw [List.flatMap_map, List.map_eq_flatMap]
  refine List.flatMap_congr fun group hmem => ?_
  rw [hgroup, h group hmem]

/-- The declarations of the abstract syntax are those of the sections. -/
theorem flatMap_declared_abstractSyntax (grammar : Grammar) :
    (abstractSyntax grammar).flatMap declared = sectionLines grammar := by
  -- One after the other, the sections are what they declare. A section that is left out when there
  -- are no entries declares nothing without them.
  have hfoundation (groups : List Group) :
      (if groups.isEmpty then [] else [foundation]).flatMap declared = [] := by
    split <;> rfl
  have henums : ((grammar.groups.filter (!·.isToken)).map ofGroup).flatMap declared =
      (grammar.groups.filter (!·.isToken)).map (⟨"enum", ·.name, none⟩) :=
    flatMap_declared_ofGroup false fun group hgroup => by simpa using (List.mem_filter.mp hgroup).2
  have hlists (categories : List String) : (if categories.isEmpty then []
      else [heading "Lists", listNames categories]).flatMap declared =
        categories.map (⟨"typealias", "List" ++ ·, none⟩) := by
    cases categories <;> simp [declared]
  have htokens : (if (grammar.groups.filter (·.isToken)).isEmpty then []
      else heading "Tokens" :: (grammar.groups.filter (·.isToken)).map ofGroup).flatMap declared =
        (grammar.groups.filter (·.isToken)).map (⟨"struct", ·.name, none⟩) := by
    split
    next hnone => rw [List.isEmpty_iff.mp hnone, List.flatMap_nil, List.map_nil]
    next => exact flatMap_declared_ofGroup true fun group hgroup => (List.mem_filter.mp hgroup).2
  have hprinting (groups : List Group) : (if groups.isEmpty then []
      else [heading "Custom printing", printing, defaultPrinting] ++
        groups.map fun group => printable group.name group.isToken).flatMap declared =
      (if groups.isEmpty then [] else
        [⟨"protocol", printingProtocol, none⟩, ⟨"extension", printingProtocol, none⟩]) ++
          groups.map (⟨"extension", ·.name, some printingProtocol⟩) := by
    cases groups <;> simp [declared, List.flatMap_map, ← List.map_eq_flatMap]
  have hhelpers (tokens : List Group) : (if tokens.isEmpty then []
      else heading "Token helpers" :: tokens.flatMap fun group =>
        [description group.name, equality group.name, hashing group.name]).flatMap declared =
      tokens.flatMap tokenHelpers := by
    split
    next hnone => rw [List.isEmpty_iff.mp hnone, List.flatMap_nil, List.flatMap_nil]
    next =>
      rw [List.flatMap_cons, List.flatMap_assoc]
      rfl
  simp only [abstractSyntax, List.flatMap_append, hfoundation, henums, hlists, htokens, hprinting,
    hhelpers]
  simp only [sectionLines, typeSections, TypeSection.lines, List.flatMap_cons, List.flatMap_nil,
    List.map_map, List.nil_append, List.append_nil, List.append_assoc, Function.comp_def]
  split <;> rfl

/-! ## The text -/

/-- The names of a grammar are identifiers once their brackets are left out. -/
structure HasBracketedIdentifiers (grammar : Grammar) : Prop where
  /-- Names of declared categories. -/
  names : ∀ group ∈ grammar.groups, IsBracketedIdentifier group.name
  /-- Labels of alternatives. -/
  labels : ∀ group ∈ grammar.groups, ∀ rule ∈ group.members.constructors,
    IsBracketedIdentifier rule.label
  /-- Parts of alternatives. -/
  parts : ∀ group ∈ grammar.groups, ∀ rule ∈ group.members.constructors,
    ∀ part ∈ rule.construction, IsBracketedIdentifier part
  /-- Categories whose lists are used. -/
  listTypes : ∀ category ∈ grammar.listTypes, IsBracketedIdentifier category

namespace HasBracketedIdentifiers

/-- The names that the declarations of a grammar start with are identifiers. -/
theorem typeNames_abstractSyntax (h : HasBracketedIdentifiers grammar) :
    ∀ declaration ∈ abstractSyntax grammar, ∀ name ∈ declaration.typeNames,
      IsBracketedIdentifier name := by
  refine forall_mem_abstractSyntax (by simp [AbstractDeclaration.typeNames]) (fun _ => h.listTypes)
    fun group hgroup => ?_
  have hdeclared : (ofGroup group).typeNames = [group.name] := by
    rw [ofGroup]
    cases group.members <;> rfl
  have hname := h.names group hgroup
  refine List.forall_mem_cons.mpr ⟨?_, by simp [AbstractDeclaration.typeNames, hname]⟩
  rw [hdeclared]
  exact List.forall_mem_singleton.mpr hname

/-- No name holds a line feed. -/
theorem namesLack_lineFeed (h : HasBracketedIdentifiers grammar)
    (hextra : ∀ group ∈ grammar.groups, ∀ text ∈ group.extraCases, '\n' ∉ text.toList) :
    NamesLack '\n' grammar := by
  have hlacks {name : String} (hname : IsBracketedIdentifier name) : Lacks '\n' name :=
    hname.notMem (by decide) (by decide)
  exact {
    names := fun group hgroup => hlacks (h.names group hgroup)
    labels := fun group hgroup rule hrule => hlacks (h.labels group hgroup rule hrule)
    parts := fun group hgroup rule hrule part hpart =>
      hlacks (h.parts group hgroup rule hrule part hpart)
    listTypes := fun category hcategory => hlacks (h.listTypes category hcategory)
    extraCases := hextra }

end HasBracketedIdentifiers

/-- The last line of a declaration is not empty. -/
theorem exists_getLast?_lines :
    ∀ declaration ∈ abstractSyntax grammar, ∃ last, declaration.lines.getLast? = some last ∧
      last ≠ "" := by
  -- All but headings and names of lists end in a brace.
  have hbrace : "\x7d" ≠ "" := by decide
  refine forall_mem_abstractSyntax ?_ (fun hlists => ?_) fun group _ => ?_
  · simp [lines]
  · have hnonempty (category : String) : listNameLine category ≠ "" := by
      unfold listNameLine
      simp
    refine ⟨listNameLine (grammar.listTypes.getLast hlists), ?_, hnonempty _⟩
    rw [lines, List.getLast?_map, List.getLast?_eq_getLast_of_ne_nil hlists, Option.map_some]
  · have hdeclared : (ofGroup group).lines.getLast? = some "\x7d" := by
      rw [ofGroup]
      cases group.members with
      | token => rfl
      | alternatives => exact List.getLast?_concat
    have hprintable : (printable group.name group.isToken).lines.getLast? = some "\x7d" := by
      rw [lines]
      exact List.getLast?_concat
    have hhelpers : ∀ helper ∈ [description group.name, equality group.name, hashing group.name],
        helper.lines.getLast? = some "\x7d" := by
      simp [lines]
    rw [List.forall_mem_cons, List.forall_mem_cons]
    exact ⟨⟨_, hdeclared, hbrace⟩, ⟨_, hprintable, hbrace⟩,
      fun helper hhelper => ⟨_, hhelpers helper hhelper, hbrace⟩⟩

/-- What the text of the abstract syntax declares or extends. -/
theorem typeLines_abstractSyntaxSource (h : HasBracketedIdentifiers grammar)
    (hextra : ∀ group ∈ grammar.groups, ∀ text ∈ group.extraCases, '\n' ∉ text.toList) :
    typeLines (abstractSyntaxSource grammar) = sectionLines grammar := by
  have hwritten : ∀ block ∈ (abstractSyntax grammar).map AbstractDeclaration.lines,
      IsWritten block := by
    refine List.forall_mem_map.mpr fun declaration hdeclaration => ⟨?_, ?_⟩
    · exact (h.namesLack_lineFeed hextra).lacks_abstractSyntax (.inl rfl) declaration hdeclaration
    · exact exists_getLast?_lines declaration hdeclaration
  rw [abstractSyntaxSource, typeLines_renderBlocks hwritten, List.flatMap_map,
    ← flatMap_declared_abstractSyntax]
  exact List.flatMap_congr fun declaration hdeclaration =>
    filterMap_typeLine?_lines (h.typeNames_abstractSyntax declaration hdeclaration)

/-! ## Each type once -/

/-- Whether a line declares a type of a name by a keyword. -/
def TypeLine.declares (line : TypeLine) (keyword name : String) : Bool :=
  line.keyword == keyword && line.name == name

/-- What is done by a line, whatever the type. -/
def TypeLine.kind (line : TypeLine) : String × Option String :=
  (line.keyword, line.conformance)

/-- The kinds of lines in the order of their sections. The helpers of tokens come after them. -/
def kinds : List (String × Option String) :=
  [("enum", none), ("typealias", none), ("struct", none), ("protocol", none), ("extension", none),
    ("extension", some printingProtocol)]

/-- Where the section of a line stands. -/
def TypeLine.position (line : TypeLine) : Nat :=
  kinds.idxOf line.kind

/-- The section of a line does not stand before that of a line above it, and among the lines of one
kind the names increase. -/
structure TypeLine.Precedes (line next : TypeLine) : Prop where
  position_le : line.position ≤ next.position
  name_lt : line.kind = next.kind → line.name < next.name

/-- The lines that a grammar asks for. -/
inductive AsksFor (grammar : Grammar) : TypeLine → Prop
  /-- A category with alternatives is an enumeration. -/
  | enumeration {group : Group} (hgroup : group ∈ grammar.groups) (htoken : group.isToken = false) :
    AsksFor grammar ⟨"enum", group.name, none⟩
  /-- The lists of a category have a name. -/
  | listName {category : String} (hcategory : category ∈ grammar.listTypes) :
    AsksFor grammar ⟨"typealias", "List" ++ category, none⟩
  /-- A token is a structure. -/
  | word {group : Group} (hgroup : group ∈ grammar.groups) (htoken : group.isToken = true) :
    AsksFor grammar ⟨"struct", group.name, none⟩
  /-- There is a protocol of what can be printed. -/
  | printing (hgroups : grammar.groups ≠ []) :
    AsksFor grammar ⟨"protocol", printingProtocol, none⟩
  /-- What can be printed is printed in some way unless its type says otherwise. -/
  | defaultPrinting (hgroups : grammar.groups ≠ []) :
    AsksFor grammar ⟨"extension", printingProtocol, none⟩
  /-- The values of a category can be printed. -/
  | printable {group : Group} (hgroup : group ∈ grammar.groups) :
    AsksFor grammar ⟨"extension", group.name, some printingProtocol⟩
  /-- A token has helpers. -/
  | helper {group : Group} (hgroup : group ∈ grammar.groups) (htoken : group.isToken = true)
      {protocol : String} (hprotocol : protocol ∈ helperProtocols) :
    AsksFor grammar ⟨"extension", group.name, some protocol⟩

/-- Lines declare the types of a grammar once each and in order. -/
structure DeclaresTypes (grammar : Grammar) (lines : List TypeLine) : Prop where
  /-- A category has one enumeration, a token has none. -/
  enumeration : ∀ group ∈ grammar.groups,
    lines.countP (·.declares "enum" group.name) = if group.isToken then 0 else 1
  /-- A token has one structure, any other category has none. -/
  word : ∀ group ∈ grammar.groups,
    lines.countP (·.declares "struct" group.name) = if group.isToken then 1 else 0
  /-- Each category is extended once to be printed. -/
  printable : ∀ group ∈ grammar.groups,
    lines.count ⟨"extension", group.name, some printingProtocol⟩ = 1
  /-- A token has each helper once, any other category has none. -/
  helpers : ∀ group ∈ grammar.groups, ∀ protocol ∈ helperProtocols,
    lines.count ⟨"extension", group.name, some protocol⟩ = if group.isToken then 1 else 0
  /-- The lists of a category that are used are named once. -/
  listName : ∀ category ∈ grammar.listTypes,
    lines.countP (·.declares "typealias" ("List" ++ category)) = 1
  /-- The protocol of what can be printed is declared if there is a category. -/
  printing : lines.countP (·.declares "protocol" printingProtocol) =
    if grammar.groups.isEmpty then 0 else 1
  /-- So is how values are printed unless their type says otherwise. -/
  defaultPrinting : lines.count ⟨"extension", printingProtocol, none⟩ =
    if grammar.groups.isEmpty then 0 else 1
  /-- Nothing else is declared. -/
  only : ∀ line ∈ lines, AsksFor grammar line
  /-- The sections stand in order, and so do the names of one kind. -/
  ordered : lines.Pairwise TypeLine.Precedes

/-- The lines that a grammar asks for are those of its sections. -/
theorem mem_sectionLines {line : TypeLine} :
    line ∈ sectionLines grammar ↔ AsksFor grammar line := by
  simp only [sectionLines, typeSections, TypeSection.lines, tokenHelpers, List.mem_append,
    List.mem_flatMap, List.mem_cons, List.not_mem_nil, or_false, List.mem_map, List.mem_filter]
  have hprotocol {name : String}
      (h : name ∈ if grammar.groups.isEmpty then [] else [printingProtocol]) :
      grammar.groups ≠ [] ∧ name = printingProtocol := by
    split at h
    next => cases h
    next hgroups => exact ⟨by simpa using hgroups, List.mem_singleton.mp h⟩
  constructor
  · rintro (⟨types, rfl | rfl | rfl | rfl | rfl | rfl, name, hname, rfl⟩ |
      ⟨group, ⟨hgroup, htoken⟩, protocol, hprotocol, rfl⟩)
    · obtain ⟨group, hgroup, rfl⟩ := List.mem_map.mp hname
      obtain ⟨hgroup, htoken⟩ := List.mem_filter.mp hgroup
      exact .enumeration hgroup (by simpa using htoken)
    · obtain ⟨category, hcategory, rfl⟩ := List.mem_map.mp hname
      exact .listName hcategory
    · obtain ⟨group, hgroup, rfl⟩ := List.mem_map.mp hname
      obtain ⟨hgroup, htoken⟩ := List.mem_filter.mp hgroup
      exact .word hgroup htoken
    · obtain ⟨hgroups, rfl⟩ := hprotocol hname
      exact .printing hgroups
    · obtain ⟨hgroups, rfl⟩ := hprotocol hname
      exact .defaultPrinting hgroups
    · obtain ⟨group, hgroup, rfl⟩ := List.mem_map.mp hname
      exact .printable hgroup
    · exact .helper hgroup htoken hprotocol
  · intro h
    cases h with
    | enumeration hgroup htoken =>
      refine .inl ⟨_, .inl rfl, _, List.mem_map_of_mem (List.mem_filter.mpr ⟨hgroup, ?_⟩), rfl⟩
      rw [htoken, Bool.not_false]
    | listName hcategory =>
      exact .inl ⟨_, .inr (.inl rfl), _, List.mem_map_of_mem hcategory, rfl⟩
    | word hgroup htoken =>
      have hkept := List.mem_filter.mpr ⟨hgroup, htoken⟩
      exact .inl ⟨_, .inr (.inr (.inl rfl)), _, List.mem_map_of_mem hkept, rfl⟩
    | printing hgroups => simp [hgroups]
    | defaultPrinting hgroups => simp [hgroups]
    | printable hgroup =>
      have hname := List.mem_map_of_mem (f := Group.name) hgroup
      exact .inl ⟨_, .inr (.inr (.inr (.inr (.inr rfl)))), _, hname, rfl⟩
    | helper hgroup htoken hprotocol => exact .inr ⟨_, ⟨hgroup, htoken⟩, _, hprotocol, rfl⟩

/-! ## Order -/

/-- The section of a line in a list of sections. -/
def TypeSection.position (types : TypeSection) : Nat :=
  kinds.idxOf (types.keyword, types.conformance)

theorem position_of_mem_lines {types : TypeSection} {line : TypeLine} (h : line ∈ types.lines) :
    line.position = types.position := by
  obtain ⟨name, -, rfl⟩ := List.mem_map.mp h
  rfl

theorem position_of_mem_tokenHelpers {group : Group} {line : TypeLine}
    (h : line ∈ tokenHelpers group) : line.position = kinds.length := by
  obtain ⟨protocol, hprotocol, rfl⟩ := List.mem_map.mp h
  have hlast : ∀ protocol ∈ helperProtocols,
      kinds.idxOf ("extension", some protocol) = kinds.length := by decide
  exact hlast protocol hprotocol

theorem map_position_typeSections (grammar : Grammar) :
    (typeSections grammar).map TypeSection.position = List.range kinds.length := by
  simp only [typeSections, List.map_cons, List.map_nil, TypeSection.position]
  decide

/-- A line precedes those of later sections. -/
theorem precedes_of_position_lt {line next : TypeLine} (h : line.position < next.position) :
    line.Precedes next := by
  refine ⟨h.le, fun hkind => ?_⟩
  rw [TypeLine.position, TypeLine.position, hkind] at h
  exact absurd h (lt_irrefl _)

/-- The lines of a section stand in the order of the names. -/
theorem TypeSection.pairwise_lines {types : TypeSection} (h : types.names.Pairwise (· < ·)) :
    types.lines.Pairwise TypeLine.Precedes :=
  List.pairwise_map.mpr (h.imp fun hlt => ⟨le_rfl, fun _ => hlt⟩)

/-- Putting the same text before two names keeps their order. -/
theorem list_lt_list {name other : String} (h : name < other) :
    "List" ++ name < "List" ++ other := by
  rw [String.lt_iff_toList_lt] at h ⊢
  simpa using h

section Order

variable (hnames : (grammar.groups.map (·.name)).Pairwise (· < ·))

include hnames

/-- The names of each section increase. -/
theorem pairwise_names_of_mem_typeSections (hlists : grammar.listTypes.Pairwise (· < ·)) :
    ∀ types ∈ typeSections grammar, types.names.Pairwise (· < ·) := by
  have hkept (keep : Group → Bool) :
      ((grammar.groups.filter keep).map (·.name)).Pairwise (· < ·) :=
    hnames.sublist (List.filter_sublist.map _)
  have hprotocol :
      (if grammar.groups.isEmpty then [] else [printingProtocol]).Pairwise (· < ·) := by
    split <;> simp
  have hlistNames : (grammar.listTypes.map ("List" ++ ·)).Pairwise (· < ·) :=
    List.pairwise_map.mpr (hlists.imp list_lt_list)
  simp only [typeSections, List.forall_mem_cons, List.not_mem_nil, false_implies, implies_true,
    and_true]
  exact ⟨hkept _, hlistNames, hkept _, hprotocol, hprotocol, hnames⟩

/-- The helpers of tokens stand in the order of the tokens. -/
theorem pairwise_tokenHelpers :
    ((grammar.groups.filter (·.isToken)).flatMap tokenHelpers).Pairwise TypeLine.Precedes := by
  refine List.pairwise_flatMap.mpr ⟨fun group _ => ?_, ?_⟩
  · -- The helpers of one token are of different kinds.
    have hne : helperProtocols.Pairwise (· ≠ ·) := by decide
    refine List.pairwise_map.mpr (hne.imp_of_mem fun {protocol other} hmem hother hne => ⟨?_, ?_⟩)
    · exact (position_of_mem_tokenHelpers (List.mem_map_of_mem hmem)).le.trans
        (position_of_mem_tokenHelpers (List.mem_map_of_mem hother)).ge
    · intro hkind
      exact absurd (Option.some.inj (Prod.mk.inj hkind).2) hne
  · have hpairwise : (grammar.groups.filter (·.isToken)).Pairwise (·.name < ·.name) :=
      (List.pairwise_map.mp hnames).filter _
    refine hpairwise.imp fun {group other} hlt line hline next hnext => ⟨?_, fun _ => ?_⟩
    · rw [position_of_mem_tokenHelpers hline, position_of_mem_tokenHelpers hnext]
    · obtain ⟨protocol, -, rfl⟩ := List.mem_map.mp hline
      obtain ⟨protocol', -, rfl⟩ := List.mem_map.mp hnext
      exact hlt

/-- The lines that a grammar asks for stand in order if its names do. -/
theorem pairwise_sectionLines (hlists : grammar.listTypes.Pairwise (· < ·)) :
    (sectionLines grammar).Pairwise TypeLine.Precedes := by
  have hpositions : (typeSections grammar).Pairwise (·.position < ·.position) := by
    rw [← List.pairwise_map, map_position_typeSections]
    exact List.pairwise_lt_range
  refine List.pairwise_append.mpr
    ⟨List.pairwise_flatMap.mpr ⟨fun types htypes => ?_, ?_⟩, pairwise_tokenHelpers hnames, ?_⟩
  · exact types.pairwise_lines (pairwise_names_of_mem_typeSections hnames hlists types htypes)
  · refine hpositions.imp fun hlt line hline next hnext => precedes_of_position_lt ?_
    rwa [position_of_mem_lines hline, position_of_mem_lines hnext]
  · intro line hline next hnext
    obtain ⟨types, htypes, hline⟩ := List.mem_flatMap.mp hline
    obtain ⟨group, -, hnext⟩ := List.mem_flatMap.mp hnext
    have hposition := List.mem_map_of_mem (f := TypeSection.position) htypes
    rw [map_position_typeSections, List.mem_range] at hposition
    refine precedes_of_position_lt ?_
    rwa [position_of_mem_lines hline, position_of_mem_tokenHelpers hnext]

end Order

/-! ## Counting -/

/-- Among lines in order, none stands twice. -/
theorem nodup_of_pairwise {lines : List TypeLine} (h : lines.Pairwise TypeLine.Precedes) :
    lines.Nodup := by
  refine h.imp fun hprecedes => ?_
  rintro rfl
  exact absurd (hprecedes.name_lt rfl) (lt_irrefl _)

/-- A line that a grammar asks for on some condition is counted on that condition. -/
theorem count_sectionLines (hnodup : (sectionLines grammar).Nodup) {line : TypeLine} {p : Prop}
    [Decidable p] (h : AsksFor grammar line ↔ p) :
    (sectionLines grammar).count line = if p then 1 else 0 := by
  rw [← mem_sectionLines] at h
  split
  next hp => exact List.count_eq_one_of_mem hnodup (h.mpr hp)
  next hp => exact List.count_eq_zero_of_not_mem (mt h.mp hp)

/-- What is not extended is declared without a protocol. -/
theorem countP_declares {keyword name : String} (hkeyword : keyword ≠ "extension") :
    (sectionLines grammar).countP (·.declares keyword name) =
      (sectionLines grammar).count ⟨keyword, name, none⟩ := by
  refine List.countP_congr fun line hline => ?_
  have hnone : line.keyword = "extension" ∨ line.conformance = none := by
    cases mem_sectionLines.mp hline with
    | enumeration | listName | word | printing | defaultPrinting => exact .inr rfl
    | printable | helper => exact .inl rfl
  obtain ⟨keyword', name', conformance⟩ := line
  rcases hnone with rfl | rfl <;> simp [TypeLine.declares, hkeyword.symm]

/-- A category that is asked for as an enumeration is no token, and one that is asked for as a
structure or with helpers is one. -/
theorem AsksFor.isToken_of_name_eq {line : TypeLine} (h : AsksFor grammar line)
    (hnodup : (grammar.groups.map (·.name)).Nodup) {group : Group} (hgroup : group ∈ grammar.groups)
    (hname : line.name = group.name) :
    (line.keyword = "enum" → group.isToken = false) ∧
      (line.keyword = "struct" → group.isToken = true) ∧
        ∀ protocol ∈ helperProtocols, line.conformance = some protocol → group.isToken = true := by
  have hprinting : printingProtocol ∉ helperProtocols := by decide
  -- There is one category of the name.
  have hsame {other : Group} (hother : other ∈ grammar.groups) (heq : other.name = group.name) :
      other = group := List.inj_on_of_nodup_map hnodup hother hgroup heq
  cases h with
  | enumeration hother htoken =>
    rw [hsame hother hname] at htoken
    simp [htoken]
  | word hother htoken | helper hother htoken =>
    rw [hsame hother hname] at htoken
    simp [htoken]
  | listName | printing | defaultPrinting => simp
  | printable =>
    refine ⟨by simp, by simp, fun protocol hprotocol heq => ?_⟩
    exact absurd (Option.some.inj heq ▸ hprotocol) hprinting

/-- Without categories nothing is asked for but names for lists. -/
theorem AsksFor.groups_ne_nil {line : TypeLine} (h : AsksFor grammar line)
    (hkeyword : line.keyword ≠ "typealias") : grammar.groups ≠ [] := by
  cases h with
  | listName => exact absurd rfl hkeyword
  | printing hgroups | defaultPrinting hgroups => exact hgroups
  | enumeration hgroup | word hgroup | printable hgroup | helper hgroup =>
    exact List.ne_nil_of_mem hgroup

/-- The abstract syntax of an analysed grammar whose names are identifiers declares the types of the
grammar once each and in order, if the cases that were added by hand are lines. -/
theorem declaresTypes_of_analyze (h : analyze rules extra policy = .ok grammar)
    (hnames : HasBracketedIdentifiers grammar)
    (hextra : ∀ group ∈ grammar.groups, ∀ text ∈ group.extraCases, '\n' ∉ text.toList) :
    DeclaresTypes grammar (typeLines (abstractSyntaxSource grammar)) := by
  have hpartition := isPartition_of_analyze h
  have hgroups := nodup_names_of_analyze h
  have hordered := pairwise_sectionLines hpartition.pairwise_names hpartition.pairwise_listTypes
  have hnodup := nodup_of_pairwise hordered
  have hone {line : TypeLine} (hline : AsksFor grammar line) :
      (sectionLines grammar).count line = 1 :=
    List.count_eq_one_of_mem hnodup (mem_sectionLines.mpr hline)
  have hempty (n : Nat) : (if grammar.groups ≠ [] then n else 0) =
      if grammar.groups.isEmpty then 0 else n := by
    cases grammar.groups <;> rfl
  rw [typeLines_abstractSyntaxSource hnames hextra]
  exact {
    enumeration := fun group hgroup => by
      have hiff : AsksFor grammar ⟨"enum", group.name, none⟩ ↔ group.isToken = false :=
        ⟨fun hline => (hline.isToken_of_name_eq hgroups hgroup rfl).1 rfl, .enumeration hgroup⟩
      rw [countP_declares (by decide), count_sectionLines hnodup hiff]
      cases group.isToken <;> rfl
    word := fun group hgroup => by
      have hiff : AsksFor grammar ⟨"struct", group.name, none⟩ ↔ group.isToken = true :=
        ⟨fun hline => (hline.isToken_of_name_eq hgroups hgroup rfl).2.1 rfl, .word hgroup⟩
      rw [countP_declares (by decide), count_sectionLines hnodup hiff]
    printable := fun group hgroup => hone (.printable hgroup)
    helpers := fun group hgroup protocol hprotocol =>
      count_sectionLines hnodup
        ⟨fun hline => (hline.isToken_of_name_eq hgroups hgroup rfl).2.2 protocol hprotocol rfl,
          fun htoken => .helper hgroup htoken hprotocol⟩
    listName := fun category hcategory => by
      rw [countP_declares (by decide)]
      exact hone (.listName hcategory)
    printing := by
      rw [countP_declares (by decide), ← hempty]
      exact count_sectionLines hnodup ⟨fun hline => hline.groups_ne_nil (by decide), .printing⟩
    defaultPrinting := by
      rw [← hempty]
      exact count_sectionLines hnodup
        ⟨fun hline => hline.groups_ne_nil (by decide), .defaultPrinting⟩
    only := fun line => mem_sectionLines.mp
    ordered := hordered }

/-- A category that is boxed and has a case that was added by hand, a list of it, and a token. -/
theorem declaresTypes_expressions :
    ∃ grammar, analyze [.constructor ⟨"Call", "Exp", ["Name", "[Exp]"], .unknown⟩,
        .token ⟨"Name", .unknown⟩] [("Exp", ["hole"])] .all = .ok grammar ∧
      HasBracketedIdentifiers grammar ∧
      (∀ group ∈ grammar.groups, ∀ text ∈ group.extraCases, '\n' ∉ text.toList) ∧
      DeclaresTypes grammar (typeLines (abstractSyntaxSource grammar)) := by
  let grammar : Grammar := {
    rules := [.constructor ⟨"Call", "Exp", ["Name", "[Exp]"], .unknown⟩, .token ⟨"Name", .unknown⟩]
    groups := [⟨"Exp", .alternatives [⟨"Call", "Exp", ["Name", "[Exp]"], .unknown⟩], true,
        ["hole"]⟩,
      ⟨"Name", .token ⟨"Name", .unknown⟩, false, []⟩]
    listTypes := ["Exp"]
    entrypoints := ["Exp"] }
  have h : analyze grammar.rules [("Exp", ["hole"])] .all = .ok grammar := by cbv
  have hnames : HasBracketedIdentifiers grammar :=
    ⟨by decide +kernel, by decide +kernel, by decide +kernel, by decide +kernel⟩
  have hextra : ∀ group ∈ grammar.groups, ∀ text ∈ group.extraCases, '\n' ∉ text.toList := by
    decide +kernel
  exact ⟨grammar, h, hnames, hextra, declaresTypes_of_analyze h hnames hextra⟩

end SyntaxBridge.Swift
