import Mathlib
import SyntaxBridge.Proofs.Grammar.Entrypoints
import SyntaxBridge.Proofs.Swift.Block
import SyntaxBridge.Proofs.Swift.Definition
import SyntaxBridge.Proofs.Swift.Name

/-!
# The functions that parse files

A bridge has one function that parses a file for each entry of the entrypoints, in order. Two of
these functions have the same head exactly if their entries name one category, or two categories
whose types are called alike (`Clash`). So the functions of a bridge can be told apart exactly if no
two entries of the declaration clash, which nothing in the reading of a grammar rules out
(`parsesEntrypoints_of_analyze`).

* `typeName_eq_iff`: which categories have types that are called alike.
* `filter_startsParseFile_bridge`: the heads of the functions are lines of the bridge.
* `nodup_functions_iff`, `nodup_heads_iff`: what tells the functions and their heads apart.
-/

namespace SyntaxBridge.Swift

open BridgeDeclaration Text

variable {text : String} {rules : List Rule} {extra : ExtraCases} {policy : BoxPolicy}
  {grammar : Grammar} {texts : List (List Char)} {a b : String}

/-- A category is called like the type of another. -/
inductive IsCalledLikeTypeOf : String → String → Prop
  /-- The lists of `T` have the type `ListT`. -/
  | list {element : String} (h : element ≠ "") :
    IsCalledLikeTypeOf ("List" ++ element) (Category.listOf element)
  /-- Integers have the type `Int`. -/
  | integer : IsCalledLikeTypeOf "Int" "Integer"
  /-- Characters have the type `Character`. -/
  | char : IsCalledLikeTypeOf "Character" "Char"

/-- Two categories are the same, or one is called like the type of the other. -/
def SharesType (a b : String) : Prop :=
  a = b ∨ IsCalledLikeTypeOf a b ∨ IsCalledLikeTypeOf b a

/-- Two entries of a declaration name categories whose types are called alike. -/
def Clash (entry other : List Char) : Prop :=
  ∃ a b : String, Parser.cleanType entry = .ok a.toList ∧ Parser.cleanType other = .ok b.toList ∧
    SharesType a b

/-- Whether a line starts like a function that parses a file. -/
def startsParseFile (line : String) : Bool :=
  startsWith "public func parseFile(" line

/-- Whether a declaration is a function that parses a file. -/
def BridgeDeclaration.parsesFile : BridgeDeclaration → Bool
  | parseFile _ => true
  | _ => false

/-- What is known about the functions of a bridge that parse a file. -/
structure ParsesEntrypoints (text : String) (grammar : Grammar) (module : String) : Prop where
  /-- The entrypoints that a line names are read one by one, in order. -/
  declared : ∀ texts, LineNamesEntrypoints text texts →
    grammar.entrypoints ≠ [] ∧ Parser.ReadAs texts grammar.entrypoints
  /-- Without such a line the category of the first alternative is the only one. -/
  undeclared : (∀ texts, ¬LineNamesEntrypoints text texts) →
    grammar.entrypoints = ((grammar.rules.findSome? Rule.constructor?).map (·.type)).toList
  /-- There is one function for each entrypoint, in order. -/
  functions_eq : (bridge grammar).filter (·.parsesFile) = grammar.entrypoints.map parseFile
  /-- It stands in the source as a block of its own. -/
  holdsBlock : ∀ category ∈ grammar.entrypoints,
    HoldsBlock (bridgeSource grammar module) ((parseFile category).lines module)
  /-- No other lines of the bridge start like such a function than their heads. -/
  heads_eq : ((bridge grammar).flatMap (lines module)).filter startsParseFile =
    grammar.entrypoints.map parseFileHead
  /-- No category has two functions exactly if no two entries name one category. -/
  nodup_functions_iff : ∀ texts, LineNamesEntrypoints text texts →
    (((bridge grammar).filter (·.parsesFile)).Nodup ↔
      texts.Pairwise fun entry other => Parser.cleanType entry ≠ Parser.cleanType other)
  /-- No two functions have the same head exactly if no two entries clash. -/
  nodup_heads_iff : ∀ texts, LineNamesEntrypoints text texts →
    ((((bridge grammar).flatMap (lines module)).filter startsParseFile).Nodup ↔
      texts.Pairwise fun entry other => ¬Clash entry other)

/-! ## Categories whose types are called alike -/

/-- The type of a category that is not called like the category itself is one of those listed. -/
theorem eq_or_isCalledLikeTypeOf (a : String) :
    typeName a = a ∨ IsCalledLikeTypeOf (typeName a) a := by
  cases hlist : Category.isList a with
  | true =>
    obtain ⟨element, hne, rfl⟩ := Category.isList_iff.mp hlist
    rw [typeName_listOf hne]
    exact .inr (.list hne)
  | false =>
    rw [typeName, if_neg (by simp [hlist])]
    cases hscalar : scalarTypes.lookup a with
    | none => exact .inl rfl
    | some type =>
      obtain ⟨before, after, hentries, -⟩ := List.lookup_eq_some_iff.mp hscalar
      have hmem : (a, type) ∈ scalarTypes := by simp [hentries]
      simp only [scalarTypes, List.mem_cons, Prod.mk.injEq, List.not_mem_nil, or_false] at hmem
      rcases hmem with ⟨rfl, rfl⟩ | ⟨rfl, rfl⟩ | ⟨rfl, rfl⟩ | ⟨rfl, rfl⟩
      · exact .inr .integer
      · exact .inl rfl
      · exact .inl rfl
      · exact .inr .char

/-- The name of the type of lists is no other name. -/
theorem typeName_list_append (element : String) :
    typeName ("List" ++ element) = "List" ++ element := by
  have hhead : ("List" ++ element).toList.head? = some 'L' := by
    rw [String.toList_append]
    rfl
  have hlist : Category.isList ("List" ++ element) = false := by
    rw [← Bool.not_eq_true, Category.isList_iff]
    rintro ⟨inner, -, heq⟩
    rw [heq, Category.listOf, String.append_assoc, String.toList_append] at hhead
    cases hhead
  have hlookup : scalarTypes.lookup ("List" ++ element) = none := by
    rw [List.lookup_eq_none_iff]
    intro entry hentry
    have hscalars : ∀ entry ∈ scalarTypes, entry.1.toList.head? ≠ some 'L' := by decide
    exact bne_iff_ne.mpr fun heq => hscalars entry hentry (heq ▸ hhead)
  rw [typeName, if_neg (by simp [hlist]), hlookup, Option.getD_none]

namespace IsCalledLikeTypeOf

/-- Both categories have the type that one is called like. -/
theorem typeName_eq (h : IsCalledLikeTypeOf a b) : typeName a = a ∧ typeName b = a := by
  cases h with
  | list hne => exact ⟨typeName_list_append _, typeName_listOf hne⟩
  | integer => decide
  | char => decide

/-- No category is called like the types of two others. -/
theorem unique {c d : String} (h : IsCalledLikeTypeOf a c) (h' : IsCalledLikeTypeOf b d)
    (heq : a = b) : c = d := by
  have hlist {element name : String} (hname : name.toList.head? ≠ some 'L') :
      "List" ++ element ≠ name := by
    rintro rfl
    exact hname (by rw [String.toList_append]; rfl)
  cases h with
  | list hne =>
    cases h' with
    | list hne' => rw [(String.append_right_inj "List").mp heq]
    | integer => exact absurd heq (hlist (by decide))
    | char => exact absurd heq (hlist (by decide))
  | integer =>
    cases h' with
    | list hne => exact absurd heq.symm (hlist (by decide))
    | integer => rfl
    | char => exact absurd heq (by decide)
  | char =>
    cases h' with
    | list hne => exact absurd heq.symm (hlist (by decide))
    | integer => exact absurd heq (by decide)
    | char => rfl

end IsCalledLikeTypeOf

/-- The types of two categories are called alike exactly if the categories are the same, or one is
called like the type of the other. -/
theorem typeName_eq_iff : typeName a = typeName b ↔ SharesType a b := by
  constructor
  · intro h
    rcases eq_or_isCalledLikeTypeOf a with ha | ha
    · rcases eq_or_isCalledLikeTypeOf b with hb | hb
      · exact .inl (ha.symm.trans (h.trans hb))
      · rw [← h, ha] at hb
        exact .inr (.inl hb)
    · rcases eq_or_isCalledLikeTypeOf b with hb | hb
      · rw [h, hb] at ha
        exact .inr (.inr ha)
      · exact .inl (ha.unique hb h)
  · rintro (rfl | h | h)
    · rfl
    · rw [h.typeName_eq.1, h.typeName_eq.2]
    · rw [h.typeName_eq.1, h.typeName_eq.2]

/-! ## The functions of a bridge -/

/-- What starts like a function that parses a file is its head. -/
theorem startsParseFile_parseFileHead (category : String) :
    startsParseFile (parseFileHead category) = true := by
  unfold startsParseFile parseFileHead
  apply startsWith_append
  exact startsWith_append _ (by decide)

/-- Functions that visit values do not start like one that parses a file. -/
theorem startsParseFile_head (definition : Definition) :
    startsParseFile definition.head = false := by
  rw [startsParseFile, Definition.head, visitHead_eq_append]
  exact startsWith_append_eq_false _ (by decide) (by decide)

/-- No line of another declaration starts like a function that parses a file. -/
theorem filter_startsParseFile_lines (module : String) {d : BridgeDeclaration}
    (h : d.parsesFile = false) : (d.lines module).filter startsParseFile = [] := by
  have hlines : (d.lines module).filter startsParseFile =
      (d.head? module).toList.filter startsParseFile :=
    filter_startsWith_lines (by decide) module d
  have hvisit (definition : Definition) : [definition.head].filter startsParseFile = [] :=
    List.filter_cons_of_neg (ne_true_of_eq_false (startsParseFile_head definition))
  rw [hlines]
  cases d with
  | imports => rfl
  | heading => rfl
  | parseFile category => cases h
  | visit name cases => exact hvisit (valueDefinition module name)
  | visitList category => exact hvisit (listDefinition module category)
  | visitToken name => exact hvisit (valueDefinition module name)
  | visitScalar conversion => exact hvisit (scalarDefinition module conversion)

/-- The only line of a function that starts like one that parses a file is its head. -/
theorem filter_startsParseFile_parseFile (module category : String) :
    ((parseFile category).lines module).filter startsParseFile = [parseFileHead category] := by
  have hlines : ((parseFile category).lines module).filter startsParseFile =
      [parseFileHead category].filter startsParseFile :=
    filter_startsWith_lines (by decide) module (parseFile category)
  rw [hlines, List.filter_cons_of_pos (startsParseFile_parseFileHead category), List.filter_nil]

/-- What is read off nothing but functions that parse a file is read off the entrypoints. -/
theorem flatMap_bridge_of_parsesFile {β : Type} {f : BridgeDeclaration → List β}
    (h : ∀ d, d.parsesFile = false → f d = []) (grammar : Grammar) :
    (bridge grammar).flatMap f = grammar.entrypoints.flatMap (f ∘ parseFile) := by
  have hnone {α : Type} (entry : α → BridgeDeclaration) (entries : List α)
      (hentry : ∀ a, (entry a).parsesFile = false) : entries.flatMap (f ∘ entry) = [] :=
    List.flatMap_eq_nil_iff.mpr fun a _ => h (entry a) (hentry a)
  rw [flatMap_bridge (h _ rfl) fun _ => h _ rfl, hnone visitGroup _ fun _ => rfl,
    hnone visitList _ fun _ => rfl, hnone (fun group : Group => visitToken group.name) _ fun _ => rfl,
    hnone visitScalar _ fun _ => rfl]
  simp only [List.append_nil]

/-- The functions of a bridge that parse a file are those for its entrypoints. -/
theorem filter_parsesFile_bridge (grammar : Grammar) :
    (bridge grammar).filter (·.parsesFile) = grammar.entrypoints.map parseFile := by
  -- Picking out declarations is reading them off one by one.
  calc (bridge grammar).filter (·.parsesFile)
      = (bridge grammar).flatMap fun d => [d].filter (·.parsesFile) := by
        rw [← List.filter_flatMap, List.flatMap_singleton']
    _ = grammar.entrypoints.flatMap fun category => [parseFile category] := by
        refine flatMap_bridge_of_parsesFile (fun d hd => ?_) grammar
        exact List.filter_cons_of_neg (ne_true_of_eq_false hd)
    _ = grammar.entrypoints.map parseFile := List.map_eq_flatMap.symm

/-- The lines of a bridge that start like a function that parses a file are the heads for its
entrypoints. -/
theorem filter_startsParseFile_bridge (grammar : Grammar) (module : String) :
    ((bridge grammar).flatMap (lines module)).filter startsParseFile =
      grammar.entrypoints.map parseFileHead := by
  rw [List.filter_flatMap,
    flatMap_bridge_of_parsesFile fun d => filter_startsParseFile_lines module, List.map_eq_flatMap]
  exact List.flatMap_congr fun category _ => filter_startsParseFile_parseFile module category

/-! ## Entries that are read alike -/

/-- Functions that parse a file have the same head exactly if their types are called alike. -/
theorem parseFileHead_eq_iff : parseFileHead a = parseFileHead b ↔ SharesType a b := by
  rw [← typeName_eq_iff]
  unfold parseFileHead
  rw [String.append_left_inj, String.append_right_inj]

section Entries

variable {categories : List String} (h : Parser.ReadAs texts categories)

include h

/-- What holds of any two of the entries is read off their categories. -/
theorem pairwise_cleanType_iff
    (R : Except Cause (List Char) → Except Cause (List Char) → Prop) :
    (texts.Pairwise fun entry other => R (Parser.cleanType entry) (Parser.cleanType other)) ↔
      categories.Pairwise fun a b => R (.ok a.toList) (.ok b.toList) := by
  have hread : texts.map Parser.cleanType = categories.map (.ok ·.toList) := by
    rw [← List.forall₂_eq_eq_eq, List.forall₂_map_left_iff, List.forall₂_map_right_iff]
    exact h
  rw [← List.pairwise_map (R := R), hread, List.pairwise_map]

/-- No two functions for entries are the same exactly if no two entries name one category. -/
theorem nodup_map_parseFile_iff :
    (categories.map parseFile).Nodup ↔
      texts.Pairwise fun entry other => Parser.cleanType entry ≠ Parser.cleanType other := by
  rw [pairwise_cleanType_iff h (· ≠ ·), List.Nodup, List.pairwise_map]
  simp only [ne_eq, parseFile.injEq, Except.ok.injEq, String.toList_inj]

/-- No two heads for entries are the same exactly if no two entries clash. -/
theorem nodup_map_parseFileHead_iff :
    (categories.map parseFileHead).Nodup ↔
      texts.Pairwise fun entry other => ¬Clash entry other := by
  have hclash := pairwise_cleanType_iff h fun x y =>
    ¬∃ a b : String, x = .ok a.toList ∧ y = .ok b.toList ∧ SharesType a b
  refine Iff.trans ?_ hclash.symm
  rw [List.Nodup, List.pairwise_map]
  simp only [ne_eq, parseFileHead_eq_iff, Except.ok.injEq, String.toList_inj]
  simp only [exists_and_left, exists_eq_left']

end Entries

/-- A bridge has one function that parses a file for each entry of the entrypoints, and no two have
the same head exactly if no two entries clash. -/
theorem parsesEntrypoints_of_analyze (hread : parseGrammar text = .ok rules)
    (h : analyze rules extra policy = .ok grammar) (module : String) :
    ParsesEntrypoints text grammar module := by
  refine {
    declared := fun texts => entrypoints_of_namesEntrypoints hread h
    undeclared := ?_
    functions_eq := filter_parsesFile_bridge grammar
    holdsBlock := ?_
    heads_eq := filter_startsParseFile_bridge grammar module
    nodup_functions_iff := ?_
    nodup_heads_iff := ?_ }
  · rw [rules_of_analyze h]
    exact entrypoints_of_undeclared hread h
  · intro category hcategory
    exact holdsBlock_of_mem (List.mem_map_of_mem (parseFile_mem_bridge hcategory)) rfl
  · intro texts hnames
    rw [filter_parsesFile_bridge]
    exact nodup_map_parseFile_iff (entrypoints_of_namesEntrypoints hread h hnames).2
  · intro texts hnames
    rw [filter_startsParseFile_bridge]
    exact nodup_map_parseFileHead_iff (entrypoints_of_namesEntrypoints hread h hnames).2

/-- Lists of a category and a category that is called like their type are two entrypoints with one
head. -/
theorem parsesEntrypoints_list :
    ∃ rules grammar,
      parseGrammar "EInt. Exp ::= Integer ;\nentrypoints [Exp], ListExp ;" = .ok rules ∧
      analyze rules = .ok grammar ∧ grammar.entrypoints = ["[Exp]", "ListExp"] ∧
      ParsesEntrypoints "EInt. Exp ::= Integer ;\nentrypoints [Exp], ListExp ;" grammar
        "CGrammar" := by
  let alternative : Constructor := ⟨"EInt", "Exp", ["Integer"], .number 1⟩
  let grammar : Grammar := {
    rules := [.constructor alternative, .entrypoint ⟨["[Exp]", "ListExp"], .number 2⟩]
    groups := [⟨"Exp", .alternatives [alternative], true, []⟩]
    listTypes := ["Exp"]
    entrypoints := ["[Exp]", "ListExp"] }
  have hread : parseGrammar "EInt. Exp ::= Integer ;\nentrypoints [Exp], ListExp ;" =
      .ok grammar.rules := by decide +kernel
  have h : analyze grammar.rules = .ok grammar := by cbv
  exact ⟨grammar.rules, grammar, hread, h, rfl, parsesEntrypoints_of_analyze hread h "CGrammar"⟩

/-- A category that is named at two levels of precedence has two functions with one head. -/
theorem entrypoint_parsed_twice :
    ∃ rules grammar,
      parseGrammar "EInt. Exp ::= Integer ;\nentrypoints Exp, Exp1 ;" = .ok rules ∧
      analyze rules = .ok grammar ∧
      ((bridge grammar).flatMap (lines "CGrammar")).filter startsParseFile =
        [parseFileHead "Exp", parseFileHead "Exp"] ∧
      ¬(((bridge grammar).flatMap (lines "CGrammar")).filter startsParseFile).Nodup := by
  let alternative : Constructor := ⟨"EInt", "Exp", ["Integer"], .number 1⟩
  let grammar : Grammar := {
    rules := [.constructor alternative, .entrypoint ⟨["Exp", "Exp"], .number 2⟩]
    groups := [⟨"Exp", .alternatives [alternative], true, []⟩]
    listTypes := []
    entrypoints := ["Exp", "Exp"] }
  have hread : parseGrammar "EInt. Exp ::= Integer ;\nentrypoints Exp, Exp1 ;" =
      .ok grammar.rules := by decide +kernel
  have h : analyze grammar.rules = .ok grammar := by cbv
  have hheads := filter_startsParseFile_bridge grammar "CGrammar"
  refine ⟨grammar.rules, grammar, hread, h, hheads, ?_⟩
  rw [hheads]
  exact fun hnodup => (List.nodup_cons.mp hnodup).1 List.mem_cons_self

end SyntaxBridge.Swift
