import SyntaxBridge.Proofs.Grammar.Ident
import SyntaxBridge.Proofs.Text.Unified

/-!
# Names without carriage returns

The names in the rules of a grammar are parts of its lines, or put together from them with digits
and an underscore. A line holds no line end, so no carriage return stands in a name
(`isUnified_of_parseGrammar`).
-/

namespace SyntaxBridge

open Outcome Text

/-- The names that stand in a rule. -/
def Rule.names : Rule → List String
  | constructor rule => rule.label :: rule.type :: rule.construction
  | token rule => [rule.type]
  | entrypoint rule => rule.types

/-- No carriage return stands in the names of a rule. -/
def Rule.IsUnified (rule : Rule) : Prop :=
  ∀ name ∈ rule.names, Text.IsUnified name

/-- The category that a rule declares is among its names. -/
theorem Rule.IsUnified.type {rule : Rule} {type : String} (h : rule.IsUnified)
    (htype : rule.type? = some type) : Text.IsUnified type := by
  cases rule with
  | constructor rule =>
    cases htype
    exact h rule.type (by simp [names])
  | token rule =>
    cases htype
    exact h rule.type (by simp [names])
  | entrypoint rule => cases htype

/-- What a rule refers to is among its names. -/
theorem Rule.IsUnified.reference {rule : Rule} {name : String} (h : rule.IsUnified)
    (hmem : name ∈ rule.references) : Text.IsUnified name := by
  cases rule with
  | constructor rule =>
    exact h name (List.mem_cons_of_mem _ (List.mem_cons_of_mem _ hmem))
  | token rule => cases hmem
  | entrypoint rule => exact h name hmem

namespace Parser

variable {line : LineNumber} {rule text part name : List Char} {names : List (List Char)}
  {rules : List Rule}

/-! ## Parts of a line -/

/-- A category is named by characters of the text that names it. -/
theorem subset_of_cleanType (h : cleanType text = .ok name) : name ⊆ text := by
  have htrim (text : List Char) : trim text ⊆ text := (trim_sublist text).subset
  fun_induction cleanType text generalizing name with
  | case1 text inner hinner _ ih =>
    obtain ⟨clean, hclean, h⟩ := bind_eq_ok_iff.mp h
    cases h
    -- The brackets are characters of the text, too.
    obtain ⟨-, hbrackets⟩ := Category.inner?_eq_some_iff.mp hinner
    intro c hc
    refine htrim text ?_
    rw [hbrackets]
    have hinner : c ∈ clean → c ∈ inner := fun hmem => ih hclean hmem
    simp only [List.cons_append, List.mem_cons, List.mem_append, List.not_mem_nil,
      or_false] at hc ⊢
    exact hc.imp_right (Or.imp_left hinner)
  | case2 => cases h
  | case3 text =>
    cases h
    exact List.Subset.trans (dropTrailingDigits_subset _) (htrim text)

/-- The categories of texts hold no carriage return if the texts hold none. -/
theorem ReadAs.isUnified {texts : List (List Char)} {categories : List String}
    (h : ReadAs texts categories) (htexts : ∀ text ∈ texts, '\r' ∉ text) :
    ∀ category ∈ categories, IsUnified category := by
  induction h with
  | nil => exact List.forall_mem_nil _
  | cons hread _ ih =>
    obtain ⟨htext, htexts⟩ := List.forall_mem_cons.mp htexts
    refine List.forall_mem_cons.mpr ⟨?_, ih htexts⟩
    exact fun hmem => htext (subset_of_cleanType hread hmem)

/-- The categories of a definition hold no carriage return if the definition holds none. -/
theorem isUnified_of_cleanConstruction (h : cleanConstruction text = .ok names)
    (htext : '\r' ∉ text) : ∀ name ∈ toStrings names, IsUnified name := by
  unfold cleanConstruction at h
  split at h
  next => cases h
  next bare hbare =>
    refine (readAs_toStrings h).isUnified fun word hword hmem => ?_
    have hbare := Literal.subset_of_erase? hbare (subset_of_mem_words hword hmem)
    exact (List.mem_cons.mp hbare).elim (by decide) htext

/-- A label is made of characters of the text that gives it. -/
theorem cleanLabel_subset (text : List Char) : cleanLabel text ⊆ text := by
  have htrim : trim text ⊆ text := (trim_sublist text).subset
  rw [cleanLabel]
  dsimp only
  split_ifs
  · exact List.Subset.trans (firstWord_subset _).2 htrim
  · exact htrim

/-- The label of an alternative of a shorthand holds no carriage return if the shorthand holds
none. -/
theorem return_notMem_alternativeLabel {type alternative : List Char} (number : Nat)
    (htype : '\r' ∉ type) (halternative : '\r' ∉ alternative) :
    '\r' ∉ alternativeLabel type alternative number := by
  have hnumber : Lacks '\r' (toString number) := lacks_toString (by decide) number
  rw [alternativeLabel]
  split_ifs
  · rw [List.mem_append, List.mem_cons, not_or, not_or]
    exact ⟨htype, by decide, fun hmem => halternative (List.mem_of_mem_filter hmem)⟩
  · rw [List.mem_append, not_or]
    exact ⟨htype, hnumber⟩

/-! ## Declarations -/

/-- A declaration is made of characters of its line. -/
theorem subset_of_declaration (h : declaration text = .ok rule) : rule ⊆ text := by
  have htrim (text : List Char) : trim text ⊆ text := (trim_sublist text).subset
  unfold declaration at h
  dsimp only at h
  by_cases hend : (trim text).getLast? ≠ some ';'
  · rw [if_pos hend] at h
    cases h
  · rw [if_neg hend] at h
    split_ifs at h
    · cases h
    · cases h
      exact List.Subset.trans (htrim _) (List.Subset.trans (List.dropLast_subset _) (htrim _))

/-- A category that is read from a part of a text holds no carriage return if the text holds none. -/
theorem return_notMem_of_cleanType (h : cleanType part = .ok name) (hpart : part ⊆ text)
    (htext : '\r' ∉ text) : '\r' ∉ name :=
  fun hmem => htext (hpart (subset_of_cleanType h hmem))

/-- The names of a constructor hold no carriage return if its label, its category and its definition
hold none. -/
theorem isUnified_constructor {label type : List Char}
    (h : cleanConstruction text = .ok names) (hlabel : '\r' ∉ label) (htype : '\r' ∉ type)
    (htext : '\r' ∉ text) :
    (Rule.constructor ⟨String.ofList label, String.ofList type, toStrings names, line⟩).IsUnified :=
  List.forall_mem_cons.mpr ⟨isUnified_ofList.mpr hlabel,
    List.forall_mem_cons.mpr ⟨isUnified_ofList.mpr htype, isUnified_of_cleanConstruction h htext⟩⟩

/-- A token is named by a word of its declaration. -/
theorem isUnified_of_readToken {token : Rule} (h : readToken line text = .ok token)
    (htext : '\r' ∉ text) : token.IsUnified := by
  obtain ⟨_, name, _, type, hwords, htype, rfl⟩ := readToken_eq_ok h
  have hname : name ⊆ text := subset_of_mem_words (by simp [hwords])
  have htype : '\r' ∉ type := return_notMem_of_cleanType htype hname htext
  exact List.forall_mem_singleton.mpr (isUnified_ofList.mpr htype)

/-- Entrypoints are named between the commas of their declaration. -/
theorem isUnified_of_readEntrypoint {entrypoint : Rule}
    (h : readEntrypoint line text = .ok entrypoint) (htext : '\r' ∉ text) :
    entrypoint.IsUnified := by
  obtain ⟨types, htypes, _, rfl⟩ := readEntrypoint_eq_ok h
  refine (readAs_toStrings htypes).isUnified fun part hpart hmem => htext ?_
  exact subset_of_mem_splitWhere (List.mem_of_mem_filter hpart) hmem

/-- The constructors of a shorthand are named by its category and its alternatives. -/
theorem isUnified_of_readAlternatives (h : readAlternatives line text = .ok (rules.map .ok))
    (htext : '\r' ∉ text) : ∀ declared ∈ rules, declared.IsUnified := by
  obtain ⟨typeText, definition, type, hcut, htype, hrules⟩ := readAlternatives_eq_ok h
  obtain ⟨hfront, hback⟩ := subset_of_cutAt? hcut
  have htype : '\r' ∉ type := return_notMem_of_cleanType htype hfront htext
  intro declared hdeclared
  obtain ⟨alternative, halternative, number, hread⟩ := hrules declared hdeclared
  obtain ⟨construction, hconstruction, rfl⟩ := readAlternative_eq_ok hread
  obtain ⟨part, hpart, rfl⟩ := List.mem_map.mp halternative
  have hdefinition : '\r' ∉ trim part := fun hmem =>
    htext (hback (subset_of_mem_splitWhere hpart ((trim_sublist part).subset hmem)))
  -- The label is put together from the category and the alternative, or its number.
  have hlabel := return_notMem_alternativeLabel number htype hdefinition
  exact isUnified_constructor hconstruction hlabel htype hdefinition

/-- The constructor of a labelled rule is named by what stands before its definition. -/
theorem isUnified_of_readConstructor (h : readConstructor line text = .ok rules)
    (htext : '\r' ∉ text) : ∀ declared ∈ rules, declared.IsUnified := by
  intro declared hdeclared
  obtain ⟨head, definition, labelText, typeText, type, construction, hcut, hdot, htype,
    hconstruction, rfl⟩ := readConstructor_eq_ok h declared hdeclared
  obtain ⟨hhead, hdefinition⟩ := subset_of_cutAt? hcut
  obtain ⟨hlabelText, htypeText⟩ := subset_of_cutAt? hdot
  have hlabel : '\r' ∉ cleanLabel labelText := fun hmem =>
    htext (hhead (hlabelText (cleanLabel_subset _ hmem)))
  have htype : '\r' ∉ type :=
    return_notMem_of_cleanType htype (List.Subset.trans htypeText hhead) htext
  exact isUnified_constructor hconstruction hlabel htype fun hmem => htext (hdefinition hmem)

/-- The names in the rules of a declaration hold no carriage return if the declaration holds none. -/
theorem Declares.isUnified (h : Declares line rule rules) (hrule : '\r' ∉ rule) :
    ∀ declared ∈ rules, declared.IsUnified := by
  -- Two of the readers are given what stands behind the keyword.
  have hbehind (count : Nat) : '\r' ∉ rule.drop count := fun hmem =>
    hrule (List.drop_subset _ _ hmem)
  cases h with
  | pragma => exact List.forall_mem_nil _
  | token _ hread => exact List.forall_mem_singleton.mpr (isUnified_of_readToken hread hrule)
  | entrypoints _ hread =>
    exact List.forall_mem_singleton.mpr (isUnified_of_readEntrypoint hread (hbehind _))
  | shorthand _ hread => exact isUnified_of_readAlternatives hread (hbehind _)
  | labelled _ hread => exact isUnified_of_readConstructor hread hrule

end Parser

/-! ## Grammars -/

/-- No carriage return stands in the names of a grammar that is read from a text. -/
theorem isUnified_of_parseGrammar {text : String} {rules : List Rule}
    (h : parseGrammar text = .ok rules) : ∀ rule ∈ rules, rule.IsUnified := by
  obtain ⟨-, rfl⟩ := eq_injectIdent_of_parseGrammar h
  intro rule hrule
  rcases mem_injectIdent hrule with hgiven | ⟨rfl, -⟩
  · obtain ⟨number, line, rules, hline, hread, hmem⟩ := mem_rulesOfLines_iff.mp hgiven
    obtain ⟨declaration, hdeclaration, hdeclares⟩ := Parser.exists_declares_of_parseLine hread
    have hreturn : '\r' ∉ line.toList :=
      return_notMem_of_mem_splitLines (List.mem_of_getElem? hline.getElem?_eq)
    refine hdeclares.isUnified (fun hmem => hreturn ?_) rule hmem
    exact Parser.subset_of_declaration hdeclaration hmem
  · exact List.forall_mem_singleton.mpr (by decide)

end SyntaxBridge
