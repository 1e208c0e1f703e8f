import Mathlib
import SyntaxBridge.Proofs.Grammar.Declaration
import SyntaxBridge.Proofs.Grammar.ListCategory
import SyntaxBridge.Proofs.Text.Identifier

/-!
# Shorthands, written out

A shorthand stands for several labelled rules: one for each of its alternatives, with a label that
is made up from the category and the alternative. Reading it does not write these rules out, but
gives what they would be read as (`expandsTo_of_writesShorthand`). Every line whose first word is
`rules` is such a shorthand if it can be read (`exists_writesShorthand`).

Labels that are named after a symbol have an underscore behind the category and numbered ones a
digit, so that only alternatives that are the same without their quotes share a label
(`unquoted_eq_of_alternativeLabel_eq`).
-/

namespace SyntaxBridge

open Outcome Text

/-- The texts that define a category by a shorthand: the keyword, the category, the definition mark
and the definition, with white space around them, and the semicolon. -/
inductive WritesShorthand (typeText definition : List Char) : List Char → Prop
  | line {start space finish : List Char} (hstart : allBlank start = true) (hne : space ≠ [])
    (hspace : allBlank space = true) (hfinish : allBlank finish = true) :
    WritesShorthand typeText definition
      (start ++ "rules".toList ++ space ++ typeText ++ "::=".toList ++ definition ++ [';'] ++
        finish)

namespace Parser

/-- The alternatives of a definition that hold something. -/
def alternatives (definition : List Char) : List (List Char) :=
  ((splitOn '|' definition).map trim).filter (!·.isEmpty)

/-- An alternative without its quotes. -/
def unquoted (alternative : List Char) : List Char :=
  alternative.filter (· ≠ '"')

/-- A labelled rule, written out. -/
def labelledRule (label type definition : List Char) : List Char :=
  label ++ ". ".toList ++ type ++ " ::= ".toList ++ definition ++ " ;".toList

/-- The labelled rules that a shorthand stands for, a line for each. -/
def expansions (type definition : List Char) : List String :=
  (alternatives definition).mapIdx fun i alternative =>
    String.ofList (labelledRule (alternativeLabel type alternative (i + 1)) type alternative)

variable {text type typeText alternative definition : List Char} {number : Nat} {line : LineNumber}

/-! ## The category -/

/-- What is read as a category without brackets is the category, and digits behind it. -/
theorem exists_trim_eq_of_cleanType (h : cleanType text = .ok type)
    (hword : ∀ c ∈ type, isAsciiWordChar c = true) :
    IsWordName type ∧ ∃ digits, (∀ c ∈ digits, isDecimalDigit c = true) ∧
      trim text = type ++ digits := by
  cases hinner : Category.inner? (trim text) with
  | some inner =>
    -- The category would start with a bracket.
    rw [cleanType_of_inner?_eq_some hinner] at h
    cases hread : cleanType inner <;> rw [hread] at h <;> cases h
    exact absurd (hword '[' List.mem_cons_self) (by decide)
  | none =>
    rw [cleanType_of_inner?_eq_none hinner] at h
    split at h
    · cases h
    next hne =>
      cases h
      exact ⟨⟨fun hnil => hne (List.isEmpty_iff.mpr hnil), hword,
        isDecimalDigit_getLast?_dropTrailingDigits⟩, exists_eq_dropTrailingDigits_append (trim text)⟩

/-! ## Labels -/

/-- A label is the category with something behind it. -/
theorem exists_alternativeLabel_eq_append (type alternative : List Char) (number : Nat) :
    ∃ back, back ≠ [] ∧ alternativeLabel type alternative number = type ++ back ∧
      ∀ c ∈ back, isAsciiWordChar c = true := by
  rw [alternativeLabel]
  split
  next hsymbol =>
    refine ⟨_, List.cons_ne_nil _ _, rfl, List.forall_mem_cons.mpr ⟨by decide, ?_⟩⟩
    exact List.all_eq_true.mp (Bool.and_eq_true_iff.mp hsymbol).2
  next =>
    refine ⟨_, by simp, rfl, fun c hc => ?_⟩
    rw [isAsciiWordChar, Char.isAlphanum, isDigit_of_mem_toString hc, Bool.or_true, Bool.true_or]

/-- A label consists of characters of words. -/
theorem isAsciiWordChar_of_mem_alternativeLabel (htype : IsWordName type) :
    ∀ c ∈ alternativeLabel type alternative number, isAsciiWordChar c = true := by
  obtain ⟨back, -, hlabel, hback⟩ := exists_alternativeLabel_eq_append type alternative number
  rw [hlabel]
  exact List.forall_mem_append.mpr ⟨htype.isWord, hback⟩

/-- No label is discarded: it has at least two characters, and all of them are those of words. -/
theorem alternativeLabel_notMem_discardedLabels (htype : IsWordName type) :
    String.ofList (alternativeLabel type alternative number) ∉ discardedLabels := by
  have hdiscarded : ∀ label ∈ discardedLabels,
      label.toList.length < 2 ∨ label.toList.all isAsciiWordChar = false := by decide
  intro hmem
  rcases hdiscarded _ hmem with hlength | hmark
  · obtain ⟨back, hback, hlabel, -⟩ := exists_alternativeLabel_eq_append type alternative number
    have htypeLength := List.length_pos_iff.mpr htype.ne_nil
    have hbackLength := List.length_pos_iff.mpr hback
    rw [String.toList_ofList, hlabel, List.length_append] at hlength
    omega
  · rw [String.toList_ofList, List.all_eq_true.mpr (isAsciiWordChar_of_mem_alternativeLabel htype)]
      at hmark
    cases hmark

/-- Only alternatives that are the same word without their quotes share a label: an underscore is no
digit, and different numbers are written differently. -/
theorem unquoted_eq_of_alternativeLabel_eq {first second : List Char} {i j : Nat} (hne : i ≠ j)
    (h : alternativeLabel type first i = alternativeLabel type second j) :
    unquoted first = unquoted second ∧ unquoted first ≠ [] ∧
      ∀ c ∈ unquoted first, isAsciiWordChar c = true := by
  have hnumber (symbol : List Char) (number : Nat) :
      '_' :: symbol ≠ (toString number).toList := by
    intro heq
    have hmem : '_' ∈ (toString number).toList := heq ▸ List.mem_cons_self
    exact absurd (isDigit_of_mem_toString hmem) (by decide)
  rw [alternativeLabel, alternativeLabel] at h
  -- Both labels are named after symbols, or one of them is, or both are numbered.
  split_ifs at h with hfirst hsecond hsecond
  · obtain ⟨hsymbol, hword⟩ := Bool.and_eq_true_iff.mp hfirst
    have hsymbol : (!(unquoted first).isEmpty) = true := hsymbol
    refine ⟨List.tail_eq_of_cons_eq (List.append_cancel_left h), ?_, List.all_eq_true.mp hword⟩
    rintro hnil
    rw [hnil] at hsymbol
    cases hsymbol
  · exact absurd (List.append_cancel_left h) (hnumber _ _)
  · exact absurd (List.append_cancel_left h).symm (hnumber _ _)
  · exact absurd (eq_of_toList_toString_eq (List.append_cancel_left h)) hne

/-- A label without white space is read as it is. -/
theorem cleanLabel_eq_self {label : List Char} (hne : label ≠ [])
    (h : ∀ c ∈ label, isBlank c = false) : cleanLabel label = label := by
  have hfirst : firstWord (label ++ []) = (label, []) := firstWord_append hne h (by simp)
  rw [List.append_nil] at hfirst
  rw [cleanLabel, trim_eq_self (isBare_of_forall h), hfirst]
  simp

/-! ## The rules that are written out -/

/-- White space in front of a definition means nothing. -/
theorem cleanConstruction_cons {c : Char} (h : isBlank c = true) :
    cleanConstruction (c :: text) = cleanConstruction text := by
  have hquote : c ≠ '"' := by
    rintro rfl
    exact absurd h (by decide)
  rw [cleanConstruction, Literal.erase?_cons_of_ne hquote, cleanConstruction]
  cases Literal.erase? text with
  | none => rfl
  | some bare => exact congrArg (·.mapM cleanType) (words_cons_of_isBlank h bare)

section LabelledRule

variable {label : List Char} (hlabelNe : label ≠ [])
  (hlabel : ∀ c ∈ label, isAsciiWordChar c = true)
  (hkept : String.ofList label ∉ discardedLabels) (htype : IsWordName type)
  (hdefinitionNe : definition ≠ []) (hdefinition : IsBare definition)

include hlabelNe hlabel hdefinitionNe hdefinition

/-- A labelled rule that is written out is a declaration. -/
theorem declaration_labelledRule :
    declaration (labelledRule label type definition) =
      .ok (label ++ '.' :: (' ' :: type ++ [' ']) ++ (definitionMark ++ ' ' :: definition)) := by
  let rule := label ++ '.' :: (' ' :: type ++ [' ']) ++ (definitionMark ++ ' ' :: definition)
  have hline : labelledRule label type definition = [] ++ (rule ++ [' '] ++ [';']) ++ [] := by
    simp [labelledRule, rule, definitionMark]
  have hhead : ∀ c ∈ (rule ++ [' ']).head?, isBlank c = false := by
    obtain ⟨first, others, rfl⟩ := List.exists_cons_of_ne_nil hlabelNe
    rintro c ⟨⟩
    exact isBlank_eq_false_of_isAsciiWordChar (hlabel first List.mem_cons_self)
  have hlast : ∀ c ∈ rule.getLast?, isBlank c = false := by
    have hrule : rule.getLast? = definition.getLast? := by
      have hcons : (' ' :: definition).getLast? = definition.getLast? :=
        List.getLast?_cons_of_ne_nil hdefinitionNe
      rw [← hcons, List.getLast?_append_of_ne_nil _ (by simp),
        List.getLast?_append_of_ne_nil _ (List.cons_ne_nil _ _)]
    rw [hrule]
    exact hdefinition.last
  rw [hline, declaration_append rfl rfl (by simp) hhead, trimEnd_append hlast (by decide)]

include hkept htype

/-- A labelled rule that is written out reads as its constructor. -/
theorem parseLine_labelledRule {construction : List (List Char)}
    (hread : cleanConstruction definition = .ok construction) :
    parseLine (String.ofList (labelledRule label type definition)) line =
      .ok [.constructor
        ⟨String.ofList label, String.ofList type, toStrings construction, line⟩] := by
  have hblank : ∀ c ∈ label, isBlank c = false := fun c hc =>
    isBlank_eq_false_of_isAsciiWordChar (hlabel c hc)
  have hdeclaration : declaration (labelledRule label type definition) =
      .ok (label ++ '.' :: (' ' :: type ++ [' ']) ++ (definitionMark ++ ' ' :: definition)) :=
    declaration_labelledRule hlabelNe hlabel hdefinitionNe hdefinition
  -- The first word ends in the dot, which stands in no keyword.
  have hkeyword : String.ofList (firstWord
      (label ++ '.' :: (' ' :: type ++ [' ']) ++ (definitionMark ++ ' ' :: definition))).1 ∉
        lineKeywords := by
    have hdots : ∀ keyword ∈ lineKeywords, '.' ∉ keyword.toList := by decide
    have hword : ∀ c ∈ label ++ ['.'], isBlank c = false :=
      List.forall_mem_append.mpr ⟨hblank, List.forall_mem_singleton.mpr (by decide)⟩
    have hspace : ∀ c ∈ (' ' :: (type ++ ' ' :: (definitionMark ++ ' ' :: definition))).head?,
        isBlank c = true := by
      rintro c ⟨⟩
      decide
    have hfirst := firstWord_append (by simp) hword hspace
    simp only [List.append_assoc, List.cons_append, List.nil_append] at hfirst ⊢
    rw [hfirst]
    exact fun hmem => hdots _ hmem (by simp)
  have hspaced : trim (' ' :: type ++ [' ']) = type ++ [] := by
    have hbare : IsBare type := isBare_of_forall fun c hc =>
      isBlank_eq_false_of_isAsciiWordChar (htype.isWord c hc)
    have htrim : trim ([' '] ++ type ++ [' ']) = type := trim_append (by decide) hbare (by decide)
    rwa [List.append_nil]
  have hdot : '.' ∉ label := notMem_of_forall hlabel (by decide)
  have hcolon : ':' ∉ label := notMem_of_forall hlabel (by decide)
  refine parseLine_of_readRules ?_
  rw [String.toList_ofList, readRules_of_notMem line hdeclaration hkeyword,
    readConstructor_parts hdot hcolon (cleanLabel_eq_self hlabelNe hblank) hlabelNe hkept htype
      (by simp) hspaced,
    cleanConstruction_cons (by decide), hread]
  rfl

end LabelledRule

/-! ## The alternatives -/

/-- White space around a definition goes with its first and its last alternative. -/
theorem alternatives_trim (definition : List Char) :
    alternatives (trim definition) = alternatives definition := by
  rw [alternatives, map_trim_splitOn_trim (by decide), ← alternatives]

/-- So does white space behind it alone. -/
theorem alternatives_trimEnd (definition : List Char) :
    alternatives (trimEnd definition) = alternatives definition := by
  obtain ⟨back, hback, hdefinition⟩ := exists_eq_dropEndWhile_append isBlank definition
  have htrim : trim definition = trim (trimEnd definition) :=
    calc trim definition = trim (trimEnd definition ++ back) := congrArg trim hdefinition
      _ = trim (trimEnd definition) := trim_append_right (List.all_eq_true.mpr hback) _
  rw [← alternatives_trim (trimEnd definition), ← htrim, alternatives_trim]

/-- An alternative is bare and holds something. -/
theorem isBare_of_mem_alternatives (h : alternative ∈ alternatives definition) :
    alternative ≠ [] ∧ IsBare alternative := by
  obtain ⟨hmem, hne⟩ := List.mem_filter.mp h
  obtain ⟨part, -, rfl⟩ := List.mem_map.mp hmem
  exact ⟨by simpa using hne, isBare_trim part⟩

/-- The alternatives of a shorthand are read one by one, and there must be any. -/
theorem readAlternatives_of_cutAt? (hcut : cutAt? definitionMark text = some (typeText, definition))
    (htype : cleanType typeText = .ok type) :
    readAlternatives line text =
      if (alternatives definition).isEmpty then .error (.noAlternatives (String.ofList type))
      else .ok ((alternatives definition).mapIdx fun i alternative =>
        readAlternative line type alternative (i + 1)) := by
  rw [readAlternatives, hcut]
  dsimp only
  rw [htype]
  change (if (alternatives definition).isEmpty then _ else _) = _
  split <;> rfl

/-- Where no alternative is at fault, each gives a rule. -/
theorem mapIdx_readAlternative_eq {rules : List Rule}
    (hcut : cutAt? definitionMark text = some (typeText, definition))
    (htype : cleanType typeText = .ok type)
    (h : readAlternatives line text = .ok (rules.map .ok)) :
    ((alternatives definition).mapIdx fun i alternative =>
      readAlternative line type alternative (i + 1)) = rules.map .ok := by
  rw [readAlternatives_of_cutAt? hcut htype] at h
  split_ifs at h
  exact Except.ok.inj h

/-- The rule at the place of an alternative is what the alternative is read as. -/
theorem getElem_readAlternative {rules : List Rule}
    (h : ((alternatives definition).mapIdx fun i alternative =>
      readAlternative line type alternative (i + 1)) = rules.map .ok) :
    (alternatives definition).length = rules.length ∧
      ∀ i (hi : i < (alternatives definition).length) (hi' : i < rules.length),
        readAlternative line type (alternatives definition)[i] (i + 1) = .ok rules[i] := by
  refine ⟨by simpa using congrArg List.length h, fun i hi hi' => ?_⟩
  have hentry := congrArg (·[i]?) h
  simpa only [List.getElem?_mapIdx, List.getElem?_map, List.getElem?_eq_getElem hi,
    List.getElem?_eq_getElem hi', Option.map_some, Option.some.injEq] using hentry

/-- An alternative is read as the labelled rule that it stands for. -/
theorem parseLine_of_readAlternative {declared : Rule} (htype : IsWordName type)
    (hmem : alternative ∈ alternatives definition)
    (h : readAlternative line type alternative number = .ok declared) :
    parseLine (String.ofList (labelledRule (alternativeLabel type alternative number) type
      alternative)) line = .ok [declared] := by
  obtain ⟨hne, hbare⟩ := isBare_of_mem_alternatives hmem
  obtain ⟨construction, hread, rfl⟩ := readAlternative_eq_ok h
  have hlabelNe : alternativeLabel type alternative number ≠ [] := by
    obtain ⟨back, -, hlabel, -⟩ := exists_alternativeLabel_eq_append type alternative number
    rw [hlabel]
    exact List.append_ne_nil_of_left_ne_nil htype.ne_nil back
  exact parseLine_labelledRule hlabelNe (isAsciiWordChar_of_mem_alternativeLabel htype)
    (alternativeLabel_notMem_discardedLabels htype) htype hne hbare hread

/-- A declaration whose first word is `rules` is read as a shorthand. -/
theorem Declares.readAlternatives_eq {rule : List Char} {rules : List Rule}
    (h : Declares line rule rules) (hkeyword : keyword rule = "rules") :
    readAlternatives line (rule.drop "rules".length) = .ok (rules.map .ok) := by
  cases h with
  | pragma hpragma =>
    rw [hkeyword] at hpragma
    exact absurd hpragma (by decide)
  | token htoken => exact absurd (hkeyword.symm.trans htoken) (by decide)
  | entrypoints hentrypoints => exact absurd (hkeyword.symm.trans hentrypoints) (by decide)
  | shorthand _ hread => exact hread
  | labelled hnone =>
    rw [hkeyword] at hnone
    exact absurd (by decide) hnone

/-- A declaration whose first word is `rules` is read by what follows that word. -/
theorem readRules_of_keyword {text rule : List Char} (hrule : declaration text = .ok rule)
    (hkeyword : keyword rule = "rules") :
    readRules line text = readAlternatives line (rule.drop "rules".length) := by
  have hignored : ignoredKeywords.contains "rules" = false := by decide
  rw [keyword] at hkeyword
  rw [readRules, hrule]
  change (if ignoredKeywords.contains (String.ofList (firstWord rule).1) then _ else _) = _
  rw [hkeyword, hignored]
  rfl

/-- A shorthand is read by its alternatives. -/
theorem exists_readRules_eq_of_writesShorthand {text : List Char} (line : LineNumber)
    (htext : WritesShorthand typeText definition text) :
    ∃ space, allBlank space = true ∧ readRules line text =
      readAlternatives line (space ++ typeText ++ (definitionMark ++ trimEnd definition)) := by
  obtain @⟨start, space, finish, hstart, hne, hspace, hfinish⟩ := htext
  -- The front ends in the definition mark, so white space is cut off behind the definition only.
  let front := "rules".toList ++ (space ++ typeText ++ definitionMark)
  have hline : start ++ "rules".toList ++ space ++ typeText ++ "::=".toList ++ definition ++
      [';'] ++ finish = start ++ (front ++ definition ++ [';']) ++ finish := by
    simp [front, definitionMark]
  have hhead : ∀ c ∈ (front ++ definition).head?, isBlank c = false := by
    rintro c ⟨⟩
    decide
  have hlast : ∀ c ∈ front.getLast?, isBlank c = false := by
    rw [List.getLast?_append_of_ne_nil _ (by simp [definitionMark]),
      List.getLast?_append_of_ne_nil _ (by decide)]
    rintro c ⟨⟩
    decide
  have hrule : declaration (start ++ (front ++ definition ++ [';']) ++ finish) =
      .ok (front ++ trimEnd definition) := by
    rw [declaration_append hstart hfinish (by simp [front]) hhead,
      trimEnd_append_of_ne_nil (by simp [front]) hlast]
  have hkeyword : keyword (front ++ trimEnd definition) = "rules" := by
    have hblank : ∀ c ∈ (space ++ (typeText ++ (definitionMark ++ trimEnd definition))).head?,
        isBlank c = true := forall_head?_append hne (List.all_eq_true.mp hspace) _
    have hword : "rules".toList ≠ [] ∧ "rules".toList.all isAsciiWordChar = true := by decide
    have hfirst := firstWord_append hword.1 (fun c hc =>
      isBlank_eq_false_of_isAsciiWordChar (List.all_eq_true.mp hword.2 c hc)) hblank
    have hfront : front ++ trimEnd definition =
        "rules".toList ++ (space ++ (typeText ++ (definitionMark ++ trimEnd definition))) := by
      simp [front]
    rw [keyword, hfront, hfirst, String.ofList_toList]
  have hrest : (front ++ trimEnd definition).drop "rules".length =
      space ++ typeText ++ (definitionMark ++ trimEnd definition) := by
    simp only [front, List.append_assoc]
    exact List.drop_left
  refine ⟨space, hspace, ?_⟩
  rw [hline, readRules_of_keyword hrule hkeyword, hrest]

/-- A shorthand that can be read gives what its alternatives are read as. -/
theorem readAlternatives_of_writesShorthand {text : String} {rules : List Rule}
    (htext : WritesShorthand typeText definition text.toList)
    (h : parseLine text line = .ok rules) :
    ∃ space, allBlank space = true ∧
      readAlternatives line (space ++ typeText ++ (definitionMark ++ trimEnd definition)) =
        .ok (rules.map .ok) := by
  obtain ⟨space, hspace, hread⟩ := exists_readRules_eq_of_writesShorthand line htext
  exact ⟨space, hspace, hread ▸ parseLine_eq_ok_iff_readRules.mp h⟩

/-- Every line whose first word is `rules` is a shorthand if it can be read. -/
theorem exists_writesShorthand {text : String} {rule : List Char} {rules : List Rule}
    (hrule : declaration text.toList = .ok rule) (hkeyword : keyword rule = "rules")
    (h : parseLine text line = .ok rules) :
    ∃ typeText definition, WritesShorthand typeText definition text.toList := by
  obtain ⟨rule', hrule', hdeclares⟩ := exists_declares_of_parseLine h
  obtain rfl : rule = rule' := Except.ok.inj (hrule.symm.trans hrule')
  obtain ⟨⟨-, hbare⟩, start, space, finish, hstart, hspace, hfinish, htext⟩ :=
    exists_eq_append_of_declaration hrule
  -- The declaration is its first word and what follows it, which starts with white space.
  obtain ⟨rest, hrest, hhead⟩ : ∃ rest, rule = "rules".toList ++ rest ∧
      ∀ c ∈ rest.head?, isBlank c = true := by
    have hword : rule.takeWhile (!isBlank ·) = "rules".toList := by
      rw [keyword, firstWord, trimStart_eq_self hbare.head] at hkeyword
      rw [← hkeyword, String.toList_ofList]
    refine ⟨rule.dropWhile (!isBlank ·), by rw [← hword, List.takeWhile_append_dropWhile], ?_⟩
    intro c hc
    have hfirst := List.head?_dropWhile_not (!isBlank ·) rule
    rw [hc] at hfirst
    simpa using hfirst
  have hdrop : rule.drop "rules".length = rest := by
    rw [hrest]
    exact List.drop_left
  have hread := hdeclares.readAlternatives_eq hkeyword
  rw [hdrop] at hread
  obtain ⟨typeText, definition, _, hcut, -⟩ := readAlternatives_eq_ok hread
  have hparts := eq_append_of_cutAt? hcut
  cases typeText with
  | nil =>
    -- The definition mark would follow at once, and it is no white space.
    exact absurd (hhead ':' (by rw [hparts]; rfl)) (by decide)
  | cons c typeText =>
    have hblank : isBlank c = true := hhead c (by rw [hparts]; rfl)
    refine ⟨typeText, definition ++ space, ?_⟩
    have hline : text.toList = start ++ "rules".toList ++ [c] ++ typeText ++ "::=".toList ++
        (definition ++ space) ++ [';'] ++ finish := by
      rw [htext, hrest, hparts]
      simp [definitionMark]
    rw [hline]
    exact .line hstart (List.cons_ne_nil _ _) (by simpa [allBlank] using hblank) hfinish

/-- What a line gives is what the labelled rules give that it stands for. -/
structure ExpandsTo (type definition : List Char) (line : LineNumber) (rules : List Rule) :
    Prop where
  /-- Each labelled rule gives one rule. -/
  each : List.Forall₂ (fun rule declared => parseLine rule line = .ok [declared])
    (expansions type definition) rules
  /-- All of them together give the rules of the line. -/
  rules_eq : ∃ parts, (expansions type definition).mapM (parseLine · line) = .ok parts ∧
    rules = parts.flatten
  /-- Only alternatives that are the same word without their quotes share a label. -/
  unquoted_eq : ∀ i j first second, i ≠ j → (alternatives definition)[i]? = some first →
    (alternatives definition)[j]? = some second →
    alternativeLabel type first (i + 1) = alternativeLabel type second (j + 1) →
    unquoted first = unquoted second ∧ unquoted first ≠ [] ∧
      ∀ c ∈ unquoted first, isAsciiWordChar c = true

/-- A shorthand is what the labelled rules are that it stands for. -/
theorem expandsTo_of_writesShorthand {typeText definition type : List Char} {text : String}
    {line : LineNumber} {rules : List Rule}
    (htext : WritesShorthand typeText definition text.toList)
    (htype : cleanType typeText = .ok type)
    (hword : ∀ c ∈ type, isAsciiWordChar c = true) (h : parseLine text line = .ok rules) :
    ExpandsTo type definition line rules := by
  obtain ⟨hname, digits, hdigits, htrim⟩ := exists_trim_eq_of_cleanType htype hword
  obtain ⟨space, hspace, hread⟩ := readAlternatives_of_writesShorthand htext h
  have hspaced : trim (space ++ typeText) = type ++ digits := by
    rw [← htrim, trim, trimStart_append hspace, ← trim]
  have hmark : definitionMark.head? = some ':' := by decide
  have hcut := cutAt?_append hmark (hname.colon_notMem hdigits hspaced) (trimEnd definition)
  have hrules := mapIdx_readAlternative_eq hcut (cleanType_name hname hdigits hspaced) hread
  rw [alternatives_trimEnd] at hrules
  have each : List.Forall₂ (fun rule declared => parseLine rule line = .ok [declared])
      (expansions type definition) rules := by
    -- Both lists have an entry for each alternative.
    obtain ⟨hlength, hentries⟩ := getElem_readAlternative hrules
    refine List.forall₂_iff_get.mpr ⟨by simpa [expansions] using hlength, fun i hi hi' => ?_⟩
    have halternative : i < (alternatives definition).length := by simpa [expansions] using hi
    simpa [expansions] using
      parseLine_of_readAlternative hname (List.getElem_mem halternative)
        (hentries i halternative hi')
  refine ⟨each, ⟨rules.map ([·]), ?_, ?_⟩, fun i j first second hne _ _ heq => ?_⟩
  · exact mapM_eq_ok_iff.mpr (List.forall₂_map_right_iff.mpr each)
  · simp [← List.flatMap_def]
  · exact unquoted_eq_of_alternativeLabel_eq (by omega) heq

/-- A shorthand with precedence digits, a symbol, nothing, a word and a category. -/
theorem expandsTo_operators :
    WritesShorthand "Op1 ".toList " \"+\" | | \"and\" | Exp2 ".toList
        "rules Op1 ::= \"+\" | | \"and\" | Exp2 ;".toList ∧
      ExpandsTo "Op".toList " \"+\" | | \"and\" | Exp2 ".toList (.number 3)
        [.constructor ⟨"Op1", "Op", [], .number 3⟩, .constructor ⟨"Op_and", "Op", [], .number 3⟩,
          .constructor ⟨"Op_Exp2", "Op", ["Exp"], .number 3⟩] := by
  have hline : WritesShorthand "Op1 ".toList " \"+\" | | \"and\" | Exp2 ".toList
      "rules Op1 ::= \"+\" | | \"and\" | Exp2 ;".toList :=
    @WritesShorthand.line _ _ [] [' '] [] rfl (List.cons_ne_nil _ _) (by decide) rfl
  exact ⟨hline, expandsTo_of_writesShorthand hline (by cbv) (List.all_eq_true.mp (by decide))
    (by cbv)⟩

end Parser

end SyntaxBridge
