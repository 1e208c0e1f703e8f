import SyntaxBridge.Proofs.Grammar.Shorthand

/-!
# Categories among entrypoints and in definitions

The categories of a text's entrypoints stand between commas, and those of a definition between white
space. So a list category that is written with white space in its brackets is found among the
entrypoints, but in a definition it falls into fragments (`Spelling.fragments`). The two readings
agree exactly on categories that are written without white space (`readsCategories`).
-/

namespace SyntaxBridge

open Outcome Text

/-- The name of a category, with the precedence digits that are written behind it. -/
structure WrittenName where
  /-- The name. -/
  name : List Char
  /-- The digits. -/
  digits : List Char
  isWordName : IsWordName name
  isDecimalDigit_eq_true : ∀ c ∈ digits, isDecimalDigit c = true

/-- The ways to write a category or the list of one. -/
inductive Spelling where
  /-- A category. -/
  | plain (written : WrittenName)
  /-- A list category, with white space between its brackets. -/
  | list (before : List Char) (written : WrittenName) (after : List Char)
    (hbefore : allBlank before = true) (hafter : allBlank after = true)

namespace WrittenName

variable (written : WrittenName)

/-- The text that is written for a name. -/
def text : List Char :=
  written.name ++ written.digits

theorem ne_nil : written.text ≠ [] :=
  List.append_ne_nil_of_left_ne_nil written.isWordName.ne_nil _

theorem isBlank_eq_false : ∀ c ∈ written.text, isBlank c = false :=
  written.isWordName.isBlank_eq_false written.isDecimalDigit_eq_true

/-- No mark stands in a name. -/
theorem notMem {mark : Char} (hmark : isAsciiWordChar mark = false)
    (hdigit : isDecimalDigit mark = false) : mark ∉ written.text :=
  written.isWordName.notMem written.isDecimalDigit_eq_true hmark hdigit

end WrittenName

namespace Spelling

/-- The text that is written for a category. -/
def text : Spelling → List Char
  | plain written => written.text
  | list before written after _ _ => '[' :: (before ++ written.text ++ after) ++ [']']

/-- The category that is written. -/
def category : Spelling → List Char
  | plain written => written.name
  | list _ written _ _ _ => '[' :: written.name ++ [']']

/-- What a definition holds where the category is written. White space parts the brackets from the
name, and digits are dropped only where nothing comes behind them. -/
def fragments : Spelling → List (List Char)
  | plain written => [written.name]
  | list before written after _ _ =>
    match before.isEmpty, after.isEmpty with
    | true, true => ['[' :: written.name ++ [']']]
    | true, false => ['[' :: written.name, [']']]
    | false, true => [['['], written.text ++ [']']]
    | false, false => [['['], written.name, [']']]

variable (spelling : Spelling)

theorem ne_nil : spelling.text ≠ [] := by
  cases spelling with
  | plain written => exact written.ne_nil
  | list before written after _ _ => simp [text]

/-- A category is written from its first to its last character. -/
theorem isBare : IsBare spelling.text := by
  cases spelling with
  | plain written => exact isBare_of_forall written.isBlank_eq_false
  | list before written after _ _ =>
    refine ⟨fun c hc => ?_, fun c hc => ?_⟩
    · obtain rfl : '[' = c := Option.some.inj hc
      decide
    · rw [text, List.getLast?_concat, Option.mem_some_iff] at hc
      rw [← hc]
      decide

/-- Categories that are joined start and end with a category. -/
theorem isBare_intercalate_text {spellings : List Spelling} (sep : List Char)
    (hne : spellings ≠ []) :
    sep.intercalate (spellings.map text) ≠ [] ∧ IsBare (sep.intercalate (spellings.map text)) :=
  isBare_intercalate sep (by simpa using hne)
    (List.forall_mem_map.mpr fun spelling _ => ⟨spelling.ne_nil, spelling.isBare⟩)

/-- No mark but brackets stands in a category. -/
theorem notMem {mark : Char} (hmark : isAsciiWordChar mark = false)
    (hdigit : isDecimalDigit mark = false) (hblank : isBlank mark = false) (hopen : mark ≠ '[')
    (hclose : mark ≠ ']') : mark ∉ spelling.text := by
  cases spelling with
  | plain written => exact written.notMem hmark hdigit
  | list before written after hbefore hafter =>
    simp only [text, List.mem_append, List.mem_cons, List.not_mem_nil, or_false, not_or]
    exact ⟨⟨hopen, ⟨notMem_of_allBlank hbefore hblank, written.notMem hmark hdigit⟩,
      notMem_of_allBlank hafter hblank⟩, hclose⟩

/-- White space in a category stands between the brackets of a list. -/
theorem isBlank_eq_false_iff {before after : List Char} {written : WrittenName}
    {hbefore : allBlank before = true} {hafter : allBlank after = true} :
    (∀ c ∈ (list before written after hbefore hafter).text, isBlank c = false) ↔
      before = [] ∧ after = [] := by
  constructor
  · intro h
    have hnone {space : List Char} (hspace : allBlank space = true)
        (hmem : ∀ c ∈ space, isBlank c = false) : space = [] :=
      List.eq_nil_iff_forall_not_mem.mpr fun c hc =>
        notMem_of_allBlank hspace (hmem c hc) hc
    exact ⟨hnone hbefore fun c hc => h c (by simp [text, hc]),
      hnone hafter fun c hc => h c (by simp [text, hc])⟩
  · rintro ⟨rfl, rfl⟩
    rw [text, List.nil_append, List.append_nil]
    have hbracket : isBlank '[' = false ∧ isBlank ']' = false := by decide
    simpa [or_imp, forall_and, hbracket] using written.isBlank_eq_false

/-- Without white space, a definition holds the category. -/
theorem fragments_eq_singleton (h : ∀ c ∈ spelling.text, isBlank c = false) :
    spelling.fragments = [spelling.category] := by
  cases spelling with
  | plain written => rfl
  | list before written after _ _ =>
    obtain ⟨rfl, rfl⟩ := isBlank_eq_false_iff.mp h
    rfl

/-- With white space, a definition holds something else in its place. -/
theorem exists_fragments_eq_cons (h : ¬∀ c ∈ spelling.text, isBlank c = false) :
    ∃ first others, spelling.fragments = first :: others ∧ first ≠ spelling.category := by
  cases spelling with
  | plain written => exact absurd written.isBlank_eq_false h
  | list before written after _ _ =>
    rw [isBlank_eq_false_iff] at h
    have hname := List.length_pos_iff.mpr written.isWordName.ne_nil
    -- The first fragment ends where the first white space stands.
    cases before with
    | nil =>
      cases after with
      | nil => exact absurd ⟨rfl, rfl⟩ h
      | cons c after =>
        refine ⟨_, _, rfl, fun heq => ?_⟩
        have hlength := congrArg List.length heq
        simp [category] at hlength
    | cons c before =>
      cases after <;>
      · refine ⟨_, _, rfl, fun heq => ?_⟩
        have hlength := congrArg List.length heq
        simp [category] at hlength

/-- Categories and what a definition holds in their places are the same only if no white space is
written in any of them. -/
theorem flatMap_fragments_eq_iff {spellings : List Spelling} :
    spellings.flatMap fragments = spellings.map category ↔
      ∀ spelling ∈ spellings, ∀ c ∈ spelling.text, isBlank c = false := by
  induction spellings with
  | nil => simp
  | cons spelling spellings ih =>
    rw [List.flatMap_cons, List.map_cons, List.forall_mem_cons]
    -- The first category with white space is where the two lists part.
    by_cases h : ∀ c ∈ spelling.text, isBlank c = false
    · rw [fragments_eq_singleton spelling h, List.singleton_append, List.cons_inj_right, ih]
      exact (and_iff_right h).symm
    · obtain ⟨first, others, hfragments, hfirst⟩ := exists_fragments_eq_cons spelling h
      rw [hfragments, List.cons_append]
      exact ⟨fun heq => absurd (List.cons.inj heq).1 hfirst, fun hall => absurd hall.1 h⟩

end Spelling

namespace Parser

/-! ## One category -/

/-- Among the entrypoints a category is read as itself. -/
theorem cleanType_spelling {spelling : Spelling} {text : List Char}
    (htext : trim text = spelling.text) : cleanType text = .ok spelling.category := by
  cases spelling with
  | plain written =>
    exact cleanType_name written.isWordName written.isDecimalDigit_eq_true htext
  | list before written after hbefore hafter =>
    have hinner : Category.inner? (trim text) = some (before ++ written.text ++ after) := by
      refine Category.inner?_eq_some_iff.mpr ⟨?_, htext⟩
      simp [written.ne_nil]
    have hname : cleanType (before ++ written.text ++ after) = .ok written.name :=
      cleanType_name written.isWordName written.isDecimalDigit_eq_true
        (trim_append hbefore (isBare_of_forall written.isBlank_eq_false) hafter)
    rw [cleanType_of_inner?_eq_some hinner, hname]
    rfl

/-- A word in front of a closing bracket, with white space between them or not. -/
theorem words_append_bracket {word after : List Char} (hne : word ≠ [])
    (hword : ∀ c ∈ word, isBlank c = false) (hafter : allBlank after = true) :
    words (word ++ (after ++ [']'])) =
      if after.isEmpty then [word ++ [']']] else [word, [']']] := by
  have hbracket : words [']'] = [[']']] := rfl
  cases after with
  | nil =>
    refine words_eq_singleton (by simp) (List.forall_mem_append.mpr ⟨hword, ?_⟩)
    exact List.forall_mem_singleton.mpr (by decide)
  | cons c after =>
    have hhead := forall_head?_append (List.cons_ne_nil c after) (List.all_eq_true.mp hafter) [']']
    rw [words_append hne hword hhead, words_append_of_allBlank hafter, hbracket]
    rfl

/-- A fragment is read without the digits behind it. -/
theorem cleanType_fragment {cs digits : List Char} (hne : cs ≠ [])
    (hblank : ∀ c ∈ cs ++ digits, isBlank c = false)
    (hlast : ∀ c ∈ cs.getLast?, isDecimalDigit c = false)
    (hdigits : ∀ c ∈ digits, isDecimalDigit c = true)
    (hbracket : '[' ∉ cs ++ digits ∨ ']' ∉ cs ++ digits) : cleanType (cs ++ digits) = .ok cs :=
  cleanType_of_append hne hlast hdigits (Category.inner?_eq_none_of_notMem hbracket)
    (trim_eq_self (isBare_of_forall hblank))

/-- A name behind a bracket loses its digits. -/
theorem cleanType_opened (written : WrittenName) :
    cleanType ('[' :: written.text) = .ok ('[' :: written.name) := by
  have hclosing : ']' ∉ '[' :: written.text := by
    simpa using written.notMem (by decide) (by decide)
  refine cleanType_fragment (List.cons_ne_nil _ _) ?_ ?_ written.isDecimalDigit_eq_true
    (.inr hclosing)
  · exact List.forall_mem_cons.mpr ⟨by decide, written.isBlank_eq_false⟩
  · rw [List.getLast?_cons_of_ne_nil written.isWordName.ne_nil]
    exact written.isWordName.last

/-- A text in front of a bracket is read as it is, bracket and all. -/
theorem cleanType_closed {cs : List Char} (hblank : ∀ c ∈ cs, isBlank c = false)
    (hopening : '[' ∉ cs) : cleanType (cs ++ [']']) = .ok (cs ++ [']']) := by
  have hbracket : isBlank ']' = false ∧ isDecimalDigit ']' = false := by decide
  have hread : cleanType ((cs ++ [']']) ++ []) = .ok (cs ++ [']']) := by
    refine cleanType_fragment (by simp) ?_ ?_ (List.forall_mem_nil _)
      (.inl (by simpa using hopening))
    · rw [List.append_nil]
      exact List.forall_mem_append.mpr ⟨hblank, List.forall_mem_singleton.mpr hbracket.1⟩
    · simpa using hbracket.2
  rwa [List.append_nil] at hread

/-- The fragments of a category are read one by one. -/
theorem mapM_cleanType_words (spelling : Spelling) :
    (words spelling.text).mapM cleanType = .ok spelling.fragments := by
  by_cases hblank : ∀ c ∈ spelling.text, isBlank c = false
  · -- The category is one word.
    rw [words_eq_singleton spelling.ne_nil hblank, spelling.fragments_eq_singleton hblank]
    exact mapM_eq_ok_iff.mpr (.cons (cleanType_spelling (trim_eq_self spelling.isBare)) .nil)
  cases spelling with
  | plain written => exact absurd written.isBlank_eq_false hblank
  | list before written after hbefore hafter =>
    have hopening : cleanType ['['] = .ok ['['] := by cbv
    have hclosing : cleanType [']'] = .ok [']'] := by cbv
    cases before with
    | nil =>
      have htext : (Spelling.list [] written after hbefore hafter).text =
          ('[' :: written.text) ++ (after ++ [']']) := by simp [Spelling.text]
      have hword : ∀ c ∈ '[' :: written.text, isBlank c = false :=
        List.forall_mem_cons.mpr ⟨by decide, written.isBlank_eq_false⟩
      rw [htext, words_append_bracket (List.cons_ne_nil _ _) hword hafter]
      cases after with
      | nil => exact absurd (Spelling.isBlank_eq_false_iff.mpr ⟨rfl, rfl⟩) hblank
      | cons c after =>
        exact mapM_eq_ok_iff.mpr (.cons (cleanType_opened written) (.cons hclosing .nil))
    | cons c before =>
      have htext : (Spelling.list (c :: before) written after hbefore hafter).text =
          ['['] ++ (c :: before ++ (written.text ++ (after ++ [']']))) := by simp [Spelling.text]
      have hhead := forall_head?_append (List.cons_ne_nil c before) (List.all_eq_true.mp hbefore)
        (written.text ++ (after ++ [']']))
      rw [htext, words_append (List.cons_ne_nil _ _) (by simp [isBlank]) hhead,
        words_append_of_allBlank hbefore,
        words_append_bracket written.ne_nil written.isBlank_eq_false hafter]
      cases after with
      | nil =>
        have hclosed := cleanType_closed written.isBlank_eq_false
          (written.notMem (by decide) (by decide))
        exact mapM_eq_ok_iff.mpr (.cons hopening (.cons hclosed .nil))
      | cons d after =>
        have hname := cleanType_name written.isWordName written.isDecimalDigit_eq_true
          (trim_eq_self (isBare_of_forall written.isBlank_eq_false))
        exact mapM_eq_ok_iff.mpr (.cons hopening (.cons hname (.cons hclosing .nil)))

/-- The fragments of all categories are read one after the other. -/
theorem mapM_cleanType_flatMap_words (spellings : List Spelling) :
    (spellings.flatMap (words ·.text)).mapM cleanType =
      .ok (spellings.flatMap Spelling.fragments) := by
  induction spellings with
  | nil => rfl
  | cons spelling spellings ih =>
    rw [List.flatMap_cons, List.mapM_append, mapM_cleanType_words, ih]
    rfl

/-! ## All categories -/

/-- The entrypoints of a text, written out. -/
def entrypointsText (spellings : List Spelling) : List Char :=
  "entrypoints ".toList ++ ", ".toList.intercalate (spellings.map Spelling.text) ++ " ;".toList

/-- The definition that holds categories, written out. -/
def categoriesText (spellings : List Spelling) : List Char :=
  [' '].intercalate (spellings.map Spelling.text)

variable {spellings : List Spelling} {line : LineNumber}

/-- A definition holds the fragments of its categories. -/
theorem cleanConstruction_categoriesText (spellings : List Spelling) :
    cleanConstruction (categoriesText spellings) = .ok (spellings.flatMap Spelling.fragments) := by
  have hquote : '"' ∉ categoriesText spellings := by
    refine notMem_intercalate (by decide) (List.forall_mem_map.mpr fun spelling _ => ?_)
    exact spelling.notMem (by decide) (by decide) (by decide) (by decide) (by decide)
  rw [cleanConstruction, Literal.erase?_eq_self hquote]
  change (words (categoriesText spellings)).mapM cleanType = _
  rw [categoriesText, words_intercalate (by decide), List.flatMap_map, mapM_cleanType_flatMap_words]

/-- Entrypoints are the categories that are written between commas. -/
theorem readEntrypoint_intercalate (line : LineNumber) (hne : spellings ≠ []) :
    readEntrypoint line (' ' :: ", ".toList.intercalate (spellings.map Spelling.text)) =
      .ok (.entrypoint ⟨toStrings (spellings.map Spelling.category), line⟩) := by
  let parts := (spellings.map Spelling.text).map (' ' :: ·)
  have hjoin : ' ' :: ", ".toList.intercalate (spellings.map Spelling.text) =
      [','].intercalate parts :=
    cons_intercalate_concat [','] ' ' (by simpa using hne)
  have hcomma : ∀ part ∈ parts, ',' ∉ part := by
    refine List.forall_mem_map.mpr (List.forall_mem_map.mpr fun spelling _ => ?_)
    rw [List.mem_cons, not_or]
    exact ⟨by decide,
      spelling.notMem (by decide) (by decide) (by decide) (by decide) (by decide)⟩
  have hsplit : splitOn ',' ([','].intercalate parts) = parts := by
    rw [splitOn_eq, List.splitOn_intercalate ',' hcomma (by simpa [parts] using hne)]
  have hkept : parts.filter (!allBlank ·) = parts := by
    refine List.filter_eq_self.mpr
      (List.forall_mem_map.mpr (List.forall_mem_map.mpr fun spelling _ => ?_))
    obtain ⟨first, others, htext⟩ := List.exists_cons_of_ne_nil spelling.ne_nil
    have hfirst := spelling.isBare.head first (by rw [htext]; rfl)
    simp [allBlank, htext, hfirst]
  -- The space behind a comma is taken for the start of the next category, and goes when it is read.
  have hread : parts.mapM cleanType = .ok (spellings.map Spelling.category) := by
    rw [mapM_eq_ok_iff, List.forall₂_map_left_iff, List.forall₂_map_left_iff,
      List.forall₂_map_right_iff, List.forall₂_same]
    refine fun spelling _ => cleanType_spelling ?_
    rw [← List.singleton_append, trim_append_left (by decide), trim_eq_self spelling.isBare]
  have hsome : (spellings.map Spelling.category).isEmpty = false := by simpa using hne
  rw [readEntrypoint, hjoin, hsplit, hkept, hread]
  change (if (spellings.map Spelling.category).isEmpty then _ else _) = _
  rw [hsome]
  rfl

/-- A declaration whose first word is `entrypoints` is read by what follows that word. -/
theorem readRules_of_entrypoints {text rule : List Char} {entrypoint : Rule}
    (hrule : declaration text = .ok rule) (hkeyword : keyword rule = "entrypoints")
    (hread : readEntrypoint line (rule.drop "entrypoints".length) = .ok entrypoint) :
    readRules line text = .ok [.ok entrypoint] := by
  have hignored : ignoredKeywords.contains "entrypoints" = false := by decide
  rw [keyword] at hkeyword
  rw [readRules, hrule]
  change (if ignoredKeywords.contains (String.ofList (firstWord rule).1) then _ else _) = _
  rw [hkeyword, hignored, hread]
  rfl

/-- Entrypoints that are written out are read as the categories. -/
theorem parseLine_entrypointsText (line : LineNumber) (hne : spellings ≠ []) :
    parseLine (String.ofList (entrypointsText spellings)) line =
      .ok [.entrypoint ⟨toStrings (spellings.map Spelling.category), line⟩] := by
  let join := ", ".toList.intercalate (spellings.map Spelling.text)
  let rule := "entrypoints".toList ++ ' ' :: join
  have hjoin : join ≠ [] ∧ IsBare join := Spelling.isBare_intercalate_text _ hne
  have hline : entrypointsText spellings = [] ++ (rule ++ [' '] ++ [';']) ++ [] := by
    rw [List.nil_append, List.append_nil, List.append_assoc]
    rfl
  have hrule : declaration (entrypointsText spellings) = .ok rule := by
    have hhead : ∀ c ∈ (rule ++ [' ']).head?, isBlank c = false := by
      rintro c ⟨⟩
      decide
    have hlast : ∀ c ∈ rule.getLast?, isBlank c = false := by
      have hend : rule.getLast? = join.getLast? := by
        rw [List.getLast?_append_of_ne_nil _ (List.cons_ne_nil _ _),
          List.getLast?_cons_of_ne_nil hjoin.1]
      rw [hend]
      exact hjoin.2.last
    have hspace : allBlank [' '] = true := by decide
    rw [hline, declaration_append rfl rfl (by simp) hhead, trimEnd_append hlast hspace]
  have hkeyword : keyword rule = "entrypoints" := by
    have hword : "entrypoints".toList ≠ [] ∧ "entrypoints".toList.all isAsciiWordChar = true := by
      decide
    have hspace : ∀ c ∈ (' ' :: join).head?, isBlank c = true := by
      rintro c ⟨⟩
      decide
    rw [keyword, firstWord_append hword.1 (fun c hc =>
      isBlank_eq_false_of_isAsciiWordChar (List.all_eq_true.mp hword.2 c hc)) hspace,
      String.ofList_toList]
  refine parseLine_of_readRules ?_
  rw [String.toList_ofList]
  exact readRules_of_entrypoints hrule hkeyword (readEntrypoint_intercalate line hne)

/-- A definition that is written out is read as the fragments of the categories. -/
theorem parseLine_categoriesText {label type : List Char} (hlabelNe : label ≠ [])
    (hlabel : ∀ c ∈ label, isAsciiWordChar c = true) (hkept : String.ofList label ∉ discardedLabels)
    (htype : IsWordName type) (line : LineNumber) (hne : spellings ≠ []) :
    parseLine (String.ofList (labelledRule label type (categoriesText spellings))) line =
      .ok [.constructor ⟨String.ofList label, String.ofList type,
        toStrings (spellings.flatMap Spelling.fragments), line⟩] := by
  obtain ⟨hdefinitionNe, hdefinition⟩ := Spelling.isBare_intercalate_text [' '] hne
  exact parseLine_labelledRule hlabelNe hlabel hkept htype hdefinitionNe hdefinition
    (cleanConstruction_categoriesText spellings)

/-- What is read from categories that are written as the entrypoints and as the definition of a
rule. -/
structure ReadsSpellings (label type : List Char) (spellings : List Spelling) (line : LineNumber) :
    Prop where
  /-- The entrypoints are the categories. -/
  entrypoints : parseLine (String.ofList (entrypointsText spellings)) line =
    .ok [.entrypoint ⟨toStrings (spellings.map Spelling.category), line⟩]
  /-- The rule refers to the fragments of the categories. -/
  rule : parseLine (String.ofList (labelledRule label type (categoriesText spellings))) line =
    .ok [.constructor ⟨String.ofList label, String.ofList type,
      toStrings (spellings.flatMap Spelling.fragments), line⟩]
  /-- These are the same if no white space is written in a category, and only then. -/
  agree_iff : toStrings (spellings.flatMap Spelling.fragments) =
      toStrings (spellings.map Spelling.category) ↔
    ∀ spelling ∈ spellings, ∀ c ∈ spelling.text, isBlank c = false

/-- Entrypoints and definitions are read alike exactly if no white space is written in a
category. -/
theorem readsSpellings {label type : List Char} (hlabelNe : label ≠ [])
    (hlabel : ∀ c ∈ label, isAsciiWordChar c = true) (hkept : String.ofList label ∉ discardedLabels)
    (htype : IsWordName type) (hne : spellings ≠ []) (line : LineNumber) :
    ReadsSpellings label type spellings line where
  entrypoints := parseLine_entrypointsText line hne
  rule := parseLine_categoriesText hlabelNe hlabel hkept htype line hne
  agree_iff := by
    have hinjective : Function.Injective toStrings :=
      List.map_injective_iff.mpr fun _ _ => String.ofList_inj.mp
    rw [hinjective.eq_iff, Spelling.flatMap_fragments_eq_iff]

/-- A list category, a category, and a list category with white space. -/
theorem readsSpellings_mixed :
    ∃ spellings : List Spelling,
      spellings.map Spelling.text = ["[Exp2]".toList, "Stm".toList, "[ Exp2]".toList] ∧
      String.ofList (entrypointsText spellings) = "entrypoints [Exp2], Stm, [ Exp2] ;" ∧
      ReadsSpellings "L".toList "T".toList spellings (.number 4) ∧
      spellings.flatMap Spelling.fragments =
        ["[Exp]".toList, "Stm".toList, ['['], "Exp2]".toList] := by
  have hword {name : List Char} (hne : name ≠ []) (hname : name.all isAsciiWordChar = true)
      (hlast : ∀ c ∈ name.getLast?, isDecimalDigit c = false) : IsWordName name :=
    ⟨hne, List.all_eq_true.mp hname, hlast⟩
  have htype : IsWordName "T".toList := hword (by decide) (by decide) (by rintro c ⟨⟩; decide)
  let exp : WrittenName := ⟨"Exp".toList, ['2'],
    hword (by decide) (by decide) (by rintro c ⟨⟩; decide), List.all_eq_true.mp (by decide)⟩
  let stm : WrittenName := ⟨"Stm".toList, [],
    hword (by decide) (by decide) (by rintro c ⟨⟩; decide), List.forall_mem_nil _⟩
  refine ⟨[.list [] exp [] rfl rfl, .plain stm, .list [' '] exp [] (by decide) rfl], rfl, rfl,
    ?_, rfl⟩
  exact readsSpellings (by decide) (List.all_eq_true.mp (by decide)) (by decide) htype
    (List.cons_ne_nil _ _) (.number 4)

/-- The list category in `[ Exp ]` is found among the entrypoints, but in a definition the text
falls into three. -/
theorem spaced_list_parted :
    ∃ spelling : Spelling, spelling.text = "[ Exp ]".toList ∧
      parseLine "entrypoints [ Exp ] ;" .unknown = .ok [.entrypoint ⟨["[Exp]"], .unknown⟩] ∧
      parseLine "L. T ::= [ Exp ] ;" .unknown =
        .ok [.constructor ⟨"L", "T", ["[", "Exp", "]"], .unknown⟩] := by
  have htype : IsWordName "T".toList :=
    ⟨by decide, List.all_eq_true.mp (by decide), by rintro c ⟨⟩; decide⟩
  have hname : IsWordName "Exp".toList :=
    ⟨by decide, List.all_eq_true.mp (by decide), by rintro c ⟨⟩; decide⟩
  let spelling : Spelling :=
    .list [' '] ⟨"Exp".toList, [], hname, List.forall_mem_nil _⟩ [' '] (by decide) (by decide)
  have hne : [spelling] ≠ [] := List.cons_ne_nil _ _
  have hrule := @parseLine_categoriesText [spelling] "L".toList "T".toList (by decide)
    (List.all_eq_true.mp (by decide)) (by decide) htype .unknown hne
  have hentrypoints := parseLine_entrypointsText .unknown hne
  have hentrypointsText : String.ofList (entrypointsText [spelling]) =
      "entrypoints [ Exp ] ;" := rfl
  have hruleText : String.ofList (labelledRule "L".toList "T".toList (categoriesText [spelling])) =
      "L. T ::= [ Exp ] ;" := rfl
  rw [hentrypointsText] at hentrypoints
  rw [hruleText] at hrule
  exact ⟨spelling, rfl, hentrypoints, hrule⟩

end Parser

end SyntaxBridge
