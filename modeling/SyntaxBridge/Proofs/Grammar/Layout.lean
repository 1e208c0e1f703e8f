import SyntaxBridge.Grammar.Parser
import SyntaxBridge.Proofs.Grammar.Identifier
import SyntaxBridge.Proofs.Grammar.Literal

/-!
# Ways to write categories and definitions

A grammar leaves its writer some freedom: precedence digits behind the names of categories, literals
among them, and white space. `WritesCategory` and `WritesDefinition` say which texts stand for a
category and for a sequence of categories, and reading such a text gives what it stands for,
whatever its layout (`cleanType_of_writesCategory`, `cleanConstruction_of_writesDefinition`).
-/

namespace SyntaxBridge

open Text

/-- A category that can be told from its precedence digits: an identifier that does not end in a
digit. -/
structure IsCategoryName (name : String) : Prop where
  identifier : IsAsciiIdentifier name
  last : ∀ c ∈ name.toList.getLast?, isDecimalDigit c = false

/-- The texts that stand for a category, with precedence digits inside the brackets of a list. -/
inductive WritesCategory : String → List Char → Prop
  /-- A name, followed by any number of digits. -/
  | name {name : String} {digits : List Char} (hname : IsCategoryName name)
    (hdigits : ∀ c ∈ digits, isDecimalDigit c = true) : WritesCategory name (name.toList ++ digits)
  /-- A category between brackets. -/
  | list {element : String} {text : List Char} :
    WritesCategory element text → WritesCategory (Category.listOf element) ('[' :: text ++ [']'])

/-- The texts that stand for a sequence of categories. White space and literals may stand anywhere
among the categories, and between two neighbours there must be one of them. -/
inductive WritesDefinition : List String → List Char → Prop
  /-- Nothing need be written for no categories. -/
  | nil : WritesDefinition [] []
  /-- White space in front. -/
  | blank {c : Char} {categories : List String} {text : List Char} (hblank : isBlank c = true) :
    WritesDefinition categories text → WritesDefinition categories (c :: text)
  /-- A literal in front. -/
  | literal {literal : List Char} {categories : List String} {text : List Char}
    (hliteral : Literal.IsLiteral literal) :
    WritesDefinition categories text → WritesDefinition categories (literal ++ text)
  /-- A category in front, with white space, a literal or nothing at all behind it. -/
  | category {category : String} {written : List Char} {categories : List String} {text : List Char}
    (hcategory : WritesCategory category written)
    (hbehind : ∀ c ∈ text.head?, isBlank c = true ∨ c = '"') :
    WritesDefinition categories text → WritesDefinition (category :: categories) (written ++ text)

/-- A name of letters, digits and underscores within ASCII that does not end in a digit. Unlike an
identifier it may start with one. -/
structure IsWordName (name : List Char) : Prop where
  ne_nil : name ≠ []
  isWord : ∀ c ∈ name, isAsciiWordChar c = true
  last : ∀ c ∈ name.getLast?, isDecimalDigit c = false

/-! ## Names and digits -/

namespace IsWordName

variable {name digits : List Char}

/-- A name with its digits holds no white space. -/
theorem isBlank_eq_false (hname : IsWordName name)
    (hdigits : ∀ c ∈ digits, isDecimalDigit c = true) :
    ∀ c ∈ name ++ digits, isBlank c = false := by
  intro c hc
  rcases List.mem_append.mp hc with hc | hc
  · exact isBlank_eq_false_of_isAsciiWordChar (hname.isWord c hc)
  · exact isBlank_eq_false_of_isDecimalDigit (hdigits c hc)

/-- A name with its digits holds no mark, that is no character that is neither part of an identifier
nor a digit. -/
theorem notMem (hname : IsWordName name) (hdigits : ∀ c ∈ digits, isDecimalDigit c = true)
    {mark : Char} (hmark : isAsciiWordChar mark = false) (hdigit : isDecimalDigit mark = false) :
    mark ∉ name ++ digits := by
  rw [List.mem_append, not_or]
  exact ⟨notMem_of_forall hname.isWord hmark, notMem_of_forall hdigits hdigit⟩

/-- A name with its digits is not the name of a list. -/
theorem inner?_eq_none (hname : IsWordName name) (hdigits : ∀ c ∈ digits, isDecimalDigit c = true) :
    Category.inner? (name ++ digits) = none :=
  Category.inner?_eq_none_of_notMem (.inl (hname.notMem hdigits (by decide) (by decide)))

end IsWordName

/-- The name of a category is such a name. -/
theorem IsCategoryName.isWordName {name : String} (hname : IsCategoryName name) :
    IsWordName name.toList where
  ne_nil hnil := hname.identifier.ne_empty (String.toList_inj.mp hnil)
  isWord := hname.identifier.isAsciiWordChar
  last := hname.last

/-! ## Categories -/

namespace WritesCategory

variable {category : String} {written : List Char}

/-- Something is written for a category. -/
theorem ne_nil (h : WritesCategory category written) : written ≠ [] := by
  cases h with
  | name hname _ =>
    exact fun hnil => hname.isWordName.ne_nil (List.append_eq_nil_iff.mp hnil).1
  | list _ => simp

/-- No white space is written in a category. -/
theorem isBlank_eq_false (h : WritesCategory category written) :
    ∀ c ∈ written, isBlank c = false := by
  induction h with
  | name hname hdigits => exact hname.isWordName.isBlank_eq_false hdigits
  | list _ ih =>
    intro c hc
    simp only [List.cons_append, List.mem_cons, List.mem_append, List.not_mem_nil, or_false] at hc
    rcases hc with rfl | hc | rfl
    · decide
    · exact ih c hc
    · decide

/-- No quote is written in a category. -/
theorem quote_notMem (h : WritesCategory category written) : '"' ∉ written := by
  induction h with
  | name hname hdigits => exact hname.isWordName.notMem hdigits (by decide) (by decide)
  | list _ ih => simpa using ih

end WritesCategory

namespace Parser

/-- A text that is a list once it is trimmed is read by what stands between its brackets. -/
theorem cleanType_of_inner?_eq_some {text inner : List Char}
    (h : Category.inner? (trim text) = some inner) :
    cleanType text = (cleanType inner).map ('[' :: · ++ [']']) := by
  rw [cleanType]
  split
  next found hfound =>
    rw [h] at hfound
    cases hfound
    cases cleanType inner <;> rfl
  next hnone =>
    rw [h] at hnone
    cases hnone

/-- A text that is no list once it is trimmed loses its digits, and something must be left. -/
theorem cleanType_of_inner?_eq_none {text : List Char} (h : Category.inner? (trim text) = none) :
    cleanType text =
      if (dropTrailingDigits (trim text)).isEmpty then
        .error (.invalidTypeName (String.ofList (trim text)))
      else .ok (dropTrailingDigits (trim text)) := by
  rw [cleanType]
  split
  next found hfound =>
    rw [h] at hfound
    cases hfound
  next => rfl

/-- A text that is no list is read without its digits and without the white space around it. -/
theorem cleanType_of_append {cs digits text : List Char} (hne : cs ≠ [])
    (hlast : ∀ c ∈ cs.getLast?, isDecimalDigit c = false)
    (hdigits : ∀ c ∈ digits, isDecimalDigit c = true)
    (hinner : Category.inner? (cs ++ digits) = none) (htext : trim text = cs ++ digits) :
    cleanType text = .ok cs := by
  rw [cleanType_of_inner?_eq_none (by rw [htext, hinner]), htext,
    dropTrailingDigits_append hlast hdigits, if_neg]
  simpa using hne

/-- So is a name. -/
theorem cleanType_name {name digits text : List Char} (hname : IsWordName name)
    (hdigits : ∀ c ∈ digits, isDecimalDigit c = true) (htext : trim text = name ++ digits) :
    cleanType text = .ok name :=
  cleanType_of_append hname.ne_nil hname.last hdigits (hname.inner?_eq_none hdigits) htext

/-- A written category is read as the category. -/
theorem cleanType_of_writesCategory {category : String} {written : List Char}
    (h : WritesCategory category written) : cleanType written = .ok category.toList := by
  induction h with
  | name hname hdigits =>
    exact cleanType_name hname.isWordName hdigits
      (trim_eq_self (isBare_of_forall (hname.isWordName.isBlank_eq_false hdigits)))
  | @list element text htext ih =>
    have hbare : trim ('[' :: text ++ [']']) = '[' :: text ++ [']'] :=
      trim_eq_self (isBare_of_forall (WritesCategory.list htext).isBlank_eq_false)
    have hinner : Category.inner? (trim ('[' :: text ++ [']'])) = some text := by
      rw [hbare]
      exact Category.inner?_eq_some_iff.mpr ⟨htext.ne_nil, rfl⟩
    rw [cleanType_of_inner?_eq_some hinner, ih]
    simp [Except.map, Category.listOf, String.toList_append]

/-- A written definition is read as its categories. -/
theorem cleanConstruction_of_writesDefinition {categories : List String} {text : List Char}
    (h : WritesDefinition categories text) :
    cleanConstruction text = .ok (categories.map String.toList) := by
  -- Without its literals the text is cut into words, and each word is a written category.
  have hwords : ∃ bare, Literal.erase? text = some bare ∧
      (words bare).mapM cleanType = .ok (categories.map String.toList) := by
    induction h with
    | nil => exact ⟨[], by rw [Literal.erase?], rfl⟩
    | @blank c categories text hblank _ ih =>
      obtain ⟨bare, herase, hread⟩ := ih
      have hquote : c ≠ '"' := by
        rintro rfl
        exact absurd hblank (by decide)
      refine ⟨c :: bare, by rw [Literal.erase?_cons_of_ne hquote, herase]; rfl, ?_⟩
      rw [words_cons_of_isBlank hblank, hread]
    | literal hliteral _ ih =>
      obtain ⟨bare, herase, hread⟩ := ih
      refine ⟨' ' :: bare, by rw [Literal.erase?_literal hliteral, herase]; rfl, ?_⟩
      rw [words_cons_of_isBlank (by decide), hread]
    | @category category written categories text hcategory hbehind _ ih =>
      obtain ⟨bare, herase, hread⟩ := ih
      have hbare := Literal.isBlank_head?_erase? herase hbehind
      refine ⟨written ++ bare, ?_, ?_⟩
      · rw [Literal.erase?_append hcategory.quote_notMem, herase]
        rfl
      rw [words_append hcategory.ne_nil hcategory.isBlank_eq_false hbare, List.mapM_cons,
        cleanType_of_writesCategory hcategory, hread]
      rfl
  obtain ⟨bare, herase, hread⟩ := hwords
  rw [cleanConstruction, herase]
  exact hread

end Parser

/-- White space at the end of a definition means nothing. -/
theorem WritesDefinition.trimEnd {categories : List String} {text : List Char}
    (h : WritesDefinition categories text) : WritesDefinition categories (trimEnd text) := by
  induction h with
  | nil => exact .nil
  | @blank c categories text hblank _ ih =>
    rw [trimEnd_cons, if_pos hblank]
    split
    next hnil => rwa [hnil] at ih
    next => exact .blank hblank ih
  | @literal literal categories text hliteral _ ih =>
    -- A literal ends in a quote and a category in a part of its name, so neither is dropped.
    obtain ⟨hne, hlast⟩ := hliteral.ends
    rw [trimEnd_append_of_ne_nil hne hlast]
    exact .literal hliteral ih
  | @category category written categories text hcategory hbehind _ ih =>
    have hlast := (isBare_of_forall hcategory.isBlank_eq_false).last
    rw [trimEnd_append_of_ne_nil hcategory.ne_nil hlast]
    refine .category hcategory (fun c hc => ?_) ih
    exact hbehind c (mem_head?_of_mem_head?_trimEnd hc)

end SyntaxBridge
