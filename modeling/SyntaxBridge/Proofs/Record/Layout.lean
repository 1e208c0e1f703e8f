import Mathlib.Data.List.DropRight
import SyntaxBridge.Proofs.Text.Cutting
import SyntaxBridge.Record.Schema

/-!
# Ways to write a schema

A schema leaves its writer some freedom: white space around all parts of a field, though none inside
its type, and brackets around no attributes at all. `WritesFields` says which texts declare a list
of fields, without a word on how they are read, and `OptionalLast` which lists of fields can be
declared.

Word characters are neither white space nor marks, so a word ends where one of these follows.
-/

namespace SyntaxBridge.Record

open Text

/-- One or more word characters. -/
structure IsWord (text : List Char) : Prop where
  ne_nil : text ≠ []
  chars : ∀ c ∈ text, isWordChar c = true

/-- The texts that stand for a type: a word behind brackets for each level of lists. -/
inductive WritesType : FieldType → List Char → Prop
  | named {word : List Char} (hword : IsWord word) : WritesType (.named (String.ofList word)) word
  | list {element : FieldType} {text : List Char} :
    WritesType element text → WritesType (.list element) ('[' :: ']' :: text)

/-- The texts that stand for words that follow another one, each behind a comma. -/
inductive WritesMoreWords : List String → List Char → Prop
  | nil {after : List Char} (hafter : allBlank after = true) : WritesMoreWords [] after
  | cons {before between word text : List Char} {words : List String}
    (hbefore : allBlank before = true) (hbetween : allBlank between = true) (hword : IsWord word) :
    WritesMoreWords words text →
    WritesMoreWords (String.ofList word :: words) (before ++ ',' :: (between ++ (word ++ text)))

/-- The texts that stand for words between commas. -/
inductive WritesWords : List String → List Char → Prop
  | nil {blank : List Char} (hblank : allBlank blank = true) : WritesWords [] blank
  | cons {before word text : List Char} {words : List String} (hbefore : allBlank before = true)
    (hword : IsWord word) :
    WritesMoreWords words text →
    WritesWords (String.ofList word :: words) (before ++ (word ++ text))

/-- The texts that declare a field, by whether they end in the word of its type. -/
inductive WritesField : Field → Bool → List Char → Prop
  /-- A field without attributes. -/
  | plain {name beforeColon beforeType typeText : List Char} {type : FieldType}
    (hname : IsWord name) (hcolon : allBlank beforeColon = true)
    (hbefore : allBlank beforeType = true) (htype : WritesType type typeText) :
    WritesField ⟨String.ofList name, type, []⟩ true
      (name ++ (beforeColon ++ ':' :: (beforeType ++ typeText)))
  /-- A field with a list of attributes in brackets, which may be empty. -/
  | attributed {name beforeColon beforeType typeText beforeAt beforeOpen wordsText : List Char}
    {type : FieldType} {words : List String}
    (hname : IsWord name) (hcolon : allBlank beforeColon = true)
    (hbefore : allBlank beforeType = true) (htype : WritesType type typeText)
    (hat : allBlank beforeAt = true) (hopen : allBlank beforeOpen = true)
    (hwords : WritesWords words wordsText) :
    WritesField ⟨String.ofList name, type, words⟩ false
      (name ++ (beforeColon ++ ':' :: (beforeType ++ (typeText ++
        (beforeAt ++ '@' :: (beforeOpen ++ '[' :: (wordsText ++ [']'])))))))

/-- The texts that declare fields. White space must stand behind a field that ends in the word of
its type, unless it is the last one. -/
inductive WritesFields : List Field → List Char → Prop
  | nil {blank : List Char} (hblank : allBlank blank = true) : WritesFields [] blank
  | cons {before text behind : List Char} {field : Field} {fields : List Field} {endsInWord : Bool}
    (hbefore : allBlank before = true) (hfield : WritesField field endsInWord text)
    (hbehind : endsInWord = true → ∀ c ∈ behind.head?, isBlank c = true) :
    WritesFields fields behind → WritesFields (field :: fields) (before ++ (text ++ behind))

/-- No field that must be given follows one that may be left out. -/
def OptionalLast (fields : List Field) : Prop :=
  fields.Pairwise fun earlier later => earlier.isOptional = true → later.isOptional = true

/-! ## White space -/

/-- A text starts with white space that is passed over. -/
theorem exists_trimStart (cs : List Char) :
    ∃ before, allBlank before = true ∧ cs = before ++ trimStart cs := by
  refine ⟨cs.takeWhile isBlank, ?_, List.takeWhile_append_dropWhile.symm⟩
  exact List.all_eq_true.mpr fun c hc => List.mem_takeWhile_imp hc

/-- Behind white space that was passed over there is no more of it. -/
theorem trimStart_trimStart (cs : List Char) : trimStart (trimStart cs) = trimStart cs :=
  List.dropWhile_idempotent _ cs

/-- White space in front of another character is passed over. -/
theorem trimStart_append_cons {before : List Char} (hbefore : allBlank before = true) {c : Char}
    (hc : isBlank c = false) (rest : List Char) : trimStart (before ++ c :: rest) = c :: rest := by
  rw [trimStart_append hbefore]
  refine trimStart_eq_self fun d hd => ?_
  obtain rfl : c = d := Option.some.inj hd
  exact hc

/-- Nothing is left of a text that is blank. -/
theorem trimStart_eq_nil_iff {cs : List Char} : trimStart cs = [] ↔ allBlank cs = true := by
  rw [trimStart, List.dropWhile_eq_nil_iff, allBlank, List.all_eq_true]

/-- White space put together is white space. -/
theorem allBlank_append {before after : List Char} :
    allBlank (before ++ after) = true ↔ allBlank before = true ∧ allBlank after = true := by
  rw [allBlank, List.all_append, Bool.and_eq_true]
  rfl

/-! ## Word characters -/

/-- The code points of white space. -/
def blankCodes : List Nat :=
  [0x9, 0xa, 0xb, 0xc, 0xd, 0x1c, 0x1d, 0x1e, 0x1f, 0x20, 0x85, 0xa0, 0x1680, 0x2000, 0x2001,
    0x2002, 0x2003, 0x2004, 0x2005, 0x2006, 0x2007, 0x2008, 0x2009, 0x200a, 0x2028, 0x2029, 0x202f,
    0x205f, 0x3000]

/-- White space is no part of a word. -/
theorem isWordChar_of_isBlank {c : Char} (h : isBlank c = true) : isWordChar c = false := by
  have hcode : c.toNat ∈ blankCodes := by
    simp only [isBlank, Bool.or_eq_true, Bool.and_eq_true, decide_eq_true_eq, beq_iff_eq] at h
    simp only [blankCodes, List.mem_cons, List.not_mem_nil, or_false]
    omega
  -- There are few enough of them to look each one up in the tables of word characters.
  have hall : ∀ n ∈ blankCodes, isWordChar (Char.ofNat n) = false := by decide +kernel
  simpa using hall c.toNat hcode

/-- No word goes on into a text. -/
def EndsWord (rest : List Char) : Prop :=
  ∀ c ∈ rest.head?, isWordChar c = false

/-- A word ends in front of any other character. -/
theorem endsWord_cons {c : Char} (hc : isWordChar c = false) (rest : List Char) :
    EndsWord (c :: rest) := by
  intro d hd
  obtain rfl : c = d := Option.some.inj hd
  exact hc

/-- A word ends in front of white space. -/
theorem endsWord_of_isBlank {rest : List Char} (h : ∀ c ∈ rest.head?, isBlank c = true) :
    EndsWord rest :=
  fun c hc => isWordChar_of_isBlank (h c hc)

/-- A word ends in front of white space and another character. -/
theorem endsWord_append_cons {before : List Char} (hbefore : allBlank before = true) {c : Char}
    (hc : isWordChar c = false) (rest : List Char) : EndsWord (before ++ c :: rest) := by
  cases before with
  | nil => exact endsWord_cons hc rest
  | cons d before => exact endsWord_cons (isWordChar_of_isBlank (by simp_all [allBlank])) _

/-- A word starts with a character that is no white space. -/
theorem IsWord.exists_cons {word : List Char} (h : IsWord word) :
    ∃ c others, word = c :: others ∧ isWordChar c = true ∧ isBlank c = false := by
  obtain ⟨c, others, rfl⟩ := List.exists_cons_of_ne_nil h.ne_nil
  have hc := h.chars c List.mem_cons_self
  refine ⟨c, others, rfl, hc, ?_⟩
  by_contra hblank
  rw [isWordChar_of_isBlank (by simpa using hblank)] at hc
  cases hc

/-- White space in front of a word is passed over. -/
theorem trimStart_append_word {before : List Char} (hbefore : allBlank before = true)
    {word : List Char}
    (hword : IsWord word) (rest : List Char) :
    trimStart (before ++ (word ++ rest)) = word ++ rest := by
  obtain ⟨c, others, rfl, -, hblank⟩ := hword.exists_cons
  exact trimStart_append_cons hbefore hblank _

/-- A type starts with a word or a bracket, and so not with white space. -/
theorem WritesType.exists_cons {type : FieldType} {text : List Char} (h : WritesType type text) :
    ∃ c others, text = c :: others ∧ isBlank c = false := by
  cases h with
  | named hword =>
    obtain ⟨c, others, hcons, -, hblank⟩ := hword.exists_cons
    exact ⟨c, others, hcons, hblank⟩
  | list _ => exact ⟨'[', _, rfl, by decide⟩

/-- The bracket behind attributes, or a comma between them, ends a word. -/
theorem WritesMoreWords.endsWord {words : List String} {text : List Char}
    (h : WritesMoreWords words text) (rest : List Char) :
    EndsWord (text ++ ']' :: rest) := by
  cases h with
  | nil hafter => exact endsWord_append_cons hafter (by decide) _
  | cons hbefore =>
    rw [List.append_assoc]
    exact endsWord_append_cons hbefore (by decide) _

/-- A field starts with the word of its name. -/
theorem WritesField.exists_append {field : Field} {endsInWord : Bool} {text : List Char}
    (h : WritesField field endsInWord text) :
    ∃ name others, IsWord name ∧ text = name ++ others := by
  cases h with
  | plain hname => exact ⟨_, _, hname, rfl⟩
  | attributed hname => exact ⟨_, _, hname, rfl⟩

/-- What declares fields starts with a word behind white space, if with anything. -/
theorem WritesFields.head_trimStart {fields : List Field} {text : List Char}
    (h : WritesFields fields text) : ∀ c ∈ (trimStart text).head?, c ≠ '@' := by
  cases h with
  | nil hblank => simp [trimStart_eq_nil_iff.mpr hblank]
  | cons hbefore hfield =>
    obtain ⟨name, others, hname, rfl⟩ := hfield.exists_append
    obtain ⟨c, _, hcons, hc, -⟩ := hname.exists_cons
    rw [List.append_assoc, trimStart_append_word hbefore hname, hcons]
    rintro d hd rfl
    cases Option.some.inj hd
    exact absurd hc (by decide)

/-- What declares fields starts with white space, if no word goes on into it. -/
theorem WritesFields.isBlank_head? {fields : List Field} {text : List Char}
    (h : WritesFields fields text) (hends : EndsWord text) :
    ∀ c ∈ text.head?, isBlank c = true := by
  have hblank {before : List Char} (hbefore : allBlank before = true) :
      ∀ c ∈ before.head?, isBlank c = true :=
    fun c hc => List.all_eq_true.mp hbefore c (List.mem_of_mem_head? hc)
  cases h with
  | nil hbefore => exact hblank hbefore
  | @cons before _ _ _ _ _ hbefore hfield =>
    cases before with
    | nil =>
      -- The name of the first field would go on a word.
      obtain ⟨name, others, hname, rfl⟩ := hfield.exists_append
      obtain ⟨c, _, rfl, hc, -⟩ := hname.exists_cons
      rw [hends c rfl] at hc
      cases hc
    | cons c before =>
      intro d hd
      exact hblank hbefore d hd

/-- White space in front of fields makes no difference. -/
theorem writesFields_trimStart_iff {fields : List Field} {text : List Char} :
    WritesFields fields (trimStart text) ↔ WritesFields fields text := by
  obtain ⟨blank, hblank, htext⟩ := exists_trimStart text
  constructor
  · intro h
    generalize trimStart text = start at h htext
    subst htext
    cases h with
    | nil hbefore => exact .nil (allBlank_append.mpr ⟨hblank, hbefore⟩)
    | cons hbefore hfield hbehind hfields =>
      rw [← List.append_assoc]
      exact .cons (allBlank_append.mpr ⟨hblank, hbefore⟩) hfield hbehind hfields
  · intro h
    cases h with
    | nil hbefore =>
      rw [trimStart_eq_nil_iff.mpr hbefore]
      exact .nil rfl
    | cons hbefore hfield hbehind hfields =>
      obtain ⟨name, others, hname, rfl⟩ := hfield.exists_append
      rw [List.append_assoc, trimStart_append_word hbefore hname, ← List.append_assoc]
      exact .cons (show allBlank [] = true from rfl) hfield hbehind hfields

end SyntaxBridge.Record
