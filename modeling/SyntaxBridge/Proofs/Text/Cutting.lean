import Mathlib.Data.List.TakeWhile
import Mathlib.Tactic.SplitIfs
import SyntaxBridge.Text.Blank
import SyntaxBridge.Text.Digit
import SyntaxBridge.Text.Search

/-!
# Trimming and cutting texts

What trimming, cutting into words and cutting at a mark make of a text that was put together from
known parts. A text is *bare* if it neither starts nor ends in white space.

* `trim_append`: trimming finds a bare text between white space;
* `words_append`, `firstWord_append`: a word is found in front of white space or of nothing;
* `cutAt?_append`: a text is cut where its mark was put, if nothing before looks like the mark;
* `dropTrailingDigits_append`: the digits behind a text are dropped, and nothing more.
-/

namespace SyntaxBridge.Text

variable {cs before after rest : List Char}

/-- A mark without the property that all characters of a text have does not stand in it. -/
theorem notMem_of_forall {p : Char → Bool} (h : ∀ c ∈ cs, p c = true) {mark : Char}
    (hmark : p mark = false) : mark ∉ cs := by
  intro hmem
  rw [h mark hmem] at hmark
  exact Bool.noConfusion hmark

/-- A mark that is no white space does not stand in white space. -/
theorem notMem_of_allBlank (h : allBlank cs = true) {mark : Char} (hmark : isBlank mark = false) :
    mark ∉ cs :=
  notMem_of_forall (List.all_eq_true.mp h) hmark

/-- What is dropped at the end of a text satisfies the test. -/
theorem exists_eq_dropEndWhile_append (p : Char → Bool) (cs : List Char) :
    ∃ back, (∀ c ∈ back, p c = true) ∧ cs = dropEndWhile p cs ++ back := by
  refine ⟨(cs.reverse.takeWhile p).reverse, fun c hc => ?_, ?_⟩
  · exact List.mem_takeWhile_imp (List.mem_reverse.mp hc)
  · rw [dropEndWhile, ← List.reverse_append, List.takeWhile_append_dropWhile, List.reverse_reverse]

/-! ## Trimming -/

/-- A text that neither starts nor ends in white space. -/
structure IsBare (cs : List Char) : Prop where
  head : ∀ c ∈ cs.head?, isBlank c = false
  last : ∀ c ∈ cs.getLast?, isBlank c = false

/-- A text without white space is bare. -/
theorem isBare_of_forall (h : ∀ c ∈ cs, isBlank c = false) : IsBare cs where
  head c hc := h c (List.mem_of_mem_head? hc)
  last c hc := h c (List.mem_of_mem_getLast? hc)

/-- A text that starts with another starts with its first character. -/
theorem forall_head?_append {p : Char → Prop} (hne : cs ≠ []) (h : ∀ c ∈ cs, p c)
    (rest : List Char) : ∀ c ∈ (cs ++ rest).head?, p c := by
  obtain ⟨first, others, rfl⟩ := List.exists_cons_of_ne_nil hne
  intro c hc
  obtain rfl : first = c := Option.some.inj hc
  exact h first List.mem_cons_self

/-- White space in front is dropped. -/
theorem trimStart_append (hbefore : allBlank before = true) (cs : List Char) :
    trimStart (before ++ cs) = trimStart cs :=
  List.dropWhile_append_of_pos (List.all_eq_true.mp hbefore)

/-- Nothing is dropped in front of a character that is no white space. -/
theorem trimStart_eq_self (h : ∀ c ∈ cs.head?, isBlank c = false) : trimStart cs = cs := by
  cases cs with
  | nil => rfl
  | cons c cs => simp [trimStart, h c rfl]

/-- White space at the end is dropped, back to a character that is none. -/
theorem trimEnd_append_of_ne_nil (hne : cs ≠ []) (h : ∀ c ∈ cs.getLast?, isBlank c = false)
    (rest : List Char) : trimEnd (cs ++ rest) = cs ++ trimEnd rest := by
  obtain ⟨init, last, rfl⟩ := (List.eq_nil_or_concat cs).resolve_left hne
  have hlast : isBlank last = false := h last (by simp)
  simp only [trimEnd, dropEndWhile, List.concat_eq_append, List.reverse_append,
    List.dropWhile_append]
  -- Either all of the rest is dropped, and then the search stops at once, or some of it is left.
  split
  next hnil => simp_all
  next => simp

/-- The first character of a text is dropped from the end only if it is white space and nothing is
left behind it. -/
theorem trimEnd_cons (c : Char) (cs : List Char) :
    trimEnd (c :: cs) =
      if trimEnd cs = [] then (if isBlank c then [] else [c]) else c :: trimEnd cs := by
  simp only [trimEnd, dropEndWhile, List.reverse_cons, List.dropWhile_append,
    List.reverse_eq_nil_iff]
  by_cases h : cs.reverse.dropWhile isBlank = []
  · by_cases hc : isBlank c = true <;> simp [h, hc]
  · simp [h]

/-- What is left of a text starts like the text. -/
theorem mem_head?_of_mem_head?_trimEnd {c : Char} (h : c ∈ (trimEnd cs).head?) : c ∈ cs.head? := by
  cases cs with
  | nil => exact h
  | cons d cs =>
    rw [trimEnd_cons] at h
    split_ifs at h
    · cases h
    · exact h
    · exact h

/-- White space at the end of a bare text is dropped. -/
theorem trimEnd_append (h : ∀ c ∈ cs.getLast?, isBlank c = false) (hafter : allBlank after = true) :
    trimEnd (cs ++ after) = cs := by
  have hnil : trimEnd after = [] := by
    have hall : ∀ c ∈ after.reverse, isBlank c = true := by simpa [allBlank] using hafter
    rw [trimEnd, dropEndWhile, List.dropWhile_eq_nil_iff.mpr hall, List.reverse_nil]
  by_cases hcs : cs = []
  · rw [hcs, List.nil_append, hnil]
  · rw [trimEnd_append_of_ne_nil hcs h, hnil, List.append_nil]

/-- Trimming finds a bare text between white space. -/
theorem trim_append (hbefore : allBlank before = true) (hcs : IsBare cs)
    (hafter : allBlank after = true) : trim (before ++ cs ++ after) = cs := by
  rw [trim, List.append_assoc, trimStart_append hbefore]
  cases cs with
  | nil =>
    -- Nothing but white space is left, and it goes at once.
    have hnil : trimStart ([] ++ after) = [] :=
      List.dropWhile_eq_nil_iff.mpr (List.all_eq_true.mp hafter)
    rw [hnil]
    rfl
  | cons c cs =>
    rw [trimStart_eq_self (by simpa using hcs.head)]
    exact trimEnd_append hcs.last hafter

/-- A bare text is left alone. -/
theorem trim_eq_self (h : IsBare cs) : trim cs = cs := by
  have hnone : allBlank [] = true := rfl
  simpa using trim_append hnone h hnone

/-! ## Words -/

/-- What is not cut stays in front of the first part. -/
theorem splitWhere_append {p : Char → Bool} {part : List Char} {parts : List (List Char)}
    (hcs : ∀ c ∈ cs, p c = false) (hrest : splitWhere p rest = part :: parts) :
    splitWhere p (cs ++ rest) = (cs ++ part) :: parts := by
  induction cs with
  | nil => exact hrest
  | cons c cs ih =>
    have ih := ih fun d hd => hcs d (List.mem_cons_of_mem _ hd)
    rw [List.cons_append, splitWhere, if_neg (by simp [hcs c List.mem_cons_self]), ih]
    rfl

/-- White space in front of a text is no word. -/
theorem words_cons_of_isBlank {c : Char} (h : isBlank c = true) (cs : List Char) :
    words (c :: cs) = words cs := by
  simp [words, splitWhere, h]

/-- Nor is any more of it. -/
theorem words_append_of_allBlank (hbefore : allBlank before = true) (cs : List Char) :
    words (before ++ cs) = words cs := by
  induction before with
  | nil => rfl
  | cons c before ih =>
    rw [allBlank, List.all_cons, Bool.and_eq_true] at hbefore
    rw [List.cons_append, words_cons_of_isBlank hbefore.1, ih hbefore.2]

/-- A word in front of white space or of nothing is the first one. -/
theorem words_append (hne : cs ≠ []) (hcs : ∀ c ∈ cs, isBlank c = false)
    (hrest : ∀ c ∈ rest.head?, isBlank c = true) : words (cs ++ rest) = cs :: words rest := by
  have hpart : ∃ parts, splitWhere isBlank rest = [] :: parts := by
    cases rest with
    | nil => exact ⟨[], rfl⟩
    | cons c rest => exact ⟨_, by rw [splitWhere, if_pos (hrest c rfl)]⟩
  obtain ⟨parts, hparts⟩ := hpart
  simp [words, splitWhere_append hcs hparts, hparts, hne]

/-- The first word of a text that starts with one, and what follows it. -/
theorem firstWord_append (hne : cs ≠ []) (hcs : ∀ c ∈ cs, isBlank c = false)
    (hrest : ∀ c ∈ rest.head?, isBlank c = true) :
    firstWord (cs ++ rest) = (cs, trimStart rest) := by
  have hkept : ∀ c ∈ cs, (!isBlank c) = true := fun c hc => by rw [hcs c hc]; rfl
  rw [firstWord, trimStart_eq_self (forall_head?_append hne hcs rest),
    List.takeWhile_append_of_pos hkept, List.dropWhile_append_of_pos hkept]
  cases rest with
  | nil => simp
  | cons c rest => simp [hrest c rfl]

/-! ## Marks and digits -/

/-- A text is cut where its mark was put, if the mark's first character does not come earlier. -/
theorem cutAt?_append {mark : List Char} {first : Char} (hmark : mark.head? = some first)
    (hbefore : first ∉ before) (after : List Char) :
    cutAt? mark (before ++ (mark ++ after)) = some (before, after) := by
  obtain ⟨others, rfl⟩ := List.head?_eq_some_iff.mp hmark
  induction before with
  | nil => simp [cutAt?]
  | cons c before ih =>
    rw [List.mem_cons, not_or] at hbefore
    have hstart : (first :: others).isPrefixOf (c :: (before ++ (first :: others ++ after))) =
        false := by
      simp [List.isPrefixOf, hbefore.1]
    rw [List.cons_append, cutAt?, hstart, if_neg Bool.false_ne_true, ih hbefore.2]
    rfl

/-- A text that is cut is what comes before the mark, the mark, and what comes after it. -/
theorem eq_append_of_cutAt? {mark : List Char} (h : cutAt? mark cs = some (before, after)) :
    cs = before ++ (mark ++ after) := by
  induction cs generalizing before with
  | nil =>
    rw [cutAt?] at h
    split_ifs at h with hmark
    cases h
    rw [List.isEmpty_iff.mp hmark]
    rfl
  | cons c cs ih =>
    rw [cutAt?] at h
    split_ifs at h with hmark
    · cases h
      obtain ⟨rest, hrest⟩ := List.isPrefixOf_iff_prefix.mp hmark
      rw [← hrest, List.drop_left, List.nil_append]
    · obtain ⟨⟨front, back⟩, hcut, heq⟩ := Option.map_eq_some_iff.mp h
      cases heq
      rw [ih hcut, List.cons_append]

/-- The digits behind a text that does not end in one are dropped, and nothing more. -/
theorem dropTrailingDigits_append {digits : List Char}
    (hcs : ∀ c ∈ cs.getLast?, isDecimalDigit c = false)
    (hdigits : ∀ c ∈ digits, isDecimalDigit c = true) :
    dropTrailingDigits (cs ++ digits) = cs := by
  have hall : ∀ c ∈ digits.reverse, isDecimalDigit c = true := by simpa using hdigits
  rw [dropTrailingDigits, List.reverse_append, List.dropWhile_append_of_pos hall]
  rcases List.eq_nil_or_concat cs with rfl | ⟨init, last, rfl⟩
  · rfl
  · simp [hcs last (by simp)]

/-- What is left without the digits at its end does not end in one. -/
theorem isDecimalDigit_getLast?_dropTrailingDigits :
    ∀ c ∈ (dropTrailingDigits cs).getLast?, isDecimalDigit c = false := by
  intro c hc
  rw [dropTrailingDigits, List.getLast?_reverse] at hc
  have hfirst := List.head?_dropWhile_not isDecimalDigit cs.reverse
  rw [hc] at hfirst
  exact hfirst

/-- A number is written with digits. -/
theorem isDigit_of_mem_toString {number : Nat} {c : Char} (h : c ∈ (toString number).toList) :
    c.isDigit = true := by
  refine Nat.isDigit_of_mem_toDigits (b := 10) (by decide) (by decide) (n := number) ?_
  simpa using h

/-- Different numbers are written differently. -/
theorem eq_of_toList_toString_eq {m n : Nat} (h : (toString m).toList = (toString n).toList) :
    m = n := by
  -- The digits are read back.
  have hdigits : Nat.toDigits 10 m = Nat.toDigits 10 n := by simpa using h
  have hread := congrArg (Nat.ofDigitChars 10 · 0) hdigits
  simpa [Nat.ofDigitChars_toDigits] using hread

/-- No digit is white space. -/
theorem isBlank_eq_false_of_isDecimalDigit {c : Char} (h : isDecimalDigit c = true) :
    isBlank c = false := by
  -- The white space beyond the first scripts lies in a few gaps between the rows of digits.
  have hgaps : ∀ n ∈ digitZeros,
      0xa0 < n ∧ (n + 10 ≤ 0x1680 ∨ (0x1680 < n ∧ n + 10 ≤ 0x2000) ∨ 0x3000 < n) := by decide
  rw [isDecimalDigit] at h
  split at h
  next hascii =>
    have hdigit : 48 ≤ c.toNat ∧ c.toNat ≤ 57 := by
      simpa [Char.isDigit, UInt32.le_iff_toNat_le] using h
    simp [isBlank]
    omega
  next =>
    obtain ⟨n, hn, hrow⟩ := List.any_eq_true.mp h
    have hgap := hgaps n hn
    simp only [Bool.and_eq_true, decide_eq_true_eq] at hrow
    simp [isBlank]
    omega

end SyntaxBridge.Text
