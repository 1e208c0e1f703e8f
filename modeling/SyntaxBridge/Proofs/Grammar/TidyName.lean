import SyntaxBridge.Proofs.Grammar.ListCategory
import SyntaxBridge.Proofs.Text.Splitting

/-!
# Tidy names of categories

A name is tidy if it has neither white space around it nor digits behind it, at every depth of a list
category. Reading a tidy name gives the name again, and no other name does that (`isTidy_iff`).

What is read from a text need not be tidy. White space is dropped and brackets are looked for before
the digits at the end are dropped, so what stands in front of the digits is kept as it is. Which
texts give tidy names is said by `WritesTidy` (`writesTidy_iff`).
-/

namespace SyntaxBridge.Parser

open Outcome Text

/-- A name without white space around it and without digits behind it, at every depth. -/
inductive IsTidy : List Char → Prop
  /-- The name of a category that is none of lists. -/
  | name {name : List Char} (hne : name ≠ []) (hbare : IsBare name)
    (hlast : ∀ c ∈ name.getLast?, isDecimalDigit c = false)
    (hinner : Category.inner? name = none) : IsTidy name
  /-- The name of the lists of a category with a tidy name. -/
  | list {element : List Char} (h : IsTidy element) : IsTidy ('[' :: element ++ [']'])

/-- The texts that are read as a tidy name. -/
inductive WritesTidy : List Char → List Char → Prop
  /-- The name with digits behind it and white space around both. -/
  | digits {name digits text : List Char} (hname : IsTidy name)
    (hdigits : ∀ c ∈ digits, isDecimalDigit c = true) (htrim : trim text = name ++ digits) :
    WritesTidy name text
  /-- Such a text in brackets, with white space around them. -/
  | list {element inner text : List Char} (htrim : trim text = '[' :: inner ++ [']'])
    (h : WritesTidy element inner) : WritesTidy ('[' :: element ++ [']']) text

variable {name text element : List Char}

/-- Brackets are no white space. -/
theorem isBare_brackets (element : List Char) : IsBare ('[' :: element ++ [']']) where
  head c hc := by
    obtain rfl : '[' = c := Option.some.inj hc
    decide
  last c hc := by
    obtain rfl : ']' = c := by simpa [List.getLast?_append, List.getLast?_cons] using hc
    decide

/-- A text depends on nothing but what is left of it after trimming. -/
theorem cleanType_congr {other : List Char} (h : trim text = trim other) :
    cleanType text = cleanType other := by
  cases hinner : Category.inner? (trim text) with
  | some inner =>
    have hother : Category.inner? (trim other) = some inner := h ▸ hinner
    rw [cleanType_of_inner?_eq_some hinner, cleanType_of_inner?_eq_some hother]
  | none =>
    have hother : Category.inner? (trim other) = none := h ▸ hinner
    rw [cleanType_of_inner?_eq_none hinner, cleanType_of_inner?_eq_none hother, h]

/-- What is read in brackets is what is read between them, in brackets. -/
theorem cleanType_brackets_eq_ok_iff {inner : List Char}
    (h : Category.inner? (trim text) = some inner) :
    cleanType text = .ok name ↔
      ∃ element, cleanType inner = .ok element ∧ name = '[' :: element ++ [']'] := by
  rw [cleanType_of_inner?_eq_some h]
  cases cleanType inner with
  | error e => exact iff_of_false (fun h => nomatch h) fun ⟨_, h, _⟩ => nomatch h
  | ok element =>
    constructor
    · intro h
      exact ⟨element, rfl, (Except.ok.inj h).symm⟩
    · rintro ⟨_, h, rfl⟩
      rw [← Except.ok.inj h]
      rfl

namespace IsTidy

theorem ne_nil (h : IsTidy name) : name ≠ [] := by
  cases h with
  | name hne => exact hne
  | list => exact List.cons_ne_nil _ _

theorem isBare (h : IsTidy name) : IsBare name := by
  cases h with
  | name _ hbare => exact hbare
  | list => exact isBare_brackets _

/-- No digit stands behind a tidy name. -/
theorem last (h : IsTidy name) : ∀ c ∈ name.getLast?, isDecimalDigit c = false := by
  cases h with
  | name _ _ hlast => exact hlast
  | list =>
    intro c hc
    obtain rfl : ']' = c := by simpa [List.getLast?_append, List.getLast?_cons] using hc
    decide

/-- The name of lists is tidy only if that of their elements is. -/
theorem of_brackets (hne : element ≠ []) (h : IsTidy ('[' :: element ++ [']'])) :
    IsTidy element := by
  generalize heq : '[' :: element ++ [']'] = name at h
  cases h with
  | name _ _ _ hinner =>
    rw [← heq, Category.inner?_eq_some_iff.mpr ⟨hne, rfl⟩] at hinner
    cases hinner
  | list h =>
    rw [List.append_cancel_right (List.cons.inj heq).2]
    exact h

/-- A tidy name is read as itself. -/
theorem cleanType_eq (h : IsTidy name) : cleanType name = .ok name := by
  induction h with
  | name hne hbare hlast hinner =>
    refine cleanType_of_append hne hlast (List.forall_mem_nil _) ?_ ?_
    · rw [List.append_nil, hinner]
    · rw [List.append_nil, trim_eq_self hbare]
  | @list element h ih =>
    have hinner : Category.inner? (trim ('[' :: element ++ [']'])) = some element := by
      rw [trim_eq_self (isBare_brackets element)]
      exact Category.inner?_eq_some_iff.mpr ⟨h.ne_nil, rfl⟩
    exact (cleanType_brackets_eq_ok_iff hinner).mpr ⟨element, ih, rfl⟩

end IsTidy

/-- A name that is left when the white space around it and the digits behind it are dropped has
neither. -/
theorem trim_eq_self_of_dropTrailingDigits (h : dropTrailingDigits (trim name) = name) :
    trim name = name := by
  obtain ⟨digits, -, htrim⟩ := exists_eq_dropTrailingDigits_append (trim name)
  rw [h] at htrim
  have hlength : (trim name).length = name.length + digits.length := by
    rw [htrim, List.length_append]
  have hshorter := (trim_sublist name).length_le
  obtain rfl : digits = [] := List.eq_nil_of_length_eq_zero (by omega)
  rw [htrim, List.append_nil]

/-- A name is tidy exactly if it is read as itself. -/
theorem isTidy_iff : IsTidy name ↔ cleanType name = .ok name := by
  refine ⟨IsTidy.cleanType_eq, fun h => ?_⟩
  fun_induction cleanType name with
  | case1 name inner hinner _ ih =>
    obtain ⟨element, helement, heq⟩ := bind_eq_ok_iff.mp h
    obtain rfl : '[' :: element ++ [']'] = name := Except.ok.inj heq
    -- Nothing is trimmed off the brackets, so the element is what stands between them.
    rw [trim_eq_self (isBare_brackets element)] at hinner
    obtain ⟨-, hbrackets⟩ := Category.inner?_eq_some_iff.mp hinner
    obtain rfl : element = inner := List.append_cancel_right (List.cons.inj hbrackets).2
    exact .list (ih helement)
  | case2 => cases h
  | case3 name hinner _ hne =>
    have hname : dropTrailingDigits (trim name) = name := Except.ok.inj h
    have htrim := trim_eq_self_of_dropTrailingDigits hname
    rw [htrim] at hinner hname
    refine .name ?_ (htrim ▸ isBare_trim name) ?_ hinner
    · rintro rfl
      exact hne rfl
    · exact hname ▸ isDecimalDigit_getLast?_dropTrailingDigits

/-- What a text writes is tidy, and it is what the text is read as. -/
theorem WritesTidy.cleanType_eq (h : WritesTidy name text) :
    cleanType text = .ok name ∧ IsTidy name := by
  induction h with
  | @digits name digits text hname hdigits htrim =>
    refine ⟨?_, hname⟩
    by_cases hnone : digits = []
    · rw [hnone, List.append_nil] at htrim
      rw [cleanType_congr (htrim.trans (trim_eq_self hname.isBare).symm), hname.cleanType_eq]
    · exact cleanType_of_append hname.ne_nil hname.last hdigits
        (Category.inner?_append_eq_none hnone hdigits name) htrim
  | @list element inner text htrim _ ih =>
    obtain ⟨hread, htidy⟩ := ih
    have hne : inner ≠ [] := by
      rintro rfl
      rw [cleanType_of_inner?_eq_none rfl] at hread
      cases hread
    have hinner := Category.inner?_eq_some_iff.mpr ⟨hne, htrim⟩
    exact ⟨(cleanType_brackets_eq_ok_iff hinner).mpr ⟨element, hread, rfl⟩, .list htidy⟩

/-- A text writes a tidy name exactly if it is read as that name. -/
theorem writesTidy_iff : WritesTidy name text ↔ cleanType text = .ok name ∧ IsTidy name := by
  refine ⟨WritesTidy.cleanType_eq, ?_⟩
  rintro ⟨h, htidy⟩
  fun_induction cleanType text generalizing name with
  | case1 text inner hinner _ ih =>
    obtain ⟨element, helement, heq⟩ := bind_eq_ok_iff.mp h
    obtain rfl : '[' :: element ++ [']'] = name := Except.ok.inj heq
    obtain ⟨-, htrim⟩ := Category.inner?_eq_some_iff.mp hinner
    exact .list htrim (ih helement (htidy.of_brackets (ne_nil_of_cleanType helement)))
  | case2 => cases h
  | case3 text =>
    obtain rfl : dropTrailingDigits (trim text) = name := Except.ok.inj h
    obtain ⟨digits, hdigits, htrim⟩ := exists_eq_dropTrailingDigits_append (trim text)
    exact .digits htidy hdigits htrim

end SyntaxBridge.Parser
