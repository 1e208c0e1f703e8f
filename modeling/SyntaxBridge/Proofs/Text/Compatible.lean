import Mathlib.Tactic.SplitIfs
import SyntaxBridge.Text.Compatible

/-!
# Underscores in compatible forms

An underscore stays what it is in the compatible form of a text: nothing composes with it. So a text
that starts with one has a compatible form that starts with one.
-/

namespace SyntaxBridge.Text

/-- The characters of a text that is written out can be looked at one by one. -/
theorem composedIn?_of_eq_ofList {c : Char} {text : String} {cs : List Char}
    (htext : text = String.ofList cs) (h : composedIn? c cs = none) :
    composedIn? c text.toList = none := by
  rw [htext, String.toList_ofList, h]

set_option maxRecDepth 4000 in
/-- No pair starts with an underscore. -/
theorem composedIn?_underscore :
    ∀ entry ∈ compositionPairs, composedIn? '_' entry.2.toList = none := by
  unfold compositionPairs
  repeat
    refine List.forall_mem_cons.mpr ⟨composedIn?_of_eq_ofList rfl (by decide +kernel), ?_⟩
  simp

/-- An underscore composes with no character. -/
theorem composePair?_underscore (c : Char) : composePair? '_' c = none := by
  have hangul : composeHangul? '_' c = none := by
    simp [composeHangul?]
  unfold composePair?
  split_ifs
  · rfl
  · rw [hangul]
    refine List.findSome?_eq_none_iff.mpr fun entry hentry => ?_
    exact composedIn?_underscore entry (List.mem_filter.mp hentry).1

/-- So it stays in front of what follows it. -/
theorem exists_composeFrom_underscore (apart cs : List Char) :
    ∃ rest, composeFrom '_' apart cs = '_' :: rest := by
  induction cs generalizing apart with
  | nil => exact ⟨apart, rfl⟩
  | cons c cs ih =>
    rw [composeFrom, composePair?_underscore, ite_self]
    show ∃ rest, (if combiningClass c = 0 then _ else _) = _
    split_ifs
    · exact ⟨_, rfl⟩
    · exact ih _

/-- The compatible form of a text that starts with an underscore starts with one. -/
theorem exists_compatibleForm_underscore (cs : List Char) :
    ∃ rest, compatibleForm ('_' :: cs) = '_' :: rest := by
  have plain : combiningClass '_' = 0 := by decide
  have first : orderMarks (('_' :: cs).flatMap decomposeChar) =
      insertMark '_' (orderMarks (cs.flatMap decomposeChar)) := by
    rw [List.flatMap_cons, decomposeChar_of_ascii (by decide)]
    rfl
  have inserted (ds : List Char) : insertMark '_' ds = '_' :: ds := by
    cases ds <;> simp [insertMark, plain]
  unfold compatibleForm
  split_ifs
  · exact ⟨cs, rfl⟩
  · rw [first, inserted, compose, if_pos plain]
    exact exists_composeFrom_underscore _ _

end SyntaxBridge.Text
