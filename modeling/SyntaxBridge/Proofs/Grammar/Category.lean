import Mathlib.Data.List.Basic
import SyntaxBridge.Grammar.Category

/-!
# Names of list categories

The name of a list category is that of its elements between brackets
(`Category.element?_eq_some_iff`). The name `[]` has nothing between its brackets and names no list
category.
-/

namespace SyntaxBridge.Category

/-- A name is that of a list category if it is that of the elements between brackets. -/
theorem inner?_eq_some_iff {cs inner : List Char} :
    inner? cs = some inner ↔ inner ≠ [] ∧ cs = '[' :: inner ++ [']'] := by
  constructor
  · intro h
    unfold inner? at h
    split at h
    next rest =>
      split at h
      next hcond =>
        cases h
        obtain ⟨hlength, hlast⟩ := hcond
        have hne : rest ≠ [] := by
          rintro rfl
          simp at hlast
        refine ⟨?_, ?_⟩
        · intro hnil
          have := congrArg List.length hnil
          rw [List.length_dropLast, List.length_nil] at this
          omega
        · rw [List.cons_append, List.cons_inj_right]
          rw [List.getLast?_eq_some_getLast hne, Option.some_inj] at hlast
          rw [← hlast, List.dropLast_append_getLast]
      · cases h
    · cases h
  · rintro ⟨hne, rfl⟩
    have hpos := List.length_pos_iff.mpr hne
    simp [inner?, hpos]

/-- A text without one of the brackets is not the name of a list category. -/
theorem inner?_eq_none_of_notMem {cs : List Char} (h : '[' ∉ cs ∨ ']' ∉ cs) : inner? cs = none := by
  rw [Option.eq_none_iff_forall_ne_some]
  intro inner hinner
  rw [(inner?_eq_some_iff.mp hinner).2] at h
  simp at h

/-- A name is that of the lists of a category if it is that category's name between brackets. -/
theorem element?_eq_some_iff {name element : String} :
    element? name = some element ↔ element ≠ "" ∧ name = listOf element := by
  have htoList : (listOf element).toList = '[' :: element.toList ++ [']'] := by
    simp [listOf, String.toList_append]
  rw [element?, Option.map_eq_some_iff]
  constructor
  · rintro ⟨inner, hinner, rfl⟩
    obtain ⟨hne, hname⟩ := inner?_eq_some_iff.mp hinner
    refine ⟨by simpa using hne, String.toList_inj.mp ?_⟩
    rw [htoList, hname, String.toList_ofList]
  · rintro ⟨hne, rfl⟩
    refine ⟨element.toList, inner?_eq_some_iff.mpr ⟨by simpa using hne, htoList⟩, ?_⟩
    exact String.ofList_toList

theorem element?_listOf {name : String} (h : name ≠ "") : element? (listOf name) = some name :=
  element?_eq_some_iff.mpr ⟨h, rfl⟩

theorem element_listOf {name : String} (h : name ≠ "") : element (listOf name) = name := by
  rw [element, element?_listOf h, Option.getD_some]

/-- The names of list categories are those of other categories between brackets. -/
theorem isList_iff {name : String} :
    isList name = true ↔ ∃ element, element ≠ "" ∧ name = listOf element := by
  simp only [isList, Option.isSome_iff_exists, element?_eq_some_iff]

/-- A name without a bracket names no list category. -/
theorem element?_eq_none_of_notMem {name : String} (h : '[' ∉ name.toList) :
    element? name = none := by
  rw [element?, inner?_eq_none_of_notMem (.inl h), Option.map_none]

end SyntaxBridge.Category
