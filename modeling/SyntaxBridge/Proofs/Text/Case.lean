import Mathlib.Data.List.Basic
import SyntaxBridge.Text.Case

/-!
# Lower case of single characters and of texts

Within ASCII, the lower case form of a text is that of its characters (`lower_of_ascii`). A text
whose lower case form is within ASCII has as many characters as that form (`length_lower_of_ascii`),
although it may itself lie beyond ASCII: the Kelvin sign is lowered to the letter `k`.
-/

namespace SyntaxBridge.Text

/-! ## Within ASCII -/

/-- A property of all characters within ASCII, checked number by number. -/
theorem forall_ascii {P : Char → Prop} (h : ∀ n < 128, P (Char.ofNat n)) {c : Char}
    (hc : c.toNat < 128) : P c := by
  have hnumber := h c.toNat hc
  rwa [Char.ofNat_toNat] at hnumber

/-- The sigma that looks at what stands around it is beyond ASCII. -/
theorem ne_capitalSigma_of_ascii {c : Char} (h : c.toNat < 128) : c ≠ capitalSigma := by
  rintro rfl
  exact absurd h (by decide)

theorem lowerAfter_of_ascii (before : List Char) {cs : List Char} (h : ∀ c ∈ cs, c.toNat < 128) :
    lowerAfter before cs = cs.map Char.toLower := by
  induction cs generalizing before with
  | nil => rfl
  | cons c cs ih =>
    rw [List.forall_mem_cons] at h
    rw [lowerAfter, if_neg fun hfinal => ne_capitalSigma_of_ascii h.1 hfinal.1,
      lowerChar_of_ascii h.1, ih _ h.2, List.map_cons]
    rfl

/-- Within ASCII, the characters of a text are lowered one by one. -/
theorem lower_of_ascii {cs : List Char} (h : ∀ c ∈ cs, c.toNat < 128) :
    lower cs = cs.map Char.toLower :=
  lowerAfter_of_ascii [] h

/-- A character that is lowered to characters within ASCII is lowered to one of them. -/
theorem length_lowerChar_of_ascii {c : Char} (h : ∀ d ∈ lowerChar c, d.toNat < 128) :
    (lowerChar c).length = 1 := by
  unfold lowerChar at h ⊢
  split_ifs with hascii hdotted
  · rfl
  -- The dotted capital is lowered to two characters, of which the second is beyond ASCII.
  · rw [if_neg hascii, if_pos hdotted] at h
    exact absurd (h _ (List.mem_cons_of_mem _ List.mem_cons_self)) (by decide)
  · split <;> rfl

theorem length_lowerAfter_of_ascii (before : List Char) {cs : List Char}
    (h : ∀ d ∈ lowerAfter before cs, d.toNat < 128) :
    (lowerAfter before cs).length = cs.length := by
  induction cs generalizing before with
  | nil => rfl
  | cons c cs ih =>
    rw [lowerAfter, List.forall_mem_append] at h
    have hlow : (if c = capitalSigma ∧ endsWord before cs = true then [finalSigma]
        else lowerChar c).length = 1 := by
      split_ifs with hfinal
      · rfl
      · rw [if_neg hfinal] at h
        exact length_lowerChar_of_ascii h.1
    rw [lowerAfter, List.length_append, hlow, ih _ h.2, List.length_cons, Nat.add_comm]

/-- A text that is lowered to one within ASCII has as many characters as that. -/
theorem length_lower_of_ascii {cs : List Char} (h : ∀ d ∈ lower cs, d.toNat < 128) :
    (lower cs).length = cs.length :=
  length_lowerAfter_of_ascii [] h

/-! ## Control characters -/

section Control

variable {mark : Char} (hmark : 0 < mark.toNat ∧ mark.toNat < 32)

include hmark

/-- Only the number of a control character stands for it. -/
theorem ofNat_ne_of_control {n : Nat} (h : 32 ≤ n) : Char.ofNat n ≠ mark := by
  rintro rfl
  by_cases hvalid : n.isValidChar
  · rw [Char.ofNat, dif_pos hvalid] at hmark
    have hnumber : (Char.ofNatAux n hvalid).toNat = n := rfl
    omega
  -- A number of no character stands for the null character.
  · rw [Char.ofNat, dif_neg hvalid] at hmark
    exact absurd hmark.1 (by decide)

/-- Only a control character is lowered to itself. -/
theorem notMem_lowerChar {c : Char} (h : c ≠ mark) : mark ∉ lowerChar c := by
  unfold lowerChar
  split_ifs with hascii hdotted
  · -- A capital letter is lowered to a letter, and nothing else changes.
    have hlower : c.toLower = c ∨ 32 ≤ c.toLower.toNat :=
      forall_ascii (P := fun c => c.toLower = c ∨ 32 ≤ c.toLower.toNat) (by decide) hascii
    rw [List.mem_singleton]
    rintro rfl
    rcases hlower with hlower | hlower
    · exact h hlower.symm
    · omega
  · have hforms : ∀ d ∈ ['i', Char.ofNat 0x307], 32 ≤ d.toNat :=
      List.forall_mem_cons.mpr ⟨by decide, List.forall_mem_singleton.mpr (by decide)⟩
    intro hmem
    have hform := hforms mark hmem
    omega
  · split
    next n hn =>
      -- The lower case forms of each run of capitals begin beyond the control characters.
      have hruns : ∀ run ∈ capitalRuns, 32 ≤ run.lowered := by decide +kernel
      obtain ⟨run, hrun, hlower⟩ := List.exists_of_findSome?_eq_some hn
      unfold CapitalRun.lower? at hlower
      split_ifs at hlower
      have hle := hruns run hrun
      rw [← Option.some.inj hlower, List.mem_singleton]
      exact (ofNat_ne_of_control hmark (by omega)).symm
    next => simpa using h.symm

/-- Lowering a text adds no control character. -/
theorem notMem_lower {cs : List Char} (h : mark ∉ cs) : mark ∉ lower cs := by
  -- What stands before a character may change how it is lowered, so it is arbitrary here.
  suffices hafter : ∀ before, mark ∉ lowerAfter before cs from hafter []
  induction cs with
  | nil => exact fun _ => List.not_mem_nil
  | cons c cs ih =>
    rw [List.mem_cons, not_or] at h
    intro before
    rw [lowerAfter, List.mem_append, not_or]
    refine ⟨?_, ih h.2 _⟩
    split_ifs
    · rw [List.mem_singleton]
      rintro rfl
      exact absurd hmark.2 (by decide)
    · exact notMem_lowerChar hmark (Ne.symm h.1)

/-- Lowering the first character of a text adds no control character. -/
theorem notMem_lowerFirst {cs : List Char} (h : mark ∉ cs) : mark ∉ lowerFirst cs := by
  cases cs with
  | nil => exact h
  | cons c cs =>
    rw [List.mem_cons, not_or] at h
    rw [lowerFirst, List.mem_append, not_or]
    exact ⟨notMem_lowerChar hmark (Ne.symm h.1), h.2⟩

end Control

end SyntaxBridge.Text
