import SyntaxBridge.Proofs.Text.Splitting
import SyntaxBridge.Swift.Indent

/-!
# Braces and depth

The depth behind a sequence of lines is the number of braces that they open less those that they
close (`foldl_depthAfter`). A text is *balanced* if it closes every brace that it opens and none
that it has not opened, so the depth never falls below what it was before a balanced text, and it is
the same behind it.

## Main results

* `Balanced.append`, `Balanced.braces`: texts put together from balanced ones are balanced;
* `Balanced.head?_ne`, `Balanced.getLast?_ne`: a balanced text does not start with a closing brace
  and does not end in an opening one.
-/

namespace SyntaxBridge.Swift

open Text

variable {cs inner a b : List Char}

/-! ## Counting -/

@[simp]
theorem braceChange_nil : braceChange [] = 0 := rfl

@[simp]
theorem braceChange_append (a b : List Char) :
    braceChange (a ++ b) = braceChange a + braceChange b := by
  simp [braceChange]
  omega

@[simp]
theorem braceChange_open (cs : List Char) : braceChange ('\x7b' :: cs) = 1 + braceChange cs := by
  simp [braceChange]
  omega

@[simp]
theorem braceChange_close (cs : List Char) : braceChange ('\x7d' :: cs) = -1 + braceChange cs := by
  simp [braceChange]
  omega

/-- A text without braces opens and closes none. -/
theorem braceChange_of_forall (h : ∀ c ∈ cs, c ≠ '\x7b' ∧ c ≠ '\x7d') : braceChange cs = 0 := by
  have hopen : cs.count '\x7b' = 0 := List.count_eq_zero.mpr fun hmem => (h _ hmem).1 rfl
  have hclose : cs.count '\x7d' = 0 := List.count_eq_zero.mpr fun hmem => (h _ hmem).2 rfl
  rw [braceChange, hopen, hclose]
  rfl

/-- No brace is white space. -/
theorem braceChange_of_allBlank (h : allBlank cs = true) : braceChange cs = 0 := by
  refine braceChange_of_forall fun c hc => ?_
  have hblank : isBlank c = true := List.all_eq_true.mp h c hc
  constructor
  · rintro rfl
    exact absurd hblank (by decide)
  · rintro rfl
    exact absurd hblank (by decide)

/-- Trimming drops no brace. -/
@[simp]
theorem braceChange_trim (cs : List Char) : braceChange (trim cs) = braceChange cs := by
  obtain ⟨before, after, hbefore, hafter, heq⟩ := exists_eq_append_trim cs
  calc braceChange (trim cs)
      = braceChange before + braceChange (trim cs) + braceChange after := by
        rw [braceChange_of_allBlank hbefore, braceChange_of_allBlank hafter]
        omega
    _ = braceChange cs := by rw [← braceChange_append, ← braceChange_append, ← heq]

/-- The depth behind lines is the one before them, changed by all of their braces. -/
theorem foldl_depthAfter (depth : Int) (lines : List (List Char)) :
    lines.foldl depthAfter depth = depth + braceChange lines.flatten := by
  induction lines generalizing depth with
  | nil => simp
  | cons line lines ih =>
    rw [List.foldl_cons, ih, depthAfter, braceChange_trim, List.flatten_cons, braceChange_append,
      Int.add_assoc]

/-! ## Balanced texts -/

/-- A text closes every brace that it opens, and none that it has not opened before. -/
structure Balanced (cs : List Char) : Prop where
  nonneg : ∀ front, front <+: cs → 0 ≤ braceChange front
  braceChange_eq : braceChange cs = 0

/-- A text without braces is balanced. -/
theorem balanced_of_forall (h : ∀ c ∈ cs, c ≠ '\x7b' ∧ c ≠ '\x7d') : Balanced cs where
  nonneg _ hfront :=
    Int.le_of_eq (braceChange_of_forall fun c hc => h c (hfront.subset hc)).symm
  braceChange_eq := braceChange_of_forall h

/-- What starts two texts put together starts the first one, or goes beyond it. -/
theorem prefix_append_iff {front : List Char} :
    front <+: a ++ b ↔ front <+: a ∨ ∃ rest, rest <+: b ∧ front = a ++ rest := by
  constructor
  · rintro ⟨back, h⟩
    rcases List.append_eq_append_iff.mp h with ⟨rest, ha, -⟩ | ⟨rest, hfront, hb⟩
    · exact .inl ⟨rest, ha.symm⟩
    · exact .inr ⟨rest, ⟨back, hb.symm⟩, hfront⟩
  · rintro (h | ⟨rest, h, rfl⟩)
    · exact h.trans (List.prefix_append a b)
    · exact (List.prefix_append_right_inj a).mpr h

/-- Balanced texts put together are balanced. -/
theorem Balanced.append (ha : Balanced a) (hb : Balanced b) : Balanced (a ++ b) where
  nonneg front hfront := by
    rcases prefix_append_iff.mp hfront with h | ⟨rest, h, rfl⟩
    · exact ha.nonneg front h
    · rw [braceChange_append, ha.braceChange_eq, Int.zero_add]
      exact hb.nonneg rest h
  braceChange_eq := by rw [braceChange_append, ha.braceChange_eq, hb.braceChange_eq]; rfl

/-- A balanced text between braces is balanced. -/
theorem Balanced.braces (h : Balanced inner) : Balanced ('\x7b' :: (inner ++ ['\x7d'])) where
  nonneg front hfront := by
    -- Behind the first brace one more is open until the last one closes it.
    rcases List.prefix_cons_iff.mp hfront with rfl | ⟨rest, rfl, hrest⟩
    · exact Int.le_refl 0
    rw [braceChange_open]
    rcases prefix_append_iff.mp hrest with hrest | ⟨last, hlast, rfl⟩
    · have := h.nonneg rest hrest
      omega
    · rcases List.prefix_cons_iff.mp hlast with rfl | ⟨beyond, rfl, hbeyond⟩
      · simp [h.braceChange_eq]
      · simp [h.braceChange_eq, List.prefix_nil.mp hbeyond]
  braceChange_eq := by simp [h.braceChange_eq]

/-- A balanced text is balanced without the white space around it, too. -/
theorem Balanced.trim (h : Balanced cs) : Balanced (trim cs) where
  nonneg front hfront := by
    obtain ⟨back, hback⟩ := hfront
    obtain ⟨before, after, hbefore, -, heq⟩ := exists_eq_append_trim cs
    have hlonger := h.nonneg (before ++ front) ⟨back ++ after, by rw [heq, ← hback]; simp⟩
    rwa [braceChange_append, braceChange_of_allBlank hbefore, Int.zero_add] at hlonger
  braceChange_eq := by rw [braceChange_trim, h.braceChange_eq]

/-- A balanced text does not start with a closing brace. -/
theorem Balanced.head?_ne (h : Balanced cs) : cs.head? ≠ some '\x7d' := by
  intro hhead
  obtain ⟨rest, rfl⟩ := List.head?_eq_some_iff.mp hhead
  exact absurd (h.nonneg ['\x7d'] ⟨rest, rfl⟩) (by decide)

/-- A balanced text does not end in an opening brace. -/
theorem Balanced.getLast?_ne (h : Balanced cs) : cs.getLast? ≠ some '\x7b' := by
  intro hlast
  obtain ⟨front, rfl⟩ := List.getLast?_eq_some_iff.mp hlast
  have hfront := h.nonneg front ⟨_, rfl⟩
  have htotal := h.braceChange_eq
  rw [braceChange_append, braceChange_open, braceChange_nil] at htotal
  omega

end SyntaxBridge.Swift
