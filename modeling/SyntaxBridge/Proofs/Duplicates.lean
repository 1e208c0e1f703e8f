import Mathlib.Data.List.Induction
import Mathlib.Data.List.Nodup

/-!
# Duplicates in lists

How many different entries a list has, as the number of entries that are left without duplicates.
-/

namespace SyntaxBridge

variable {α β γ : Type}

/-- An entry at the end is dropped as a duplicate just if it occurs before. -/
theorem eraseDups_concat [DecidableEq α] (as : List α) (a : α) :
    (as ++ [a]).eraseDups = if a ∈ as then as.eraseDups else as.eraseDups ++ [a] := by
  rw [List.eraseDups_append]
  by_cases h : a ∈ as
  · simp [List.removeAll, h]
  · simp [List.removeAll, h, List.eraseDups_cons]

/-- What is put behind a list that holds it is dropped as a duplicate. -/
theorem eraseDups_append_of_subset [DecidableEq α] {as bs : List α} (h : bs ⊆ as) :
    (as ++ bs).eraseDups = as.eraseDups := by
  have hnone : bs.removeAll as = [] :=
    List.filter_eq_nil_iff.mpr fun b hb => by simpa using h hb
  rw [List.eraseDups_append, hnone, List.eraseDups_nil, List.append_nil]

/-- No entry stands twice in a list without duplicates. -/
theorem nodup_eraseDups [DecidableEq α] (as : List α) : as.eraseDups.Nodup := by
  induction as using List.reverseRecOn with
  | nil => exact List.nodup_nil
  | append_singleton as a ih =>
    rw [eraseDups_concat]
    by_cases occurs : a ∈ as
    · rwa [if_pos occurs]
    · rw [if_neg occurs, ← List.concat_eq_append]
      exact ih.concat (List.mem_eraseDups.not.mpr occurs)

theorem length_eraseDups_le [DecidableEq α] (as : List α) : as.eraseDups.length ≤ as.length := by
  induction as using List.reverseRecOn with
  | nil => exact Nat.le_refl 0
  | append_singleton as a ih =>
    rw [eraseDups_concat, List.length_append, List.length_singleton]
    split
    · exact Nat.le_succ_of_le ih
    · simpa using ih

/-- A list that nothing is dropped from has no duplicates. -/
theorem nodup_of_length_eraseDups_eq [DecidableEq α] {as : List α}
    (h : as.eraseDups.length = as.length) :
    as.Nodup := by
  induction as using List.reverseRecOn with
  | nil => exact List.nodup_nil
  | append_singleton as a ih =>
    rw [eraseDups_concat, List.length_append, List.length_singleton] at h
    by_cases occurs : a ∈ as
    · have := length_eraseDups_le as
      rw [if_pos occurs] at h
      omega
    · rw [if_neg occurs, List.length_append, List.length_singleton] at h
      rw [List.nodup_append]
      refine ⟨ih (Nat.succ.inj h), List.nodup_singleton a, ?_⟩
      rintro b hb c hc rfl
      exact occurs (List.mem_singleton.mp hc ▸ hb)

/-- The number of different images depends only on which entries have the same image. -/
theorem length_eraseDups_map_eq [DecidableEq β] [DecidableEq γ] {f : α → β} {g : α → γ}
    (h : ∀ a b, f a = f b ↔ g a = g b) (as : List α) :
    (as.map f).eraseDups.length = (as.map g).eraseDups.length := by
  induction as using List.reverseRecOn with
  | nil => rfl
  | append_singleton as a ih =>
    have occurs : f a ∈ as.map f ↔ g a ∈ as.map g := by
      rw [List.mem_map, List.mem_map]
      exact exists_congr fun b => and_congr_right fun _ => h b a
    rw [List.map_append, List.map_append, List.map_singleton, List.map_singleton, eraseDups_concat,
      eraseDups_concat]
    by_cases old : f a ∈ as.map f
    · rw [if_pos old, if_pos (occurs.mp old), ih]
    · rw [if_neg old, if_neg (occurs.not.mp old), List.length_append, List.length_append, ih]
      rfl

end SyntaxBridge
