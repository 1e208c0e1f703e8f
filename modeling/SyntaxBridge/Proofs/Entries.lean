import Mathlib.Data.List.Basic

/-!
# Entries by key

Values are kept by key in lists of entries, of which the first one of a key counts. What is found
under a key once entries are put in front (`lookup_cons_of_ne`), get other values (`lookup_map`) or
are left out (`lookup_filter`).
-/

namespace SyntaxBridge

variable {κ ν ν' : Type} [BEq κ] [LawfulBEq κ]

/-- An entry is passed over by whoever looks for another key. -/
theorem lookup_cons_of_ne {key other : κ} (h : key ≠ other) (value : ν)
    (entries : List (κ × ν)) : ((other, value) :: entries).lookup key = entries.lookup key := by
  rw [List.lookup_cons, beq_eq_false_iff_ne.mpr h]

/-- Entries are found under the same keys when their values change. -/
theorem lookup_map (f : κ → ν → ν') (entries : List (κ × ν)) (key : κ) :
    (entries.map fun entry => (entry.1, f entry.1 entry.2)).lookup key =
      (entries.lookup key).map (f key) := by
  induction entries with
  | nil => rfl
  | cons entry entries ih =>
    obtain ⟨other, value⟩ := entry
    rw [List.map_cons]
    by_cases h : key = other
    · rw [h, List.lookup_cons_self, List.lookup_cons_self, Option.map_some]
    · rw [lookup_cons_of_ne h, lookup_cons_of_ne h, ih]

/-- Leaving out all entries of some keys leaves the others alone. -/
theorem lookup_filter (keep : κ → Bool) (entries : List (κ × ν)) (key : κ) :
    (entries.filter fun entry => keep entry.1).lookup key =
      if keep key then entries.lookup key else none := by
  induction entries with
  | nil => exact (ite_self none).symm
  | cons entry entries ih =>
    obtain ⟨other, value⟩ := entry
    by_cases h : key = other
    · subst h
      cases hkeep : keep key <;> simp [hkeep, ih]
    · rw [lookup_cons_of_ne h, List.filter_cons]
      split
      next => rw [lookup_cons_of_ne h, ih]
      next => exact ih

end SyntaxBridge
