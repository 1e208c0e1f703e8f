import Mathlib.Data.String.Basic
import SyntaxBridge.Grammar.Order
import SyntaxBridge.Proofs.Duplicates

/-!
# Names in strict order

`ordered` lists its names in strictly increasing order (`pairwise_ordered`). Among entries that have
different names, a name picks out one (`filter_name_eq_singleton`).
-/

namespace SyntaxBridge

/-- Sorting names keeps them. -/
theorem ordered_perm (names : List String) : (ordered names).Perm names.eraseDups :=
  List.mergeSort_perm _ _

/-- Names in order are listed once each. -/
theorem nodup_ordered (names : List String) : (ordered names).Nodup :=
  (ordered_perm names).nodup_iff.mpr (nodup_eraseDups names)

/-- Names in order increase strictly. -/
theorem pairwise_ordered (names : List String) : (ordered names).Pairwise (· < ·) := by
  have hle : (ordered names).Pairwise fun a b => decide (a ≤ b) = true := by
    refine List.pairwise_mergeSort (fun a b c hab hbc => ?_) (fun a b => ?_) _
    · exact decide_eq_true (le_trans (of_decide_eq_true hab) (of_decide_eq_true hbc))
    · simpa using le_total a b
  -- Sorting gives a weak order, and it is strict because no name is repeated.
  refine (hle.and (nodup_ordered names)).imp fun {a b} h => ?_
  exact lt_of_le_of_ne (of_decide_eq_true h.1) h.2

/-- Names in order are determined by what names there are. -/
theorem ordered_congr {names names' : List String} (h : ∀ name, name ∈ names ↔ name ∈ names') :
    ordered names = ordered names' := by
  have hperm : (ordered names).Perm (ordered names') :=
    (List.perm_ext_iff_of_nodup (nodup_ordered names) (nodup_ordered names')).mpr fun name => by
      rw [mem_ordered, mem_ordered, h]
  exact hperm.eq_of_pairwise (fun _ _ _ _ hlt hgt => absurd hgt (lt_asymm hlt))
    (pairwise_ordered names) (pairwise_ordered names')

/-- Among entries with different names, a name picks out one. -/
theorem filter_name_eq_singleton {α : Type} {name : α → String} {entries : List α}
    (hnodup : (entries.map name).Nodup) {entry : α} (h : entry ∈ entries) :
    entries.filter (name · == name entry) = [entry] := by
  induction entries with
  | nil => cases h
  | cons first entries ih =>
    rw [List.map_cons, List.nodup_cons] at hnodup
    rcases List.mem_cons.mp h with rfl | h
    · rw [List.filter_cons_of_pos (by simp), List.filter_eq_nil_iff.mpr]
      intro other hother heq
      exact hnodup.1 (List.mem_map.mpr ⟨other, hother, beq_iff_eq.mp heq⟩)
    · rw [List.filter_cons_of_neg, ih hnodup.2 h]
      intro heq
      exact hnodup.1 (List.mem_map.mpr ⟨entry, h, (beq_iff_eq.mp heq).symm⟩)

end SyntaxBridge
