import SyntaxBridge.Proofs.Duplicates
import SyntaxBridge.Proofs.Outcome
import SyntaxBridge.Record.Equality

/-!
# Sets of values

A set takes values one after the other and leaves out those that it holds already. Whether it does
is first a question of hashes, which are computed from what the values are counted by, and only
among values of one hash a question of whether they are equal.

So a set is only of use if equal values are counted alike. If in addition some label tells values
apart just where they differ, a set has one member for each label (`exists_setOf_eq_ok`).
-/

namespace SyntaxBridge.Record.Value

/-- Whether a member of a set has the hash of a key and is, or equals, a given value. -/
def isFoundAt (hash : Value → Nat) (key value member : Value) : Except RecordError Bool := do
  if hash (← member.countKey) ≠ hash key then return false
  if value.identical member then return true
  member.same value

/-- Add a value to a set, unless the set holds it. -/
def addTo (hash : Value → Nat) (members : List Value) (value : Value) :
    Except RecordError (List Value) := do
  let key ← value.countKey
  if ← members.anyM (isFoundAt hash key value) then return members
  return members ++ [value]

/-- The members of the set of some values, given how hashes are computed. -/
def setOf (hash : Value → Nat) (values : List Value) : Except RecordError (List Value) :=
  values.foldlM (addTo hash) []

/-- Values that are told apart by labels: they can be counted and compared, are equal just if they
have the same label, and are counted alike then. Values that are one object have one label. -/
structure ToldApartBy {ι : Type} (value : ι → Value) (label : ι → String) : Prop where
  countable : ∀ i, ∃ key, (value i).countKey = .ok key
  same_eq : ∀ i j, (value i).same (value j) = .ok (decide (label i = label j))
  countKey_eq : ∀ i j, label i = label j → (value i).countKey = (value j).countKey
  label_eq : ∀ i j, (value i).identical (value j) = true → label i = label j

namespace ToldApartBy

variable {ι : Type} {value : ι → Value} {label : ι → String} (h : ToldApartBy value label)
  (hash : Value → Nat)

include h

/-- A member is found to be a value just if it has the label of the value. -/
theorem isFoundAt_eq (i j : ι) {key : Value} (hkey : (value i).countKey = .ok key) :
    isFoundAt hash key (value i) (value j) = .ok (decide (label i = label j)) := by
  obtain ⟨other, hother⟩ := h.countable j
  rw [isFoundAt, hother]
  by_cases alike : label i = label j
  · -- Equal values are counted alike, so their hashes do not keep them apart.
    have keys : other = key := by
      rw [h.countKey_eq i j alike, hother, Except.ok.injEq] at hkey
      exact hkey
    rw [keys, h.same_eq, decide_eq_true alike, decide_eq_true alike.symm]
    cases (value i).identical (value j) <;> simp [pure, Except.pure, bind, Except.bind]
  · have apart : (value i).identical (value j) = false := by
      rw [Bool.eq_false_iff]
      exact fun one => alike (h.label_eq i j one)
    rw [apart, h.same_eq, decide_eq_false alike, decide_eq_false fun e => alike e.symm]
    by_cases hashes : hash other = hash key <;> simp [hashes, pure, Except.pure, bind, Except.bind]

/-- A value is found in a set just if one of the members has its label. -/
theorem anyM_isFoundAt_eq (members : List ι) (i : ι) {key : Value}
    (hkey : (value i).countKey = .ok key) :
    (members.map value).anyM (isFoundAt hash key (value i)) =
      .ok (decide (label i ∈ members.map label)) := by
  induction members with
  | nil => rfl
  | cons j members ih =>
    rw [List.map_cons, List.anyM, h.isFoundAt_eq hash i j hkey]
    by_cases alike : label i = label j
    · simp [alike, bind, Except.bind, pure, Except.pure]
    · rw [decide_eq_false alike]
      show (members.map value).anyM _ = _
      rw [ih, List.map_cons]
      simp [alike]

/-- A value is added to a set just if its label is new. -/
theorem addTo_eq (members : List ι) (i : ι) :
    addTo hash (members.map value) (value i) =
      .ok ((if label i ∈ members.map label then members else members ++ [i]).map value) := by
  obtain ⟨key, hkey⟩ := h.countable i
  rw [addTo, hkey]
  show ((members.map value).anyM (isFoundAt hash key (value i)) >>= _) = _
  rw [h.anyM_isFoundAt_eq hash members i hkey]
  by_cases known : label i ∈ members.map label
  · rw [if_pos known, decide_eq_true known]
    rfl
  · rw [if_neg known, decide_eq_false known, List.map_append]
    rfl

/-- A set of values has one member for each label. -/
theorem exists_setOf_eq_ok (chosen : List ι) :
    ∃ members : List ι, setOf hash (chosen.map value) = .ok (members.map value) ∧
      members.map label = (chosen.map label).eraseDups := by
  induction chosen using List.reverseRecOn with
  | nil => exact ⟨[], rfl, rfl⟩
  | append_singleton chosen i ih =>
    obtain ⟨members, hmembers, labels⟩ := ih
    refine ⟨if label i ∈ members.map label then members else members ++ [i], ?_, ?_⟩
    · rw [setOf] at hmembers ⊢
      rw [List.map_append, List.foldlM_append, hmembers]
      show ([value i].foldlM (addTo hash) (members.map value)) = _
      rw [List.foldlM_cons, h.addTo_eq hash members i]
      rfl
    · have known : label i ∈ members.map label ↔ label i ∈ chosen.map label := by
        rw [labels, List.mem_eraseDups]
      rw [List.map_append, List.map_singleton, eraseDups_concat, ← labels]
      by_cases old : label i ∈ chosen.map label
      · rw [if_pos old, if_pos (known.mpr old)]
      · rw [if_neg old, if_neg (known.not.mpr old), List.map_append, List.map_singleton]

end ToldApartBy

end SyntaxBridge.Record.Value
