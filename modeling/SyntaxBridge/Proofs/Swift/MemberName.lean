import Mathlib.Data.List.Basic
import SyntaxBridge.Proofs.Text.Cutting
import SyntaxBridge.Swift.Bridge

/-!
# Members of an alternative

The member that holds a part of an alternative is named after the type of the part, with an
underscore behind it and with a number behind that where other parts have the same category. The
name of a type may itself hold underscores and digits, but what is written behind the last
underscore is the number or nothing (`append_underscore_inj`), so the two forms of a member are told
apart, and two parts share a member only if the names of their types differ in nothing but case or
in how a list is spelled (`memberNames_toldApart`).
-/

namespace SyntaxBridge.Swift

/-- Two different categories have types of the same name once this is in lower case. -/
def CalledAlike (a b : String) : Prop :=
  a ≠ b ∧ lower (Category.listName a) = lower (Category.listName b)

/-- The parts `a` and `b`, which stand at two places of an alternative, have the same rank: both are
the only ones of their category, or neither is and as many parts of the category of each stand
before it. -/
def SameRank (construction : List String) (i j : Nat) (a b : String) : Prop :=
  (construction.count a = 1 ∧ construction.count b = 1) ∨
    (1 < construction.count a ∧ 1 < construction.count b ∧
      construction.countBefore a i = construction.countBefore b j)

/-- What the members of an alternative are called. -/
structure MembersToldApart (construction : List String) : Prop where
  /-- A rule that gives the alternative reads its parts from these members. -/
  arguments : ∀ type rule, rule.construction = construction →
    (CaseValue.ofConstructor type rule).arguments.map (·.member) = memberNames construction
  /-- The parts at two places share a member exactly if they are different categories that are
  called alike and have the same rank. -/
  eq_iff : ∀ {i j : Nat} {a b}, i ≠ j → construction[i]? = some a → construction[j]? = some b →
    ((memberNames construction)[i]? = (memberNames construction)[j]? ↔
      CalledAlike a b ∧ SameRank construction i j a b)
  /-- Two parts of one category do not share a member. -/
  ne_of_eq : ∀ {i j : Nat} {a}, i ≠ j → construction[i]? = some a → construction[j]? = some a →
    (memberNames construction)[i]? ≠ (memberNames construction)[j]?
  /-- Where a category has several parts, their members are numbered from one, from left to
  right. -/
  numbered : ∀ a, 1 < construction.count a →
    ((construction.idxsOf a).map fun i => (memberNames construction)[i]?) =
      (List.range (construction.count a)).map fun k =>
        some (lower (Category.listName a) ++ "_" ++ toString (k + 1))

/-! ## Names and marks -/

/-- A text is told from what stands behind its last underscore. -/
theorem append_underscore_inj {a b mark mark' : String} (hmark : '_' ∉ mark.toList)
    (hmark' : '_' ∉ mark'.toList) :
    a ++ "_" ++ mark = b ++ "_" ++ mark' ↔ a = b ∧ mark = mark' := by
  constructor
  · intro heq
    have hlists : a.toList ++ '_' :: mark.toList = b.toList ++ '_' :: mark'.toList := by
      simpa [String.toList_append] using congrArg String.toList heq
    -- If one text were longer, the other's underscore would lie within its mark.
    rcases List.append_eq_append_iff.mp hlists with ⟨rest, hname, hrest⟩ | ⟨rest, hname, hrest⟩
    · cases rest with
      | nil =>
        rw [List.append_nil] at hname
        exact ⟨(String.toList_inj.mp hname).symm, String.toList_inj.mp (List.cons.inj hrest).2⟩
      | cons c rest =>
        rw [(List.cons.inj hrest).2] at hmark
        exact absurd (by simp) hmark
    · cases rest with
      | nil =>
        rw [List.append_nil] at hname
        exact ⟨String.toList_inj.mp hname, (String.toList_inj.mp (List.cons.inj hrest).2).symm⟩
      | cons c rest =>
        rw [(List.cons.inj hrest).2] at hmark'
        exact absurd (by simp) hmark'
  · rintro ⟨rfl, rfl⟩
    rfl

/-- What stands behind the last underscore of a member: nothing for the only part of a category,
else the number of the part. -/
def memberMark (construction : List String) (index : Nat) (part : String) : String :=
  if construction.count part = 1 then ""
  else toString (construction.countBefore part index + 1)

/-- A member is the name of a type in lower case, an underscore and a mark. -/
theorem memberName_eq_append (construction : List String) (index : Nat) (part : String) :
    memberName construction index part =
      lower (Category.listName part) ++ "_" ++ memberMark construction index part := by
  unfold memberName memberMark
  rw [List.countBefore_eq_count_take]
  split
  · rw [String.append_empty]
  · rfl

/-- No underscore stands in a mark. -/
theorem underscore_notMem_memberMark (construction : List String) (index : Nat) (part : String) :
    '_' ∉ (memberMark construction index part).toList := by
  unfold memberMark
  split
  · exact List.not_mem_nil
  · intro hmem
    exact absurd (Text.isDigit_of_mem_toString hmem) (by decide)

variable {construction : List String} {i j : Nat} {a b : String}

/-- Parts have the same mark exactly if they have the same rank. -/
theorem memberMark_eq_iff (ha : a ∈ construction) (hb : b ∈ construction) :
    memberMark construction i a = memberMark construction j b ↔
      SameRank construction i j a b := by
  have hacount : 0 < construction.count a := List.count_pos_iff.mpr ha
  have hbcount : 0 < construction.count b := List.count_pos_iff.mpr hb
  -- A number is never empty, and different numbers are written differently.
  have hempty (n : Nat) : toString n ≠ "" := Nat.repr_ne_empty
  have hnumber (m n : Nat) : toString m = toString n ↔ m = n :=
    ⟨fun h => Text.eq_of_toList_toString_eq (congrArg String.toList h), congrArg toString⟩
  unfold SameRank memberMark
  split_ifs with hone hone' hone'
  · simp [hone, hone']
  · exact iff_of_false (hempty _).symm (by omega)
  · exact iff_of_false (hempty _) (by omega)
  · rw [hnumber]
    omega

/-- Parts have the same member exactly if their types have the same name in lower case and they have
the same rank. -/
theorem memberName_eq_iff (ha : a ∈ construction) (hb : b ∈ construction) :
    memberName construction i a = memberName construction j b ↔
      lower (Category.listName a) = lower (Category.listName b) ∧
        SameRank construction i j a b := by
  rw [memberName_eq_append, memberName_eq_append,
    append_underscore_inj (underscore_notMem_memberMark _ _ _)
      (underscore_notMem_memberMark _ _ _), memberMark_eq_iff ha hb]

/-! ## Places -/

/-- Parts of one category at different places have different ranks. -/
theorem not_sameRank_of_ne (hne : i ≠ j) (hi : construction[i]? = some a)
    (hj : construction[j]? = some a) : ¬SameRank construction i j a a := by
  obtain ⟨hilt, rfl⟩ := List.getElem?_eq_some_iff.mp hi
  obtain ⟨hjlt, heq⟩ := List.getElem?_eq_some_iff.mp hj
  -- A part is found again by how many of its category stand before it.
  have hfind (k : ℕ) (hk : k < construction.length) : construction.idxOfNth construction[k]
      (construction.countBefore construction[k] k) = k := List.idxOfNth_countBefore_getElem
  have hcount (k : ℕ) (hk : k < construction.length) :
      construction.countBefore construction[k] k < construction.count construction[k] :=
    List.countBefore_lt_count_getElem
  have hplaces : construction.countBefore construction[i] i ≠
      construction.countBefore construction[i] j := by
    intro hsame
    have hfound := hfind j hjlt
    rw [heq, ← hsame, hfind i hilt] at hfound
    exact hne hfound
  have hicount := hcount i hilt
  have hjcount := hcount j hjlt
  rw [heq] at hjcount
  rintro (⟨hone, -⟩ | ⟨-, -, hsame⟩)
  · omega
  · exact hplaces hsame

/-- The member at a place is that of the part. -/
theorem getElem?_memberNames (h : construction[i]? = some a) :
    (memberNames construction)[i]? = some (memberName construction i a) := by
  rw [memberNames, List.getElem?_mapIdx, h, Option.map_some]

/-- The places of a category, from left to right, have as many parts of it before them as there are
places to the left. -/
theorem map_countBefore_idxsOf (construction : List String) (a : String) :
    (construction.idxsOf a).map (construction.countBefore a) =
      List.range (construction.count a) := by
  apply List.ext_getElem
  · simp
  · intro k hk hk'
    rw [List.length_range] at hk'
    rw [List.getElem_map, List.getElem_range, List.getElem_idxOf_eq_idxOfNth,
      List.countBefore_idxOfNth_of_lt_count hk']

/-- Two parts of an alternative share a member exactly if they are different categories, their types
are called alike, and both are the only ones of their category or have the same number among
several. -/
theorem memberNames_toldApart (construction : List String) : MembersToldApart construction where
  arguments := by
    rintro type rule rfl
    refine List.ext_getElem ?_ fun i _ _ => ?_
    · simp [CaseValue.ofConstructor, memberNames]
    · simp [CaseValue.ofConstructor]
  eq_iff := by
    intro i j a b hne hi hj
    have ha : a ∈ construction := List.mem_of_getElem? hi
    have hb : b ∈ construction := List.mem_of_getElem? hj
    rw [getElem?_memberNames hi, getElem?_memberNames hj, Option.some_inj,
      memberName_eq_iff ha hb]
    constructor
    · rintro ⟨hname, hrank⟩
      refine ⟨⟨?_, hname⟩, hrank⟩
      rintro rfl
      exact not_sameRank_of_ne hne hi hj hrank
    · rintro ⟨⟨-, hname⟩, hrank⟩
      exact ⟨hname, hrank⟩
  ne_of_eq := by
    intro i j a hne hi hj
    have ha : a ∈ construction := List.mem_of_getElem? hi
    rw [getElem?_memberNames hi, getElem?_memberNames hj, Ne, Option.some_inj,
      memberName_eq_iff ha ha]
    rintro ⟨-, hrank⟩
    exact not_sameRank_of_ne hne hi hj hrank
  numbered := by
    intro a hcount
    have hmember : ∀ i ∈ construction.idxsOf a, (memberNames construction)[i]? =
        some (lower (Category.listName a) ++ "_" ++
          toString (construction.countBefore a i + 1)) := by
      intro i hi
      obtain ⟨hlt, hpart⟩ := List.mem_idxsOf_iff_exists_getElem_pos.mp hi
      have hplace : construction[i]? = some a := by
        rw [List.getElem?_eq_getElem hlt, beq_iff_eq.mp hpart]
      rw [getElem?_memberNames hplace, memberName_eq_append, memberMark, if_neg (by omega)]
    rw [List.map_congr_left hmember, ← map_countBefore_idxsOf, List.map_map]
    rfl

/-- Of four parts, two are called alike, but one of them is numbered. -/
example : memberNames ["Exp", "[Stm]", "Exp", "ListStm"] =
    ["exp_1", "liststm_", "exp_2", "liststm_"] := by
  decide

end SyntaxBridge.Swift
