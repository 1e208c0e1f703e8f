import Mathlib.Data.List.Basic
import SyntaxBridge.Proofs.Grammar.Description
import SyntaxBridge.Proofs.Record.Counted
import SyntaxBridge.Proofs.Record.RuleType

/-!
# Comparing, counting and showing rules

The records of rules are compared, counted and shown by what their types do for all records. For
rules the three agree: `methodsAgree` says that equality is an equivalence that pays no heed to
lines, that equal rules have one hash, and that rules are equal just if they are shown alike. So a
set of rules has one member for each text that they are shown as.

A part of a rule is a name or a list of names. What each method does with a part
(`Part.sameWithin_value`, `Part.countKeyWithin_value`, `Part.describeWithin_value`) makes up what it
does with a record (`same_record`, `countKey_record`, `describe_record`).
-/

namespace SyntaxBridge.Rule

open Record Value Outcome

/-! ## Parts -/

section Part

variable (left : Nat) (p q : Part)

/-- A part is counted by itself. -/
theorem Part.countKeyWithin_value : p.value.countKeyWithin (left + 2) = .ok p.value := by
  cases p with
  | single name => rfl
  | several names =>
    have texts : (names.map Value.text).mapM (countKeyWithin (left + 1)) =
        .ok (names.map Value.text) := by
      rw [mapM_eq_ok_iff, List.forall₂_same]
      intro value hvalue
      obtain ⟨name, -, rfl⟩ := List.mem_map.mp hvalue
      rfl
    exact bind_eq_ok_iff.mpr ⟨_, texts, rfl⟩

/-- A tuple of names is shown the way that a rule shows them. -/
theorem showTuple_map_quoted (names : List String) :
    showTuple (names.map Text.quoted) = showNames names := by
  match names with
  | [] | [_] | _ :: _ :: _ => rfl

theorem Part.describeWithin_value : p.value.describeWithin (left + 2) = .ok p.shown := by
  cases p with
  | single name => rfl
  | several names =>
    have texts : (names.map Value.text).mapM (describeWithin (left + 1)) =
        .ok (names.map Text.quoted) := by
      rw [mapM_eq_ok_iff, List.forall₂_map_left_iff, List.forall₂_map_right_iff, List.forall₂_same]
      intro name _
      rfl
    refine bind_eq_ok_iff.mpr ⟨_, texts, ?_⟩
    rw [showTuple_map_quoted]
    rfl

theorem Part.eq_of_identical (h : p.value.identical q.value = true) : p = q := by
  cases p with
  | single name =>
    cases q with
    | single other =>
      obtain ⟨rfl, -⟩ : name = other ∧ isSharedText name = true := by
        simpa [Part.value, identical] using h
      rfl
    | several others => cases h
  | several names =>
    cases q with
    | single other => simp [Part.value, identical] at h
    | several others =>
      cases names <;> cases others <;> simp [Part.value, identical] at h
      rfl

/-- It makes no difference that one and the same object is not compared with itself, as long as it
would be found equal. -/
theorem allSame_cons_eq {same : Value → Value → Except RecordError Bool} {a b : Value}
    {as bs : List Value} {outcome : Bool} (hsame : same a b = .ok outcome)
    (hone : a.identical b = true → outcome = true) :
    allSame same (a :: as) (b :: bs) = if outcome then allSame same as bs else .ok false := by
  rw [allSame, hsame]
  cases outcome with
  | true => split <;> rfl
  | false =>
    rw [if_neg fun one => Bool.false_ne_true (hone one)]
    rfl

/-- Texts agree one by one if they are equal as far as both lists go. -/
theorem allSame_map_text (xs ys : List String) :
    allSame (sameWithin (left + 1)) (xs.map .text) (ys.map .text) =
      .ok ((xs.zip ys).all fun pair => pair.1 == pair.2) := by
  induction xs generalizing ys with
  | nil => rfl
  | cons x xs ih =>
    cases ys with
    | nil => rfl
    | cons y ys =>
      have first : sameWithin (left + 1) (.text x) (.text y) = .ok (x == y) := rfl
      have one : (Value.text x).identical (.text y) = true → (x == y) = true := fun h =>
        beq_iff_eq.mpr (Part.single.inj (Part.eq_of_identical (.single x) (.single y) h))
      rw [List.map_cons, List.map_cons, allSame_cons_eq first one, ih, List.zip_cons_cons,
        List.all_cons]
      cases x == y <;> rfl

/-- Lists are equal if they agree one by one and neither is longer. -/
theorem zip_all_and_length_eq (xs ys : List String) :
    (((xs.zip ys).all fun pair => pair.1 == pair.2) && xs.length == ys.length) =
      decide (xs = ys) := by
  induction xs generalizing ys with
  | nil => cases ys <;> simp
  | cons x xs ih =>
    cases ys with
    | nil => simp
    | cons y ys =>
      have rest := ih ys
      simp only [List.zip_cons_cons, List.all_cons, List.length_cons, Bool.and_assoc]
      by_cases same : x = y <;> simp_all

theorem Part.sameWithin_value :
    sameWithin (left + 2) p.value q.value = .ok (decide (p = q)) := by
  cases p with
  | single name =>
    cases q with
    | single other =>
      show Except.ok (name == other) = _
      rw [beq_eq_decide]
      simp
    | several others => rfl
  | several names =>
    cases q with
    | single other => rfl
    | several others =>
      refine bind_eq_ok_iff.mpr ⟨_, allSame_map_text left names others, ?_⟩
      rw [List.length_map, List.length_map, zip_all_and_length_eq]
      simp [pure, Except.pure]

/-- Parts agree one by one if they are equal. -/
theorem allSame_map_value {ps qs : List Part} (h : ps.length = qs.length) :
    allSame (sameWithin (left + 2)) (ps.map Part.value) (qs.map Part.value) =
      .ok (decide (ps = qs)) := by
  induction ps generalizing qs with
  | nil =>
    obtain rfl := List.eq_nil_of_length_eq_zero h.symm
    rfl
  | cons p ps ih =>
    cases qs with
    | nil => cases h
    | cons q qs =>
      have one (h : p.value.identical q.value = true) : decide (p = q) = true :=
        decide_eq_true (p.eq_of_identical q h)
      rw [List.map_cons, List.map_cons, allSame_cons_eq (p.sameWithin_value left q) one,
        ih (Nat.succ.inj h)]
      by_cases same : p = q <;> simp [same]

end Part

/-! ## Rules -/

variable (home : Home) (serial : Nat) (rule : Rule)

/-- A rule tells its type. -/
theorem read_typeFieldName :
    (rule.record home serial).read typeFieldName = .ok (rule.recordType home).value := by
  cases rule <;> rfl

/-- The fields that are compared hold the parts, and the line is not among them. -/
theorem read_comparedKeys :
    List.Forall₂ (fun key (part : Part) => (rule.record home serial).read key = .ok part.value)
      (rule.recordType home).comparedKeys rule.parts := by
  have label : nameOf "label" = "label" := by decide +kernel
  have type : nameOf "type" = "type" := by decide +kernel
  have construction : nameOf "construction" = "construction" := by decide +kernel
  have types : nameOf "types" = "types" := by decide +kernel
  cases rule with
  | constructor rule =>
    show List.Forall₂ _ [nameOf "label", nameOf "type", nameOf "construction"] _
    rw [label, type, construction]
    exact .cons rfl (.cons rfl (.cons rfl .nil))
  | token rule =>
    show List.Forall₂ _ [nameOf "type"] _
    rw [type]
    exact .cons rfl .nil
  | entrypoint rule =>
    show List.Forall₂ _ [nameOf "types"] _
    rw [types]
    exact .cons rfl .nil

theorem readCompared_record :
    (rule.recordType home).readCompared (rule.record home serial) =
      .ok (rule.parts.map Part.value) := by
  rw [RecordType.readCompared, mapM_eq_ok_iff, List.forall₂_map_right_iff]
  exact rule.read_comparedKeys home serial

/-- A rule is counted by its type and its parts. -/
theorem countKey_record :
    (rule.record home serial).countKey =
      .ok (.tuple ((rule.recordType home).value :: rule.parts.map Part.value)) := by
  have counted : countedBy (rule.recordType home) (rule.record home serial) =
      .ok ((rule.recordType home).value :: rule.parts.map Part.value) := by
    rw [countedBy, read_typeFieldName, readCompared_record]
    rfl
  have keys : ((rule.recordType home).value :: rule.parts.map Part.value).mapM
      (countKeyWithin 999) = .ok ((rule.recordType home).value :: rule.parts.map Part.value) := by
    rw [mapM_eq_ok_iff, List.forall₂_same]
    intro value hvalue
    rcases List.mem_cons.mp hvalue with rfl | hvalue
    · rfl
    · obtain ⟨part, -, rfl⟩ := List.mem_map.mp hvalue
      exact part.countKeyWithin_value 997
  exact bind_eq_ok_iff.mpr ⟨_, counted, bind_eq_ok_iff.mpr ⟨_, keys, rfl⟩⟩

/-- A rule is shown as the name of its type and its parts. -/
theorem describe_eq : rule.describe =
    (rule.recordType home).name ++ "(" ++ ", ".intercalate (rule.parts.map Part.shown) ++ ")" := by
  cases rule <;>
    simp [describe_constructor, describe_token, describe_entrypoint, recordType, constructorType,
      tokenType, entrypointType, parts, Part.shown, String.append_assoc]

/-- A record is shown the way that its rule is. -/
theorem describe_record : (rule.record home serial).describe = .ok rule.describe := by
  have name : readTypeName (rule.recordType home) serial
      (rule.parts.map Part.value ++ [rule.line.value]) = .ok (.text (rule.recordType home).name) :=
    bind_eq_ok_iff.mpr ⟨_, rule.read_typeFieldName home serial, rfl⟩
  have fields : ((rule.recordType home).comparedKeys.mapM fun key => do
      describeWithin 999 (← (rule.record home serial).read key)) =
        .ok (rule.parts.map Part.shown) := by
    rw [mapM_eq_ok_iff, List.forall₂_map_right_iff]
    refine (rule.read_comparedKeys home serial).imp fun key part hread => ?_
    exact bind_eq_ok_iff.mpr ⟨_, hread, part.describeWithin_value 997⟩
  refine bind_eq_ok_iff.mpr ⟨_, name, bind_eq_ok_iff.mpr ⟨(rule.recordType home).name, rfl, ?_⟩⟩
  refine bind_eq_ok_iff.mpr ⟨_, fields, ?_⟩
  rw [describe_eq home]
  rfl

/-- Rules are the same if they are of one type and have the same parts. -/
theorem same_eq (a b : Rule) :
    a.same b = decide (a.recordType home = b.recordType home ∧ a.parts = b.parts) := by
  rw [same, beq_eq_decide, decide_eq_decide]
  cases a <;> cases b <;>
    simp [withoutLine, recordType, constructorType, tokenType, entrypointType, parts]

/-- Two records of rules are equal if the rules are the same. Records made after equally many
others are one object, so they have to be of one rule. -/
theorem same_record {a b : Rule} {i j : Nat} (h : i = j → a = b) :
    (a.record home i).same (b.record home j) = .ok (a.same b) := by
  have unfolded : (a.record home i).same (b.record home j) =
      sameRecords (sameWithin 999) (a.record home i) (a.recordType home) (b.record home j)
        (i == j) := by
    cases a <;> cases b <;> rfl
  rw [unfolded, sameRecords, same_eq home]
  refine bind_eq_ok_iff.mpr ⟨_, a.read_typeFieldName home i, ?_⟩
  refine bind_eq_ok_iff.mpr ⟨_, b.read_typeFieldName home j, ?_⟩
  by_cases types : a.recordType home = b.recordType home
  · have one : (a.recordType home).value.identical (b.recordType home).value = true := by
      rw [types]
      exact beq_self_eq_true _
    rw [one, Bool.or_true, if_pos rfl]
    refine bind_eq_ok_iff.mpr ⟨_, a.readCompared_record home i, ?_⟩
    rw [types]
    refine bind_eq_ok_iff.mpr ⟨_, b.readCompared_record home j, ?_⟩
    by_cases object : i = j
    · rw [if_pos (beq_iff_eq.mpr object), h object]
      simp [pure, Except.pure]
    · have lengths : a.parts.length = b.parts.length := by
        have serials := congrArg RecordType.serial types
        cases a <;> cases b <;>
          first | rfl | simp [recordType, constructorType, tokenType, entrypointType] at serials
      rw [if_neg (by simpa using object), allSame_map_value 997 lengths]
      simp
  · -- Records of different types are different objects.
    have apart : (a.recordType home).value.identical (b.recordType home).value = false := by
      cases a <;> cases b <;> first | rfl | exact absurd rfl types
    have object : i ≠ j := fun e => types (congrArg (recordType home) (h e))
    rw [apart, beq_eq_false_iff_ne.mpr object, decide_eq_false fun e => types e.1]
    rfl

/-! ## Many rules -/

section Made

variable (made : List Rule)

/-- The record of one of the rules that were made one after the other. -/
def recordAt (i : Fin made.length) : Value :=
  made[i].record home i

theorem recordAt_same (i j : Fin made.length) :
    (recordAt home made i).same (recordAt home made j) = .ok (made[i].same made[j]) :=
  same_record home fun e => by simp [Fin.ext e]

theorem recordAt_describe (i : Fin made.length) :
    (recordAt home made i).describe = .ok made[i].describe :=
  made[i].describe_record home i

/-- The records of rules are told apart by what they are shown as. -/
theorem toldApartBy_describe :
    ToldApartBy (recordAt home made) fun i => made[i].describe where
  countable i := ⟨_, made[i].countKey_record home i⟩
  same_eq i j := by
    rw [recordAt_same, Except.ok.injEq, Bool.eq_iff_iff, decide_eq_true_iff, describe_eq_iff]
  countKey_eq i j h := by
    have same := (describe_eq_iff made[i] made[j]).mp h
    rw [same_eq home, decide_eq_true_iff] at same
    rw [recordAt, recordAt, countKey_record, countKey_record, same.1, same.2]
  label_eq i j h := by
    have one : i = j := Fin.ext (beq_iff_eq.mp h)
    rw [one]

/-- Equality, counting and showing of the records of rules agree, whatever rules were made. -/
structure MethodsAgree : Prop where
  /-- The types of the rules have the fields that their schemas declare. -/
  readDeclaration_eq : ∀ i : Fin made.length,
    readDeclaration [] (made[i].recordType home).schema = .ok (made[i].recordType home).fields
  /-- The records are made of the parts and the lines of the rules. -/
  make_eq : ∀ i : Fin made.length,
    (made[i].recordType home).make (recordTypes home) made[i].arguments i =
      .ok (recordAt home made i)
  /-- Equality never fails and pays no heed to lines. -/
  same_eq : ∀ i j, (recordAt home made i).same (recordAt home made j) =
    .ok (decide (made[i].withoutLine = made[j].withoutLine))
  /-- Equality is an equivalence. -/
  equivalence : Equivalence fun i j =>
    (recordAt home made i).same (recordAt home made j) = .ok true
  /-- Equal rules are counted by the same key, so they have the same hash. -/
  exists_countKey_eq : ∀ i j, (recordAt home made i).same (recordAt home made j) = .ok true →
    ∃ key, (recordAt home made i).countKey = .ok key ∧ (recordAt home made j).countKey = .ok key
  /-- Any rule can be shown. -/
  describe_eq : ∀ i, (recordAt home made i).describe = .ok made[i].describe
  /-- Rules are equal just if they are shown alike. -/
  same_iff_describe_eq : ∀ i j, (recordAt home made i).same (recordAt home made j) = .ok true ↔
    (recordAt home made i).describe = (recordAt home made j).describe
  /-- The set of any of the rules has as many members as there are texts that they are shown as,
  however hashes are computed. -/
  exists_setOf_eq : ∀ (hash : Value → Nat) (chosen : List (Fin made.length)),
    ∃ members texts, setOf hash (chosen.map (recordAt home made)) = .ok members ∧
      (chosen.map (recordAt home made)).mapM Value.describe = .ok texts ∧
      members.length = texts.eraseDups.length ∧
      members.length = countDistinct (chosen.map fun i => made[i])

/-- There are as many different rules as there are texts that they are shown as. -/
theorem countDistinct_eq (rules : List Rule) :
    countDistinct rules = (rules.map describe).eraseDups.length := by
  refine length_eraseDups_map_eq (fun a b => ?_) rules
  rw [describe_eq_iff, same, beq_iff_eq]

/-- The records of any rules agree in all that their types do. -/
theorem methodsAgree : MethodsAgree home made where
  readDeclaration_eq i := made[i].readDeclaration_schema home
  make_eq i := made[i].make_eq_ok home (typeNamed?_recordTypes home) i
  same_eq i j := recordAt_same home made i j
  equivalence := by
    simp only [recordAt_same, Except.ok.injEq, same, beq_iff_eq]
    exact ⟨fun _ => rfl, Eq.symm, Eq.trans⟩
  exists_countKey_eq i j h := by
    have alike := h
    rw [recordAt_same, Except.ok.injEq, ← describe_eq_iff] at alike
    obtain ⟨key, hkey⟩ := (toldApartBy_describe home made).countable i
    exact ⟨key, hkey, (toldApartBy_describe home made).countKey_eq i j alike ▸ hkey⟩
  describe_eq := recordAt_describe home made
  same_iff_describe_eq i j := by
    rw [recordAt_same, recordAt_describe, recordAt_describe, Except.ok.injEq, Except.ok.injEq,
      describe_eq_iff]
  exists_setOf_eq hash chosen := by
    obtain ⟨members, hset, labels⟩ :=
      (toldApartBy_describe home made).exists_setOf_eq_ok hash chosen
    have texts : (chosen.map (recordAt home made)).mapM Value.describe =
        .ok (chosen.map fun i => made[i].describe) := by
      rw [mapM_eq_ok_iff, List.forall₂_map_left_iff, List.forall₂_map_right_iff, List.forall₂_same]
      intro i _
      exact recordAt_describe home made i
    have size : (members.map (recordAt home made)).length =
        (chosen.map fun i => made[i].describe).eraseDups.length := by
      rw [← labels, List.length_map, List.length_map]
    refine ⟨_, _, hset, texts, size, ?_⟩
    rw [size, countDistinct_eq, List.map_map]
    rfl

end Made

end SyntaxBridge.Rule
