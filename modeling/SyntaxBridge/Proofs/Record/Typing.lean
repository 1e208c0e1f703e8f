import SyntaxBridge.Proofs.Entries
import SyntaxBridge.Proofs.Outcome
import SyntaxBridge.Proofs.Text.Compatible
import SyntaxBridge.Record.Check

/-!
# Types of values

A value is of the type that a field declares if it is of what the word of the type stands for, or,
for a list, if it is a tuple of values that are of the type of the elements. A value that passes the
check of a record has the declared type, as long as the word of the type is not hidden by something
that is at hand during the check.
-/

namespace SyntaxBridge.Record

open Text Outcome

/-! ## What it is to be of a type -/

/-- A value is of what a name stands for: of the newest type of records of that name, or else of the
ground type of that name. -/
inductive IsOf (types : List RecordType) (name : String) (value : Value) : Prop
  | record {type : RecordType} (htype : typeNamed? types name = some type)
      (hvalue : value.isRecordOf type.serial = true)
  | ground {type : GroundType} (hnone : typeNamed? types name = none)
      (htype : GroundType.ofName? name = some type) (hvalue : type.holds value = true)

/-- A value is of the type of a field. -/
inductive HasType (types : List RecordType) : FieldType → Value → Prop
  | named {word name : String} {value : Value}
      (hword : TypeWord.read? (Check.basicWord word) = some (.named name))
      (hvalue : IsOf types name value) : HasType types (.named word) value
  | list {element : FieldType} {items : List Value}
      (hitems : ∀ item ∈ items, HasType types element item) :
      HasType types (.list element) (.tuple items)

/-- The basic types are known under the names that are looked up for them. -/
theorem read?_string : TypeWord.read? (Check.basicWord "string") = some (.named "str") := by
  decide +kernel

theorem read?_int : TypeWord.read? (Check.basicWord "int") = some (.named "int") := by
  decide +kernel

/-! ## Scopes -/

section Scope

variable {scope : Scope} {name key : String} {value : Value}

theorem Scope.lookup_set_self : (scope.set name value).lookup name = some value :=
  List.lookup_cons_self

theorem Scope.lookup_set_of_ne (h : key ≠ name) :
    (scope.set name value).lookup key = scope.lookup key :=
  lookup_cons_of_ne h value scope

theorem Scope.get_of_lookup (h : scope.lookup name = some value) : scope.get name = value := by
  rw [Scope.get, h, Option.getD_some]

end Scope

/-- The name of an item starts with an underscore. -/
theorem underscore_of_mem_itemNames {name key : String} {type : FieldType}
    (h : key ∈ itemNames name type) : ∃ rest, key.toList = '_' :: rest := by
  induction type generalizing name with
  | named word => cases h
  | list element ih =>
    rcases List.mem_cons.mp h with rfl | h
    · rw [nameOf, String.toList_ofList, String.toList_append]
      exact exists_compatibleForm_underscore name.toList
    · exact ih h

/-- So it is never the name by which lists are frozen. -/
theorem tuple_notMem_itemNames (name : String) (type : FieldType) :
    "tuple" ∉ itemNames name type := by
  intro h
  obtain ⟨rest, hrest⟩ := underscore_of_mem_itemNames h
  simp at hrest

/-! ## The record that is yet to be made -/

section Self

variable (type : RecordType) (serial : Nat)

/-- A record without values holds none for any field. -/
theorem slot_nil (name : String) : type.slot [] name = .error (.noField type.name name) := by
  simp [RecordType.slot]

/-- A record without values does not tell what it is based on. -/
theorem exists_read_bases_eq_error :
    ∃ e, (Value.record type serial []).read "__bases__" = .error e := by
  have plain : ∃ e, type.readPlainly serial [] "__bases__" = .error e := by
    have room : type.roomFor? "__bases__" = none := by simp [RecordType.roomFor?]
    have member : type.member? serial "__bases__" = none := rfl
    rw [RecordType.readPlainly, room]
    by_cases slot : type.hasSlot "__bases__" = true
    · exact ⟨_, by rw [if_pos slot, slot_nil]⟩
    · exact ⟨_, by rw [if_neg slot, member]⟩
  obtain ⟨e, hplain⟩ := plain
  rw [Value.read, RecordType.read]
  cases type.useFailure? [] readerName with
  | none =>
    simp only [hplain]
    split <;> exact ⟨_, rfl⟩
  | some e =>
    dsimp only
    split <;> exact ⟨_, rfl⟩

theorem bases?_record_nil :
    (Value.record type serial []).bases? = .ok none ∨
      ∃ e, (Value.record type serial []).bases? = .error e := by
  obtain ⟨e, hread⟩ := exists_read_bases_eq_error type serial
  rw [Value.bases?, Value.read?, hread]
  dsimp only
  split
  · exact .inl rfl
  · exact .inr ⟨e, rfl⟩

/-- So it is no type. -/
theorem isOfWithin_record_nil_ne (value : Value) (left : Nat) :
    value.isOfWithin left (.record type serial []) ≠ .ok true := by
  intro h
  cases left with
  | zero => cases h
  | succ left =>
    rw [Value.isOfWithin] at h
    cases hcheck : type.useFailure? [] "__instancecheck__" with
    | some e =>
      rw [hcheck] at h
      cases h
    | none =>
      rw [hcheck] at h
      obtain ⟨bases, hbases, h⟩ := bind_eq_ok_iff.mp h
      rcases bases?_record_nil type serial with none | ⟨e, error⟩
      · rw [none] at hbases
        cases hbases
        cases h
      · rw [error] at hbases
        cases hbases

end Self

namespace Check

variable {check : Check} {scope : Scope} {name : String} {value : Value}

/-! ## Words -/

/-- A name is not hidden: nothing is at hand under it, save perhaps the record itself, which is no
type. -/
def Unhidden (check : Check) (scope : Scope) (name : String) : Prop :=
  scope.lookup name = none ∨ scope.lookup name = some check.self

/-- A value passes a test just if it is of what the word stands for, if nothing replaces the
test. -/
theorem require_eq_ok_iff (hinst : typeNamed? check.types "isinstance" = none) {word : TypeWord} :
    check.require scope word value = .ok () ↔
      scope.lookup "isinstance" = none ∧
        ∃ meaning, word.meaning check.types check.itemNames scope = .ok meaning ∧
          meaning.holds value = .ok true := by
  rw [require, bind_eq_ok_iff, hinst]
  cases scope.lookup "isinstance" with
  | some hider => simp [bind, Except.bind, throw, throwThe, MonadExceptOf.throw]
  | none =>
    simp only [true_and]
    refine exists_congr fun meaning => and_congr_right fun _ => ?_
    show (meaning.holds value >>= _) = _ ↔ _
    rw [bind_eq_ok_iff]
    constructor
    · rintro ⟨passes, hpasses, h⟩
      cases passes with
      | true => exact hpasses
      | false => cases h
    · intro h
      exact ⟨true, h, rfl⟩

/-- A value is of a type of records just if it is a record of it. -/
theorem isRecordOf_of_isOfWithin (left : Nat) {serial : Nat} (shown : String)
    (h : value.isOfWithin (left + 1) (.kind serial shown) = .ok true) :
    value.isRecordOf serial = true := by
  rw [Value.isOfWithin] at h
  split at h
  · assumption
  · obtain ⟨-, -, h⟩ := bind_eq_ok_iff.mp h
    cases h

/-- A value is of a ground type just if the type holds it. -/
theorem holds_of_meaning_holds {type : GroundType}
    (h : (Meaning.ground type).holds value = .ok true) : type.holds value = true := by
  rw [Meaning.holds] at h
  split at h
  · assumption
  · obtain ⟨-, -, h⟩ := bind_eq_ok_iff.mp h
    cases h

/-- The value of a name that is no type is no type either. -/
theorem isOfWithin_plainValue {left : Nat} {plain : Value} (h : plainValue? name = some plain) :
    value.isOfWithin (left + 1) plain = .error .notAType := by
  unfold plainValue? at h
  split at h
  case h_5 => split at h <;> cases h; rfl
  all_goals cases h; rfl

/-- What passes a test for a name that is not hidden is of what the name stands for. -/
theorem isOf_of_require (hinst : typeNamed? check.types "isinstance" = none)
    (hname : check.Unhidden scope name)
    (h : check.require scope (.named name) value = .ok ()) : IsOf check.types name value := by
  obtain ⟨-, meaning, hmeaning, hholds⟩ := (require_eq_ok_iff hinst).mp h
  rcases hname with hname | hname
  · simp only [TypeWord.meaning, hname] at hmeaning
    split at hmeaning
    · cases hmeaning
    · split at hmeaning
      case h_1 type htype =>
        cases hmeaning
        exact .record htype (isRecordOf_of_isOfWithin 999 type.shown hholds)
      case h_2 type hnone htype =>
        cases hmeaning
        exact .ground hnone htype (holds_of_meaning_holds hholds)
      case h_3 plain hnone _ hplain =>
        cases hmeaning
        rw [Meaning.holds, show maxUnderWay = 999 + 1 from rfl,
          isOfWithin_plainValue hplain] at hholds
        cases hholds
      case h_4 => cases hmeaning
  · rw [TypeWord.meaning, hname] at hmeaning
    cases hmeaning
    exact absurd hholds (isOfWithin_record_nil_ne check.type check.serial value maxUnderWay)

/-- A number or a constant is no type. -/
theorem require_constant_ne (hinst : typeNamed? check.types "isinstance" = none) :
    check.require scope .constant value ≠ .ok () := by
  intro h
  obtain ⟨-, meaning, hmeaning, hholds⟩ := (require_eq_ok_iff hinst).mp h
  cases hmeaning
  cases hholds

/-! ## Checking values -/

/-- The step by which a check goes on to the next item of a list. -/
def itemStep (check : Check) (name : String) (element : FieldType) (scope : Scope) (item : Value) :
    Except RecordError Scope :=
  check.checkValue (scope.set (nameOf ("_" ++ name)) item) ("_" ++ name) false element

/-- What the check of a value that is no list does. -/
theorem checkValue_named_eq_ok {word : String} {isField : Bool} {scope' : Scope}
    (h : check.checkValue scope name isField (.named word) = .ok scope') :
    scope' = scope ∧ ∃ read, TypeWord.read? (basicWord word) = some read ∧
      check.require scope read (scope.get (nameOf name)) = .ok () := by
  rw [checkValue] at h
  split at h
  case h_1 read hread =>
    obtain ⟨⟨⟩, hrequire, h⟩ := bind_eq_ok_iff.mp h
    cases h
    exact ⟨rfl, read, hread, hrequire⟩
  case h_2 => cases h

/-- What the check of a list inside of another one does. -/
theorem checkValue_list_eq_ok {element : FieldType} {scope' : Scope}
    (h : check.checkValue scope name false (.list element) = .ok scope') :
    check.require scope (.named "tuple") (scope.get (nameOf name)) = .ok () ∧
      ∃ items, (scope.get (nameOf name)).items? = some items ∧
        items.foldlM (check.itemStep name element) scope = .ok scope' := by
  simp only [checkValue, Bool.false_eq_true, if_false] at h
  obtain ⟨⟨⟩, hrequire, h⟩ := bind_eq_ok_iff.mp h
  split at h
  case h_1 items hitems => exact ⟨hrequire, items, hitems, h⟩
  case h_2 => cases h

/-- What the check of a list field does. -/
theorem checkValue_listField_eq_ok {element : FieldType} {scope' : Scope}
    (h : check.checkValue scope name true (.list element) = .ok scope') :
    scope.lookup "tuple" = none ∧ typeNamed? check.types "tuple" = none ∧
      ∃ items, (scope.get (nameOf name)).items? = some items ∧
        items.foldlM (check.itemStep name element) (scope.set (nameOf name) (.tuple items)) =
          .ok scope' := by
  simp only [checkValue, if_true] at h
  obtain ⟨items, hread, h⟩ := bind_eq_ok_iff.mp h
  rw [freeze] at hread
  cases hhider : scope.lookup "tuple" with
  | some hider =>
    rw [hhider] at hread
    cases hread
  | none =>
    rw [hhider] at hread
    cases hreplaced : typeNamed? check.types "tuple" with
    | some replacement =>
      rw [hreplaced] at hread
      obtain ⟨made, -, hread⟩ := bind_eq_ok_iff.mp hread
      cases hread
    | none =>
      rw [hreplaced] at hread
      refine ⟨rfl, rfl, items, ?_, h⟩
      cases hitems : (scope.get (nameOf name)).items? with
      | none =>
        rw [hitems] at hread
        cases hread
      | some found =>
        rw [hitems] at hread
        cases hread
        rfl

/-- A check leaves alone all names but those of the items, and that of the value itself if it is
that of a list field. -/
theorem lookup_of_checkValue {type : FieldType} {isField : Bool} {scope' : Scope} {key : String}
    (h : check.checkValue scope name isField type = .ok scope')
    (hitems : key ∉ Record.itemNames name type) (hname : isField = true → key ≠ nameOf name) :
    scope'.lookup key = scope.lookup key := by
  induction type generalizing name isField scope scope' with
  | named word => rw [(checkValue_named_eq_ok h).1]
  | list element ih =>
    have hitem := List.ne_of_not_mem_cons hitems
    have hitems := List.not_mem_of_not_mem_cons hitems
    have step (item : Value) (s t : Scope) (hs : s.lookup key = scope.lookup key)
        (h : check.itemStep name element s item = .ok t) : t.lookup key = scope.lookup key := by
      rw [ih h hitems (fun e => absurd e Bool.false_ne_true), Scope.lookup_set_of_ne hitem, hs]
    cases isField with
    | false =>
      obtain ⟨-, items, -, h⟩ := checkValue_list_eq_ok h
      refine (foldlM_eq_ok h ?_ fun item _ => step item).1
      rfl
    | true =>
      obtain ⟨-, -, items, -, h⟩ := checkValue_listField_eq_ok h
      refine (foldlM_eq_ok h ?_ fun item _ => step item).1
      exact Scope.lookup_set_of_ne (hname rfl)

/-! ## Types of checked values -/

/-- What a type comes down to can be seen from a scope: neither the name that its word stands for is
hidden, nor that of tuples, and no item of the list under a given name will hide them. -/
structure Sees (check : Check) (scope : Scope) (name : String) (type : FieldType) : Prop where
  tuple : scope.lookup "tuple" = none
  unhidden : ∀ word, TypeWord.read? (basicWord type.innermost) = some (.named word) →
    check.Unhidden scope word
  notItem : ∀ word, TypeWord.read? (basicWord type.innermost) = some (.named word) →
    word ∉ Record.itemNames name type

/-- What can be seen does not change as long as no name is set that is looked up. -/
theorem Sees.of_lookup_eq {type : FieldType} {s t : Scope} (h : check.Sees s name type)
    (htuple : t.lookup "tuple" = s.lookup "tuple")
    (hword : ∀ word, TypeWord.read? (basicWord type.innermost) = some (.named word) →
      t.lookup word = s.lookup word) : check.Sees t name type where
  tuple := htuple.trans h.tuple
  unhidden word hread := by
    rw [Unhidden, hword word hread]
    exact h.unhidden word hread
  notItem := h.notItem

section Items

variable {element : FieldType}

/-- From the elements of a list the same can be seen, whatever item is looked at. -/
theorem Sees.set_item (h : check.Sees scope name (.list element)) (item : Value) :
    check.Sees (scope.set (nameOf ("_" ++ name)) item) ("_" ++ name) element where
  tuple := by
    rw [Scope.lookup_set_of_ne, h.tuple]
    exact List.ne_of_not_mem_cons (tuple_notMem_itemNames name (.list element))
  unhidden word hread := by
    rw [Unhidden, Scope.lookup_set_of_ne (List.ne_of_not_mem_cons (h.notItem word hread))]
    exact h.unhidden word hread
  notItem word hread := List.not_mem_of_not_mem_cons (h.notItem word hread)

/-- Checking an item does not change what can be seen. -/
theorem Sees.of_itemStep {s t : Scope} {item : Value} (h : check.Sees s name (.list element))
    (hstep : check.itemStep name element s item = .ok t) : check.Sees t name (.list element) := by
  have kept (key : String) (hkey : key ∉ Record.itemNames name (.list element)) :
      t.lookup key = s.lookup key := by
    rw [lookup_of_checkValue hstep (List.not_mem_of_not_mem_cons hkey)
      (fun e => absurd e Bool.false_ne_true),
      Scope.lookup_set_of_ne (List.ne_of_not_mem_cons hkey)]
  refine h.of_lookup_eq (kept _ (tuple_notMem_itemNames _ _)) fun word hread => ?_
  exact kept word (h.notItem word hread)

/-- If checked values have their type, then so have the items of a list that is gone through. -/
theorem hasType_of_itemSteps {items : List Value} {scope' : Scope}
    (hcheck : ∀ name scope scope', check.Sees scope name element →
      check.checkValue scope name false element = .ok scope' →
        HasType check.types element (scope.get (nameOf name)))
    (hsees : check.Sees scope name (.list element))
    (h : items.foldlM (check.itemStep name element) scope = .ok scope') :
    ∀ item ∈ items, HasType check.types element item := by
  intro item hitem
  obtain ⟨s, t, hs, hstep⟩ := (foldlM_eq_ok (P := fun s => check.Sees s name (.list element)) h
    hsees fun item _ s t hs ht => hs.of_itemStep ht).2 item hitem
  have typed := hcheck _ _ t (hs.set_item item) hstep
  rwa [Scope.get_of_lookup Scope.lookup_set_self] at typed

end Items

/-- A value that passes the check for a type that is no list is of that type. -/
theorem hasType_of_checkValue_named (hinst : typeNamed? check.types "isinstance" = none)
    {word : String} {isField : Bool} {scope' : Scope}
    (hword : ∀ key, TypeWord.read? (basicWord word) = some (.named key) → check.Unhidden scope key)
    (h : check.checkValue scope name isField (.named word) = .ok scope') :
    HasType check.types (.named word) (scope.get (nameOf name)) := by
  obtain ⟨-, read, hread, hrequire⟩ := checkValue_named_eq_ok h
  cases read with
  | constant => exact absurd hrequire (require_constant_ne hinst)
  | named key => exact .named hread (isOf_of_require hinst (hword key hread) hrequire)

/-- A value that passes the check has the declared type. -/
theorem hasType_of_checkValue (hinst : typeNamed? check.types "isinstance" = none)
    (htuple : typeNamed? check.types "tuple" = none) {type : FieldType} {scope' : Scope}
    (hsees : check.Sees scope name type)
    (h : check.checkValue scope name false type = .ok scope') :
    HasType check.types type (scope.get (nameOf name)) := by
  induction type generalizing name scope scope' with
  | named word => exact hasType_of_checkValue_named hinst hsees.unhidden h
  | list element ih =>
    obtain ⟨hrequire, items, hitems, h⟩ := checkValue_list_eq_ok h
    -- Inside of another list only a tuple passes, and its items are those of the list.
    have frozen : scope.get (nameOf name) = .tuple items := by
      cases isOf_of_require hinst (.inl hsees.tuple) hrequire with
      | record htype => rw [htuple] at htype; cases htype
      | ground _ htype hvalue =>
        cases htype
        cases hvalue' : scope.get (nameOf name) <;> rw [hvalue'] at hvalue hitems <;> cases hvalue
        cases hitems
        rfl
    rw [frozen]
    exact .list (hasType_of_itemSteps (fun _ _ _ => ih) hsees h)

end Check

end SyntaxBridge.Record
