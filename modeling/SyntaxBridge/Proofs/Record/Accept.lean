import SyntaxBridge.Proofs.Record.Make

/-!
# Which values a record can be made of

Values of the declared types are accepted, and the record that is made of them holds just these
values. This is so for types that are open to a check (`Check.IsOpen`): none of the names that the
check depends on is taken by a field, by the items of a list field or by another type of records.
-/

namespace SyntaxBridge.Record

open Outcome

namespace Check

/-- The names that values are put under during a check. -/
def names (check : Check) : List String :=
  selfName :: check.type.fields.map (·.key) ++ check.itemNames

/-- Nothing gets in the way of a check. -/
structure IsOpen (check : Check) : Prop where
  /-- What checks and keeps values is neither replaced by a type of records nor hidden. -/
  tools : ∀ name ∈ ["tuple", "isinstance", "object"],
    typeNamed? check.types name = none ∧ name ∉ check.names
  /-- What the types of the fields come down to is not hidden. -/
  words : ∀ field ∈ check.type.fields, ∀ word,
    TypeWord.read? (basicWord field.type.innermost) = some (.named word) → word ∉ check.names
  /-- Fields and the items of list fields have names of their own. -/
  nodup : check.names.Nodup
  /-- A value can be kept for each field. -/
  kept : ∀ field ∈ check.type.fields, field.name ≠ "__dict__" ∧ field.name ≠ "__weakref__" ∧
    isPrivateName check.type.name field.name = false
  /-- No field takes the place of what makes a record. -/
  hasSlot_eq : check.type.hasSlot "__new__" = false

/-- Nothing is at hand but under the names that a check uses. -/
def IsClear (check : Check) (scope : Scope) : Prop :=
  ∀ key ∉ check.names, scope.lookup key = none

variable {check : Check} {scope scope' : Scope} {name key : String} {value : Value}

theorem IsClear.set (hclear : check.IsClear scope) (hname : name ∈ check.names) (value : Value) :
    check.IsClear (scope.set name value) := by
  intro key hkey
  rw [Scope.lookup_set_of_ne (ne_of_mem_of_not_mem hname hkey).symm, hclear key hkey]

/-- A check of a value leaves everything clear. -/
theorem IsClear.of_checkValue {type : FieldType} (hclear : check.IsClear scope)
    (hitems : ∀ key ∈ Record.itemNames name type, key ∈ check.names)
    (h : check.checkValue scope name false type = .ok scope') : check.IsClear scope' := by
  intro key hkey
  rw [lookup_of_checkValue h (fun hmem => hkey (hitems key hmem)) (fun e => nomatch e),
    hclear key hkey]

/-- The items of a list pass their checks if values of the type of the elements do. -/
theorem exists_itemSteps_eq_ok {element : FieldType} {items : List Value}
    (hnames : ∀ key ∈ Record.itemNames name (.list element), key ∈ check.names)
    (hcheck : ∀ scope, check.IsClear scope →
      HasType check.types element (scope.get (nameOf ("_" ++ name))) →
        ∃ scope', check.checkValue scope ("_" ++ name) false element = .ok scope')
    (hclear : check.IsClear scope) (hitems : ∀ item ∈ items, HasType check.types element item) :
    ∃ scope', items.foldlM (check.itemStep name element) scope = .ok scope' := by
  obtain ⟨hname, hrest⟩ := List.forall_mem_cons.mp hnames
  obtain ⟨scope', h, -⟩ := exists_foldlM_eq_ok (P := check.IsClear) hclear
    fun item hitem s hs => by
      have hset := hs.set hname item
      obtain ⟨t, ht⟩ := hcheck _ hset (by
        rw [Scope.get_of_lookup Scope.lookup_set_self]
        exact hitems item hitem)
      exact ⟨t, ht, hset.of_checkValue hrest ht⟩
  exact ⟨scope', h⟩

namespace IsOpen

variable (hopen : check.IsOpen)

include hopen

theorem nodup_keys : (selfName :: check.type.fields.map (·.key)).Nodup :=
  (List.nodup_append.mp hopen.nodup).1

/-- No field is named like the items of a list field. -/
theorem key_notMem_itemNames {field : Field} (hfield : field ∈ check.type.fields) :
    field.key ∉ check.itemNames := fun hmem =>
  (List.nodup_append.mp hopen.nodup).2.2 _
    (List.mem_cons_of_mem _ (List.mem_map_of_mem hfield)) _ hmem rfl

/-- A value that is of what a name stands for passes the test. -/
theorem require_eq_ok (hclear : check.IsClear scope) (hkey : key ∉ check.names)
    (h : IsOf check.types key value) : check.require scope (.named key) value = .ok () := by
  obtain ⟨hinst, hhidden⟩ := hopen.tools "isinstance" (by simp)
  have hitem : check.itemNames.contains key = false := by
    simpa using fun hmem => hkey (List.mem_append_right _ hmem)
  refine (require_eq_ok_iff hinst).mpr ⟨hclear _ hhidden, ?_⟩
  simp only [TypeWord.meaning, hclear key hkey, hitem, Bool.false_eq_true, if_false]
  cases h with
  | record htype hvalue =>
    refine ⟨_, by rw [htype], ?_⟩
    rw [Meaning.holds, RecordType.value, show maxUnderWay = 999 + 1 from rfl, Value.isOfWithin,
      if_pos hvalue]
    rfl
  | ground hnone htype hvalue =>
    refine ⟨_, by rw [hnone, htype], ?_⟩
    rw [Meaning.holds, if_pos hvalue]
    rfl

/-- A tuple passes the test for tuples. -/
theorem require_tuple (hclear : check.IsClear scope) (items : List Value) :
    check.require scope (.named "tuple") (.tuple items) = .ok () := by
  obtain ⟨hnone, hhidden⟩ := hopen.tools "tuple" (by simp)
  exact hopen.require_eq_ok hclear hhidden (.ground hnone rfl rfl)

/-- A value of the declared type passes the check. -/
theorem exists_checkValue_eq_ok {type : FieldType}
    (hnames : ∀ key ∈ Record.itemNames name type, key ∈ check.names)
    (hword : ∀ word, TypeWord.read? (basicWord type.innermost) = some (.named word) →
      word ∉ check.names)
    (hclear : check.IsClear scope) (h : HasType check.types type (scope.get (nameOf name))) :
    ∃ scope', check.checkValue scope name false type = .ok scope' := by
  -- Each level of lists puts its items under a name of its own.
  induction type generalizing name scope with
  | named word =>
    cases h with
    | named hread hvalue =>
      refine ⟨scope, ?_⟩
      rw [checkValue, hread]
      exact bind_eq_ok_iff.mpr ⟨(), hopen.require_eq_ok hclear (hword _ hread) hvalue, rfl⟩
  | list element ih =>
    generalize hvalue : scope.get (nameOf name) = value at h
    cases h with
    | list hitems =>
      have hrest := (List.forall_mem_cons.mp hnames).2
      obtain ⟨scope', hsteps⟩ := exists_itemSteps_eq_ok hnames
        (fun scope hclear h => ih hrest hword hclear h) hclear hitems
      refine ⟨scope', ?_⟩
      simp only [checkValue, Bool.false_eq_true, if_false, hvalue]
      exact bind_eq_ok_iff.mpr ⟨(), hopen.require_tuple hclear _, hsteps⟩

/-- A tuple is frozen as it is. -/
theorem freeze_tuple (hclear : check.IsClear scope) (items : List Value) :
    check.freeze scope (.tuple items) = .ok items := by
  obtain ⟨hnone, hhidden⟩ := hopen.tools "tuple" (by simp)
  rw [freeze, hclear _ hhidden, hnone]
  rfl

/-- A field that is given a value of its type passes the check. It keeps what it is given, and so
do the other fields. -/
theorem exists_checkValue_field_eq_ok {type : FieldType}
    (hitemNames : ∀ key ∈ Record.itemNames name type, key ∈ check.itemNames)
    (hname : nameOf name ∈ check.names)
    (hword : ∀ word, TypeWord.read? (basicWord type.innermost) = some (.named word) →
      word ∉ check.names)
    (hclear : check.IsClear scope) (hvalue : scope.lookup (nameOf name) = some value)
    (h : HasType check.types type value) :
    ∃ scope', check.checkValue scope name true type = .ok scope' ∧
      ∀ key ∉ check.itemNames, scope'.lookup key = scope.lookup key := by
  have hget := Scope.get_of_lookup hvalue
  cases h with
  | named hread hof =>
    refine ⟨scope, ?_, fun _ _ => rfl⟩
    rw [checkValue, hread]
    refine bind_eq_ok_iff.mpr ⟨(), ?_, rfl⟩
    rw [hget]
    exact hopen.require_eq_ok hclear (hword _ hread) hof
  | @list element items hitems =>
    have hnames (key : String) (hkey : key ∈ Record.itemNames name (.list element)) :
        key ∈ check.names :=
      List.mem_append_right _ (hitemNames key hkey)
    have hrest := (List.forall_mem_cons.mp hnames).2
    obtain ⟨scope', hsteps⟩ := exists_itemSteps_eq_ok hnames
      (fun scope hclear h => hopen.exists_checkValue_eq_ok hrest hword hclear h)
      (hclear.set hname (.tuple items)) hitems
    have hcheck : check.checkValue scope name true (.list element) = .ok scope' := by
      simp only [checkValue, if_true, hget]
      exact bind_eq_ok_iff.mpr ⟨items, hopen.freeze_tuple hclear items, hsteps⟩
    refine ⟨scope', hcheck, fun key hkey => ?_⟩
    have hkey := fun hmem => hkey (hitemNames key hmem)
    by_cases hself : key = nameOf name
    · -- The frozen list is put under the name of the field, but it was frozen before.
      subst hself
      obtain ⟨kept, hkept, hkeeps, -⟩ := exists_keeps_of_checkValue hcheck hvalue hkey
      cases hkeeps with
      | items hitems =>
        cases hitems
        rw [hkept, hvalue]
    · exact lookup_of_checkValue hcheck hkey fun _ => hself

/-- Fields that are given values of their types pass their checks one after the other, and all of
them keep what they are given. -/
theorem exists_fieldSteps_eq_ok {values : List Value} (hclear : check.IsClear scope)
    (hgiven : List.Forall₂ (fun field value => HasType check.types field.type value ∧
      scope.lookup field.key = some value) check.type.fields values) :
    ∃ scope', check.type.fields.foldlM check.fieldStep scope = .ok scope' ∧
      check.IsClear scope' ∧
      List.Forall₂ (fun field value => scope'.lookup field.key = some value)
        check.type.fields values := by
  obtain ⟨hlength, hgiven⟩ := List.forall₂_iff_get.mp hgiven
  -- Only the names of items are put to other use on the way.
  have hkept (s : Scope) (hs : ∀ key ∉ check.itemNames, s.lookup key = scope.lookup key) :
      check.IsClear s := fun key hkey => by
    rw [hs key fun hmem => hkey (List.mem_append_right _ hmem), hclear key hkey]
  have hrun : ∃ scope', check.type.fields.foldlM check.fieldStep scope = .ok scope' ∧
      ∀ key ∉ check.itemNames, scope'.lookup key = scope.lookup key := by
    refine exists_foldlM_eq_ok (fun _ _ => rfl) fun field hfield s hs => ?_
    obtain ⟨i, hi, rfl⟩ := List.mem_iff_getElem.mp hfield
    obtain ⟨htyped, hlookup⟩ := hgiven i hi (hlength ▸ hi)
    have hname : check.type.fields[i].key ∈ check.names :=
      List.mem_append_left _ (List.mem_cons_of_mem _ (List.mem_map_of_mem hfield))
    obtain ⟨t, hstep, ht⟩ := hopen.exists_checkValue_field_eq_ok
      (fun key hkey => List.mem_flatMap.mpr ⟨_, hfield, hkey⟩) hname (hopen.words _ hfield)
      (hkept s hs) ((hs _ (hopen.key_notMem_itemNames hfield)).trans hlookup) htyped
    exact ⟨t, hstep, fun key hkey => (ht key hkey).trans (hs key hkey)⟩
  obtain ⟨scope', hsteps, hscope⟩ := hrun
  refine ⟨scope', hsteps, hkept scope' hscope,
    List.forall₂_iff_get.mpr ⟨hlength, fun i hi hi' => ?_⟩⟩
  rw [hscope _ (hopen.key_notMem_itemNames (List.get_mem _ _))]
  exact (hgiven i hi hi').2

/-- What is checked can be kept. -/
theorem requireKept_eq_ok (hclear : check.IsClear scope) {field : Field}
    (hfield : field ∈ check.type.fields) : check.requireKept scope field = .ok () := by
  obtain ⟨hnone, hhidden⟩ := hopen.tools "object" (by simp)
  obtain ⟨hdict, hweak, hprivate⟩ := hopen.kept field hfield
  rw [requireKept, hclear _ hhidden, hnone, if_neg hdict, if_neg hweak, hprivate]
  rfl

end IsOpen

/-- The values that are given for fields are put under the keys of the fields. -/
theorem fillIn_eq_ok {fields : List Field} {values : List Value}
    (h : fields.length = values.length) :
    fillIn fields values = .ok ((fields.map (·.key)).zip values) := by
  induction fields generalizing values with
  | nil =>
    obtain rfl := List.eq_nil_of_length_eq_zero h.symm
    rfl
  | cons field fields ih =>
    cases values with
    | nil => cases h
    | cons value values =>
      rw [fillIn, ih (Nat.succ.inj h)]
      rfl

namespace IsOpen

variable (hopen : check.IsOpen) {values : List Value}
  (h : List.Forall₂ (fun field => HasType check.types field.type) check.type.fields values)

include hopen h

/-- The values that are at hand when a check begins. -/
theorem exists_given :
    ∃ given, fillIn check.type.fields values = .ok given ∧
      check.IsClear ((selfName, check.self) :: given) ∧
      List.Forall₂ (fun field value => HasType check.types field.type value ∧
        ((selfName, check.self) :: given).lookup field.key = some value)
        check.type.fields values := by
  obtain ⟨hself, hkeys⟩ := List.nodup_cons.mp hopen.nodup_keys
  obtain ⟨hlength, htyped⟩ := List.forall₂_iff_get.mp h
  have hgiven := fillIn_eq_ok hlength
  -- The record itself is at hand too, under a name that no field has.
  refine ⟨_, hgiven, fun key hkey => ?_, List.forall₂_iff_get.mpr ⟨hlength, fun i hi hi' => ?_⟩⟩
  · have hkey : key ∉ selfName :: check.type.fields.map (·.key) := fun hmem =>
      hkey (List.mem_append_left _ hmem)
    rw [lookup_cons_of_ne (List.ne_of_not_mem_cons hkey)]
    exact lookup_fillIn_eq_none hgiven (List.not_mem_of_not_mem_cons hkey)
  · refine ⟨htyped i hi hi', ?_⟩
    have hne : check.type.fields[i].key ≠ selfName := fun e =>
      hself (List.mem_map.mpr ⟨_, List.getElem_mem hi, e⟩)
    obtain ⟨value, hvalue, hkept⟩ :=
      exists_lookup_of_fillIn hgiven hkeys (List.getElem?_eq_getElem hi)
    rw [List.getElem?_eq_getElem hi'] at hkept
    cases hkept
    rw [List.get_eq_getElem, lookup_cons_of_ne hne]
    exact hvalue

/-- Values of the declared types are accepted, and the record that is made of them holds them. -/
theorem run_eq_ok : check.run values = .ok (.record check.type check.serial values) := by
  obtain ⟨given, hgiven, hclear, hvalues⟩ := hopen.exists_given h
  obtain ⟨scope, hsteps, hclear, hvalues⟩ := hopen.exists_fieldSteps_eq_ok hclear hvalues
  have hkept : check.type.fields.forM (check.requireKept scope) = .ok () :=
    forM_eq_ok_iff.mpr fun field hfield => hopen.requireKept_eq_ok hclear hfield
  have hheld : (check.type.fields.map fun field => scope.get field.key) = values := by
    rw [← List.forall₂_eq_eq_eq, List.forall₂_map_left_iff]
    exact hvalues.imp fun _ _ => Scope.get_of_lookup
  rw [run, hopen.hasSlot_eq]
  refine bind_eq_ok_iff.mpr ⟨given, hgiven, bind_eq_ok_iff.mpr ⟨scope, hsteps, ?_⟩⟩
  refine bind_eq_ok_iff.mpr ⟨(), hkept, ?_⟩
  rw [hheld]
  rfl

end IsOpen

end Check

/-- Values of the declared types make a record that holds them. -/
theorem RecordType.make_eq_ok {types : List RecordType} {type : RecordType} {values : List Value}
    {serial : Nat} (hopen : (type.check types serial).IsOpen)
    (h : List.Forall₂ (fun field => HasType types field.type) type.fields values) :
    type.make types values serial = .ok (.record type serial values) :=
  hopen.run_eq_ok h

end SyntaxBridge.Record
