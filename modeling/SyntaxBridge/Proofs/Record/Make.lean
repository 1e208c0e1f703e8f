import SyntaxBridge.Proofs.Duplicates
import SyntaxBridge.Proofs.Record.Typing

/-!
# What a new record holds

A record that is made of some values holds them, each in the field that it is given for: a list
field holds a tuple of the items, and an optional field that is given nothing holds its zero value.
What it holds is of the declared type.

There is one exception. Going through a list field `f` sets the name `_f`, so a field of that name
ends up with an item of the list, whatever its type.
-/

namespace SyntaxBridge.Record

open Outcome

/-- What is given for a field: the value at its place, or its zero value if there is none. -/
inductive Field.Given (field : Field) : Option Value → Value → Prop
  | argument (value : Value) : field.Given (some value) value
  | zero {value : Value} (hoptional : field.isOptional = true)
      (hzero : field.type.zero? = some value) : field.Given none value

/-- What a field of a type keeps of the value that is given for it. -/
inductive FieldType.Keeps : FieldType → Value → Value → Prop
  | whole {word : String} (value : Value) : (named word).Keeps value value
  | items {element : FieldType} {value : Value} {items : List Value}
      (hitems : value.items? = some items) : (list element).Keeps value (.tuple items)

namespace Check

variable {check : Check} {scope scope' : Scope}

/-! ## Values by name -/

/-- The first field is given the first value, and the other fields are given the other ones. -/
theorem fillIn_cons_eq_ok {field : Field} {fields : List Field} {values : List Value}
    (h : fillIn (field :: fields) values = .ok scope) :
    ∃ given rest, scope = (field.key, given) :: rest ∧ field.Given values[0]? given ∧
      fillIn fields values.tail = .ok rest := by
  have map_eq_ok {outcome : Except RecordError Scope} {entry : String × Value}
      (h : outcome.map (entry :: ·) = .ok scope) :
      ∃ rest, scope = entry :: rest ∧ outcome = .ok rest := by
    cases outcome with
    | error e => cases h
    | ok rest => cases h; exact ⟨rest, rfl, rfl⟩
  cases values with
  | cons value values =>
    rw [fillIn] at h
    obtain ⟨rest, rfl, hrest⟩ := map_eq_ok h
    exact ⟨value, rest, rfl, .argument value, hrest⟩
  | nil =>
    rw [fillIn] at h
    split at h
    case h_1 zero hoptional hzero =>
      obtain ⟨rest, rfl, hrest⟩ := map_eq_ok h
      exact ⟨zero, rest, rfl, .zero hoptional hzero, hrest⟩
    case h_2 => cases h

/-- Nothing is at hand under a name that no field is read by. -/
theorem lookup_fillIn_eq_none {fields : List Field} {values : List Value} {key : String}
    (h : fillIn fields values = .ok scope) (hkey : key ∉ fields.map (·.key)) :
    scope.lookup key = none := by
  induction fields generalizing values scope with
  | nil => cases values <;> cases h; rfl
  | cons field fields ih =>
    obtain ⟨given, rest, rfl, -, hrest⟩ := fillIn_cons_eq_ok h
    have apart : key ≠ field.key := List.ne_of_not_mem_cons hkey
    rw [lookup_cons_of_ne apart]
    exact ih hrest (List.not_mem_of_not_mem_cons hkey)

/-- Each field has the value that is given for it at hand. -/
theorem exists_lookup_of_fillIn {fields : List Field} {values : List Value} {i : Nat}
    {field : Field} (h : fillIn fields values = .ok scope) (hkeys : (fields.map (·.key)).Nodup)
    (hfield : fields[i]? = some field) :
    ∃ given, scope.lookup field.key = some given ∧ field.Given values[i]? given := by
  induction fields generalizing values scope i with
  | nil => cases hfield
  | cons first fields ih =>
    obtain ⟨given, rest, rfl, hgiven, hrest⟩ := fillIn_cons_eq_ok h
    obtain ⟨fresh, hkeys⟩ := List.nodup_cons.mp hkeys
    cases i with
    | zero =>
      cases hfield
      exact ⟨given, List.lookup_cons_self, hgiven⟩
    | succ i =>
      obtain ⟨given', hlookup, hgiven'⟩ := ih hrest hkeys hfield
      refine ⟨given', ?_, ?_⟩
      · have apart : field.key ≠ first.key := fun e =>
          fresh (List.mem_map.mpr ⟨field, List.mem_of_getElem? hfield, e⟩)
        rw [lookup_cons_of_ne apart]
        exact hlookup
      · rwa [List.getElem?_tail] at hgiven'

/-! ## One field -/

/-- The step by which a check goes on to the next field. -/
def fieldStep (check : Check) (scope : Scope) (field : Field) : Except RecordError Scope :=
  check.checkValue scope field.name true field.type

/-- After the check of a field it holds what it keeps of the value that it was given. -/
theorem exists_keeps_of_checkValue {name : String} {type : FieldType} {given : Value}
    (h : check.checkValue scope name true type = .ok scope')
    (hgiven : scope.lookup (nameOf name) = some given)
    (hname : nameOf name ∉ Record.itemNames name type) :
    ∃ value, scope'.lookup (nameOf name) = some value ∧ type.Keeps given value ∧
      (typeNamed? check.types "isinstance" = none →
        (∀ word, TypeWord.read? (basicWord type.innermost) = some (.named word) →
          word ≠ nameOf name ∧ check.Unhidden scope word ∧ word ∉ Record.itemNames name type) →
        HasType check.types type value) := by
  cases type with
  | named word =>
    obtain ⟨rfl, -⟩ := checkValue_named_eq_ok h
    refine ⟨given, hgiven, .whole given, fun hinst hword => ?_⟩
    have typed := hasType_of_checkValue_named hinst (fun key hread => (hword key hread).2.1) h
    rwa [Scope.get_of_lookup hgiven] at typed
  | list element =>
    obtain ⟨htuple, hreplaced, items, hitems, hsteps⟩ := checkValue_listField_eq_ok h
    rw [Scope.get_of_lookup hgiven] at hitems
    have kept : scope'.lookup (nameOf name) = some (.tuple items) := by
      refine (foldlM_eq_ok (P := fun s => s.lookup (nameOf name) = some (.tuple items)) hsteps
        Scope.lookup_set_self fun item _ s t hs hstep => ?_).1
      rw [lookup_of_checkValue hstep (List.not_mem_of_not_mem_cons hname)
        (fun e => absurd e Bool.false_ne_true),
        Scope.lookup_set_of_ne (List.ne_of_not_mem_cons hname), hs]
    refine ⟨.tuple items, kept, .items hitems, fun hinst hword => ?_⟩
    have sees : check.Sees (scope.set (nameOf name) (.tuple items)) name (.list element) := by
      refine ⟨?_, fun word hread => ?_, fun word hread => (hword word hread).2.2⟩
      · rw [Scope.lookup_set_of_ne, htuple]
        -- The field itself is at hand, and nothing is under that name.
        intro e
        rw [← e, htuple] at hgiven
        cases hgiven
      · rw [Unhidden, Scope.lookup_set_of_ne (hword word hread).1]
        exact (hword word hread).2.1
    exact .list
      (hasType_of_itemSteps (fun _ _ _ => hasType_of_checkValue hinst hreplaced) sees hsteps)

/-! ## All fields -/

/-- Fields and items of other names leave a name alone. -/
theorem lookup_of_fieldSteps {fields : List Field} {key : String}
    (h : fields.foldlM check.fieldStep scope = .ok scope') (hkey : key ∉ fields.map (·.key))
    (hitems : key ∉ fields.flatMap fun field => Record.itemNames field.name field.type) :
    scope'.lookup key = scope.lookup key := by
  refine (foldlM_eq_ok (P := fun s => s.lookup key = scope.lookup key) h rfl ?_).1
  intro field hfield s t hs hstep
  rw [← hs]
  refine lookup_of_checkValue hstep (fun hmem => ?_) fun _ e => ?_
  · exact hitems (List.mem_flatMap.mpr ⟨field, hfield, hmem⟩)
  · exact hkey (List.mem_map.mpr ⟨field, hfield, e.symm⟩)

/-- After all fields were checked, a field that is not named like an item holds what it keeps of the
value that it was given. -/
theorem exists_keeps_of_fieldSteps {fields : List Field} {field : Field} {given : Value}
    (h : fields.foldlM check.fieldStep scope = .ok scope') (hfield : field ∈ fields)
    (hkeys : (fields.map (·.key)).Nodup) (hgiven : scope.lookup field.key = some given)
    (hitem : field.key ∉ fields.flatMap fun field => Record.itemNames field.name field.type) :
    ∃ value, scope'.lookup field.key = some value ∧ field.type.Keeps given value ∧
      (typeNamed? check.types "isinstance" = none →
        (∀ word, TypeWord.read? (basicWord field.type.innermost) = some (.named word) →
          check.Unhidden scope word ∧ word ∉ fields.map (·.key) ∧
            word ∉ fields.flatMap fun field => Record.itemNames field.name field.type) →
        HasType check.types field.type value) := by
  obtain ⟨before, after, rfl⟩ := List.append_of_mem hfield
  rw [List.foldlM_append] at h
  obtain ⟨s, hbefore, h⟩ := bind_eq_ok_iff.mp h
  rw [List.foldlM_cons] at h
  obtain ⟨t, hstep, hafter⟩ := bind_eq_ok_iff.mp h
  simp only [List.flatMap_append, List.flatMap_cons, List.mem_append, not_or] at hitem
  simp only [List.map_append, List.map_cons, List.nodup_append, List.nodup_cons] at hkeys
  -- The fields before and after leave the field alone, as their keys are other ones.
  have keyBefore : field.key ∉ before.map (·.key) := fun hmem =>
    hkeys.2.2 _ hmem _ List.mem_cons_self rfl
  have given_s : s.lookup field.key = some given := by
    rw [lookup_of_fieldSteps hbefore keyBefore hitem.1, hgiven]
  obtain ⟨value, hvalue, hkeeps, typed⟩ := exists_keeps_of_checkValue hstep given_s hitem.2.1
  refine ⟨value, ?_, hkeeps, fun hinst hword => typed hinst fun word hread => ?_⟩
  · rw [lookup_of_fieldSteps hafter hkeys.2.1.1 hitem.2.2]
    exact hvalue
  · obtain ⟨unhidden, notKey, notItem⟩ := hword word hread
    simp only [List.flatMap_append, List.flatMap_cons, List.mem_append, not_or] at notItem
    simp only [List.map_append, List.map_cons, List.mem_append, List.mem_cons, not_or] at notKey
    refine ⟨notKey.2.1, ?_, notItem.2.1⟩
    rw [Unhidden, lookup_of_fieldSteps hbefore notKey.1 notItem.1]
    exact unhidden

/-- What making a record comes down to. -/
theorem run_eq_ok {values : List Value} {record : Value} (h : check.run values = .ok record) :
    ∃ filled scope, fillIn check.type.fields values = .ok filled ∧
      check.type.fields.foldlM check.fieldStep ((selfName, check.self) :: filled) = .ok scope ∧
      record = .record check.type check.serial
        (check.type.fields.map fun field => scope.get field.key) := by
  rw [run] at h
  split at h
  · cases h
  · obtain ⟨filled, hfilled, h⟩ := bind_eq_ok_iff.mp h
    obtain ⟨scope, hscope, h⟩ := bind_eq_ok_iff.mp h
    obtain ⟨⟨⟩, -, h⟩ := bind_eq_ok_iff.mp h
    cases h
    exact ⟨filled, scope, hfilled, hscope, rfl⟩

end Check

/-- A record holds for a field what is at its place among the values. -/
theorem RecordType.slot_map (type : RecordType) (scope : Scope) {field : Field}
    (hfield : field ∈ type.fields) :
    type.slot (type.fields.map fun field => scope.get field.key) field.name =
      .ok (scope.get field.key) := by
  have found (fields : List Field) (hfield : field ∈ fields) :
      (fields.map fun field => (field.name, scope.get field.key)).lookup field.name =
        some (scope.get field.key) := by
    induction fields with
    | nil => cases hfield
    | cons first fields ih =>
      rw [List.map_cons]
      by_cases same : field.name = first.name
      · rw [same, List.lookup_cons_self, Field.key, Field.key, same]
      · rw [lookup_cons_of_ne same]
        exact ih (List.mem_of_ne_of_mem (fun e => same (congrArg Field.name e)) hfield)
  rw [RecordType.slot, RecordType.fieldNames, List.zip_map', found type.fields hfield]

/-- The keys of fields that are declared together are distinct. -/
theorem nodup_keys_of_readDeclaration {inherited : List String} {schema : String}
    {fields : List Field} (h : readDeclaration inherited schema = .ok fields) :
    (selfName :: fields.map (·.key)).Nodup := by
  obtain ⟨read, -, h⟩ := bind_eq_ok_iff.mp h
  obtain ⟨⟨⟩, hdeclarable, h⟩ := bind_eq_ok_iff.mp h
  cases h
  rw [requireDeclarable] at hdeclarable
  obtain ⟨-, hdeclarable⟩ := ite_throw_eq_ok_iff.mp hdeclarable
  obtain ⟨-, hdeclarable⟩ := ite_throw_eq_ok_iff.mp hdeclarable
  obtain ⟨-, hdeclarable⟩ := ite_throw_eq_ok_iff.mp hdeclarable
  obtain ⟨⟨⟩, -, hdeclarable⟩ := bind_eq_ok_iff.mp hdeclarable
  obtain ⟨distinct, -⟩ := ite_throw_eq_ok_iff.mp hdeclarable
  refine nodup_of_length_eraseDups_eq ?_
  simp only [Bool.or_eq_true, decide_eq_true_eq, not_or, not_not] at distinct
  exact distinct.1.1

namespace RecordType

variable {types : List RecordType} {type : RecordType} {values : List Value} {serial : Nat}

/-- The names of the items of the list fields of a type. -/
def itemNames (type : RecordType) : List String :=
  type.fields.flatMap fun field => Record.itemNames field.name field.type

/-- What the type of a field comes down to is not hidden from the check of a record: its name is
neither that of a field nor that of an item. -/
def IsPlain (type : RecordType) (fieldType : FieldType) : Prop :=
  ∀ word, TypeWord.read? (Check.basicWord fieldType.innermost) = some (.named word) →
    word ∉ type.fields.map (·.key) ∧ word ∉ type.itemNames

/-- A new record holds what it is given, and what it holds is of the declared type. This is so for
each field that is not named like the items of a list field. The type must not be named like
another field or like the items of one either, and nothing may replace the test. -/
theorem stores_of_make {record : Value}
    (hschema : readDeclaration type.inherited type.schema = .ok type.fields)
    (hmake : type.make types values serial = .ok record) :
    ∃ stored, record = .record type serial stored ∧
      ∀ (i : Nat) (field : Field), type.fields[i]? = some field →
        field.key ∉ type.itemNames →
        ∃ given value, field.Given values[i]? given ∧ field.type.Keeps given value ∧
          type.slot stored field.name = .ok value ∧
          (typeNamed? types "isinstance" = none → type.IsPlain field.type →
            HasType types field.type value) := by
  obtain ⟨hself, hkeys⟩ := List.nodup_cons.mp (nodup_keys_of_readDeclaration hschema)
  obtain ⟨filled, scope, hfilled, hsteps, rfl⟩ := Check.run_eq_ok hmake
  refine ⟨_, rfl, fun i field hfield hitem => ?_⟩
  have member : field ∈ type.fields := List.mem_of_getElem? hfield
  obtain ⟨given, hlookup, hgiven⟩ := Check.exists_lookup_of_fillIn hfilled hkeys hfield
  have apart (key : String) (hkey : key ≠ selfName) :
      List.lookup key ((selfName, (type.check types serial).self) :: filled) =
        filled.lookup key := by
    rw [List.lookup_cons, beq_eq_false_iff_ne.mpr hkey]
  have notSelf : field.key ≠ selfName := fun e =>
    hself (List.mem_map.mpr ⟨field, member, e⟩)
  obtain ⟨value, hvalue, hkeeps, typed⟩ := Check.exists_keeps_of_fieldSteps hsteps member hkeys
    ((apart _ notSelf).trans hlookup) hitem
  refine ⟨given, value, hgiven, hkeeps, ?_, fun hinst hplain => typed hinst fun word hread => ?_⟩
  · rw [← Scope.get_of_lookup hvalue]
    exact type.slot_map scope member
  · obtain ⟨notKey, notItem⟩ := hplain word hread
    refine ⟨?_, notKey, notItem⟩
    by_cases isSelf : word = selfName
    · right
      rw [isSelf]
      exact List.lookup_cons_self
    · left
      rw [apart word isSelf]
      exact Check.lookup_fillIn_eq_none hfilled notKey

/-! ### A field that is named like an item -/

/-- A type of sums of lists of numbers. One of its fields is named like the items of another one. -/
def sums : RecordType :=
  { name := "Sum", serial := 0, schema := "_parts:string parts:[][]int line:int@[optional]",
    fields := [⟨"_parts", .named "string", []⟩, ⟨"parts", .list (.list (.named "int")), []⟩,
      ⟨"line", .named "int", ["optional"]⟩] }

/-- The values of a sum that is given a text and a list of lists. -/
def sumValues : List Value :=
  [.tuple [.integer 1], .tuple [.tuple [.integer 1]], .integer 0]

theorem readDeclaration_sums : readDeclaration [] sums.schema = .ok sums.fields := by
  decide +kernel

theorem nameOf_sums : nameOf "parts" = "parts" ∧ nameOf "_parts" = "_parts" ∧
    nameOf "__parts" = "__parts" ∧ nameOf "line" = "line" := by
  decide +kernel

theorem make_sums :
    sums.make [] [.text "one", .list [.tuple [.integer 1]]] = .ok (.record sums 0 sumValues) := by
  have keepable : ∀ name ∈ ["_parts", "parts", "line"], Check.isPrivateName "Sum" name = false := by
    decide +kernel
  simp only [List.forall_mem_cons] at keepable
  simp [make, check, sums, sumValues, Check.run, hasSlot, fieldNames, Check.fillIn, Except.map,
    Field.key, Check.checkValue, Check.freeze, Check.require, Check.requireKept, TypeWord.meaning,
    Meaning.holds, GroundType.ofName?, GroundType.holds, Check.itemNames,
    Record.itemNames, Value.items?, Scope.get, Scope.set, typeNamed?, selfName, FieldType.zero?,
    Field.isOptional, List.lookup_cons, nameOf_sums, read?_int, read?_string, keepable, bind,
    Except.bind, pure, Except.pure]

/-- The parts of the sum are what was given, as tuples of numbers. -/
theorem stores_of_make_sums :
    readDeclaration [] sums.schema = .ok sums.fields ∧
      sums.make [] [.text "one", .list [.tuple [.integer 1]]] = .ok (.record sums 0 sumValues) ∧
      ∃ given value,
        Field.Given ⟨"parts", .list (.list (.named "int")), []⟩ (some (.list [.tuple [.integer 1]]))
          given ∧
        FieldType.Keeps (.list (.list (.named "int"))) given value ∧
        sums.slot sumValues "parts" = .ok value ∧
        HasType [] (.list (.list (.named "int"))) value := by
  refine ⟨readDeclaration_sums, make_sums, ?_⟩
  obtain ⟨stored, hstored, h⟩ := stores_of_make readDeclaration_sums make_sums
  cases hstored
  obtain ⟨given, value, hgiven, hkeeps, hslot, typed⟩ := h 1 _ rfl (by
    simp [Field.key, itemNames, Record.itemNames, sums, nameOf_sums])
  refine ⟨given, value, hgiven, hkeeps, hslot, typed rfl fun word hread => ?_⟩
  cases read?_int.symm.trans hread
  simp [itemNames, Record.itemNames, sums, Field.key, nameOf_sums]

/-- The text that was given is lost: its field ends up with an item, which is no text. -/
theorem item_replaces_text :
    readDeclaration [] sums.schema = .ok sums.fields ∧
      sums.make [] [.text "one", .list [.tuple [.integer 1]]] = .ok (.record sums 0 sumValues) ∧
      sums.slot sumValues "_parts" = .ok (.tuple [.integer 1]) ∧
      ¬HasType [] (.named "string") (.tuple [.integer 1]) := by
  refine ⟨readDeclaration_sums, make_sums, rfl, ?_⟩
  intro typed
  cases typed with
  | named hword hvalue =>
    cases read?_string.symm.trans hword
    cases hvalue with
    | record htype => cases htype
    | ground _ htype hvalue =>
      cases htype
      cases hvalue

end RecordType

end SyntaxBridge.Record
