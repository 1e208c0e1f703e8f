import SyntaxBridge.Record.Scope

/-!
# Checking the values of a record

A record is made from one value for each field. The values are checked in the order of the fields,
and the first that does not fit is refused. A list field takes any value that can be gone through
and keeps its items as a tuple, so that the record can never change; lists inside of it must be
tuples already.

The check keeps the values under the keys of the fields, and the record, which is yet to be made,
under the name `self`. Going through a list field `f` it puts each item in turn under the name `_f`,
so a field of that very name ends up with the last item.

What makes, checks and changes records is itself known by name: `tuple` freezes a list field,
`isinstance` checks a value, `object` keeps the values, `hash` counts a record, and
`AttributeError` says that a record cannot change. A field or a type of one of these names takes its
place. A field cannot do what it should. A type does what a type does: it makes a record. A type
extends the type of the name `object`, so its records have that type's fields as well, without
values.
-/

namespace SyntaxBridge.Record

/-- The names of the items of a list field and of the lists inside of it. -/
def itemNames (name : String) : FieldType → List String
  | .named _ => []
  | .list element => nameOf ("_" ++ name) :: itemNames ("_" ++ name) element

/-- What a check depends on. -/
structure Check where
  /-- The types of records. -/
  types : List RecordType
  /-- The type of the record that is to be made. -/
  type : RecordType
  /-- The number of records made before it. -/
  serial : Nat
  /-- How a record of another type is made. -/
  make : RecordType → List Value → Except RecordError Value

namespace Check

/-- The names that are set while items of lists are gone through. -/
def itemNames (check : Check) : List String :=
  check.type.fields.flatMap fun field => Record.itemNames field.name field.type

/-- The record that is to be made, as long as it holds no values. -/
def self (check : Check) : Value :=
  .record check.type check.serial []

/-- The refusal of a value. It tells the types of the record and of the value, if they can be
told. -/
def refusal (check : Check) (value : Value) : RecordError :=
  match check.self.requireType, value.requireType with
  | .error e, _ | _, .error e => e
  | .ok (), .ok () => .mismatch

/-- Refuse a value unless a record that counts as true can be made of it and of what a word stands
for. That is how a type of the name `isinstance` checks values. -/
def replacedTest (check : Check) (replacement : RecordType) (meaning : Meaning) (value : Value) :
    Except RecordError Unit := do
  let choice := match meaning with
    | .value choice => choice
    | .ground _ => .null
  if let some e := (← check.make replacement [value, choice]).truthFailure? then throw e

/-- Refuse a value that is not of what a word stands for. -/
def require (check : Check) (scope : Scope) (word : TypeWord) (value : Value) :
    Except RecordError Unit := do
  let meaning ← word.meaning check.types check.itemNames scope
  if let some hider := scope.lookup "isinstance" then throw hider.callFailure
  match typeNamed? check.types "isinstance" with
  | some replacement => check.replacedTest replacement meaning value
  | none => if !(← meaning.holds value) then throw (check.refusal value)

/-- The items of a value for a list field. -/
def freeze (check : Check) (scope : Scope) (value : Value) : Except RecordError (List Value) := do
  if let some hider := scope.lookup "tuple" then throw hider.callFailure
  if let some replacement := typeNamed? check.types "tuple" then
    throw (← check.make replacement [value]).loopFailure
  match value.items? with
  | some items => return items
  | none => throw value.collectFailure

/-- The word under which the type of a field is looked up. -/
def basicWord (word : String) : String :=
  if word = "string" then "str" else word

/-- Check the value under a name against a type, and freeze it if it is that of a list field. -/
def checkValue (check : Check) (scope : Scope) (name : String) (isField : Bool) :
    FieldType → Except RecordError Scope
  | .named word => do
    let some word := TypeWord.read? (basicWord word) | throw .malformedType
    check.require scope word (scope.get (nameOf name))
    return scope
  | .list element => do
    let value := scope.get (nameOf name)
    let items ←
      if isField then check.freeze scope value
      else do
        check.require scope (.named "tuple") value
        let some items := value.items? | throw .notIterable
        pure items
    let scope := if isField then scope.set (nameOf name) (.tuple items) else scope
    items.foldlM (fun scope item =>
      check.checkValue (scope.set (nameOf ("_" ++ name)) item) ("_" ++ name) false element) scope

/-- Whether a name is private to the type that declares it, so that no field is kept under it. -/
def isPrivateName (type name : String) : Bool :=
  name.startsWith "__" && !name.endsWith "__" && type.toList.any (· != '_')

/-- The refusal of a change to a record, which tells the name of its type, if it can be told. -/
def refuseChange (check : Check) (values : List Value) : RecordError :=
  match (Value.readTypeName check.type check.serial values).bind Value.fillGap with
  | .error e => e
  | .ok name =>
    match typeNamed? check.types "AttributeError" with
    | none => .immutable name
    | some replacement =>
      match check.make replacement [.text (name ++ " is immutable")] with
      | .ok _ => .hiddenName
      | .error e => e

/-- Refuse to keep a value for a field where that cannot be. -/
def requireKept (check : Check) (scope : Scope) (field : Field) : Except RecordError Unit := do
  if let some hider := scope.lookup "object" then
    if let .record .. := hider then discard (hider.read "__setattr__")
    throw .wrongCount
  if (typeNamed? check.types "object").isSome then throw (check.refuseChange [])
  if field.name = "__dict__" then throw .hiddenName
  if field.name = "__weakref__" then throw (.notWritable check.type.name field.name)
  if isPrivateName check.type.name field.name && !check.type.hasSlot "__dict__" then
    throw (.noField check.type.name field.name)

/-- The values of the fields, the missing ones at the end replaced by zero values. -/
def fillIn : List Field → List Value → Except RecordError Scope
  | [], [] => .ok []
  | [], _ :: _ => .error .wrongCount
  | field :: fields, value :: values => (fillIn fields values).map ((field.key, value) :: ·)
  | field :: fields, [] =>
    match field.isOptional, field.type.zero? with
    | true, some zero => (fillIn fields []).map ((field.key, zero) :: ·)
    | _, _ => .error .wrongCount

/-- Make a record. -/
def run (check : Check) (values : List Value) : Except RecordError Value := do
  if check.type.hasSlot "__new__" then throw .hiddenName
  let fields := check.type.fields
  let given := (selfName, check.self) :: (← fillIn fields values)
  let scope ← fields.foldlM (fun scope field =>
    check.checkValue scope field.name true field.type) given
  fields.forM (check.requireKept scope)
  return .record check.type check.serial (fields.map fun field => scope.get field.key)

end Check

/-- Make a record of a type after a number of others, while no more than some may be under way. -/
def RecordType.makeWithin (types : List RecordType) (serial : Nat) :
    Nat → RecordType → List Value → Except RecordError Value
  | 0, _, _ => .error .endless
  | left + 1, type, values =>
    Check.run { types, type, serial, make := makeWithin types serial left } values

/-- The check that makes records of a type after a number of others. -/
def RecordType.check (types : List RecordType) (serial : Nat) (type : RecordType) : Check :=
  { types, type, serial, make := makeWithin types serial maxUnderWay }

/-- Make a record of a type. -/
def RecordType.make (types : List RecordType) (type : RecordType) (values : List Value)
    (serial : Nat := 0) : Except RecordError Value :=
  (type.check types serial).run values

end SyntaxBridge.Record
