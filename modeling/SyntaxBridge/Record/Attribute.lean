import SyntaxBridge.Record.Value

/-!
# Reading records

What a record has under a name: the value of a field, or else what every record has, such as the
schema of its type or what can be done with it. A field that holds no value is missing. So is one
that is kept under a name other than its key.

Fields may get into the way. Some names are those by which a record is read or used. A field of such
a name takes the place of what does the work, and as no value can be called, the work fails.
-/

namespace SyntaxBridge.Record

/-- The number of steps that may be under way at once, each on behalf of another. -/
def maxUnderWay : Nat := 1000

/-- The name of the field that replaces how a record is read. -/
def readerName : String := "__getattribute__"

/-- The name of the field that replaces how missing fields are made up for. -/
def fallbackName : String := "__getattr__"

/-- The name under which a record tells its type. -/
def typeFieldName : String := "__class__"

/-- The name of the field by which a record is called. -/
def callName : String := "__call__"

/-- The names of what can be done with a record and is shown along with it. -/
def actionNames : List String :=
  ["__init__", "__setattr__", "__delattr__", "__eq__", "__hash__", "__repr__"]

/-- The names of what else can be done with a record. -/
def otherActionNames : List String :=
  ["__dir__", "__format__", "__ge__", "__getattribute__", "__getstate__", "__gt__", "__le__",
    "__lt__", "__ne__", "__reduce__", "__reduce_ex__", "__sizeof__", "__str__"]

/-- The names of what can be done with a type. -/
def typeActionNames : List String :=
  ["__init_subclass__", "__new__", "__subclasshook__"]

/-- Whether an error says that something is missing. -/
def RecordError.isMissing : RecordError → Bool
  | noField .. => true
  | _ => false

namespace RecordType

/-- The value that a record of a type holds for a field. -/
def slot (type : RecordType) (values : List Value) (name : String) : Except RecordError Value :=
  match (type.fieldNames.zip values).lookup name with
  | some value => .ok value
  | none => .error (.noField type.name name)

/-- What a record has beside its fields. -/
def member? (type : RecordType) (serial : Nat) (name : String) : Option Value :=
  match name with
  | "__class__" => some type.value
  | "__schema__" => some (.text type.schema)
  | "__fields__" | "__slots__" => some (.tuple (type.fieldNames.map .text))
  | "__module__" => some type.home.value
  | "__doc__" => some .null
  | _ =>
    if actionNames.contains name || otherActionNames.contains name then
      some (.action name false serial)
    else if typeActionNames.contains name then some (.action name true type.serial)
    else none

/-- What the records of a type have under a name that a type it extends made room for. -/
def roomFor? (type : RecordType) (name : String) : Option Value :=
  if !type.inherited.contains name then none
  else
    match name with
    | "__dict__" => some (.table [] [])
    | "__weakref__" => some .null
    | _ => none

/-- What a record has under a name, as long as no field replaces how it is read. -/
def readPlainly (type : RecordType) (serial : Nat) (values : List Value) (name : String) :
    Except RecordError Value :=
  match type.roomFor? name with
  | some value => .ok value
  | none =>
    if type.hasSlot name then type.slot values name
    else
      match type.member? serial name with
      | some value => .ok value
      | none => .error (.noField type.name name)

end RecordType

/-- Why a value cannot be called. What a record is called by is a value too. -/
def Value.callFailureWithin : Nat → Value → RecordError
  | left + 1, .record type _ values =>
    if type.hasSlot callName then
      match type.slot values callName with
      | .ok value => callFailureWithin left value
      | .error e => e
    else .hiddenName
  | _, _ => .hiddenName

/-- Why a value cannot be called. -/
def Value.callFailure (value : Value) : RecordError :=
  value.callFailureWithin maxUnderWay

namespace RecordType

/-- Why a record cannot be used by way of a field, if it has the field. -/
def useFailure? (type : RecordType) (values : List Value) (name : String) : Option RecordError :=
  if type.hasSlot name then
    match type.slot values name with
    | .ok value => some value.callFailure
    | .error e => some e
  else none

/-- What a record has under a name. -/
def read (type : RecordType) (serial : Nat) (values : List Value) (name : String) :
    Except RecordError Value :=
  let outcome : Except RecordError Value := match type.useFailure? values readerName with
    | some e => .error e
    | none => type.readPlainly serial values name
  match outcome with
  | .ok value => .ok value
  | .error e =>
    if e.isMissing then .error ((type.useFailure? values fallbackName).getD e) else .error e

end RecordType

namespace Value

/-- What a value has under a name. Only records have anything. -/
def read (value : Value) (name : String) : Except RecordError Value :=
  match value with
  | record type serial values => type.read serial values name
  | _ => .error (.noField value.typeName name)

/-- What a value has under a name, if it has anything. -/
def read? (value : Value) (name : String) : Except RecordError (Option Value) :=
  match value.read name with
  | .ok found => .ok (some found)
  | .error e => if e.isMissing then .ok none else .error e

/-- Ask a value for its type, which any value but a record can tell. -/
def requireType (value : Value) : Except RecordError Unit :=
  match value with
  | record .. => discard (value.read typeFieldName)
  | _ => .ok ()

/-- What stands for the name of the type of a record. -/
def readTypeName (type : RecordType) (serial : Nat) (values : List Value) :
    Except RecordError Value := do
  match ← type.read serial values typeFieldName with
  | .kind .. => return .text type.name
  | other => other.read "__name__"

/-- Why a value cannot be gone through in a loop. -/
def loopFailure : Value → RecordError
  | record type _ values =>
    if type.hasSlot "__iter__" then
      match type.slot values "__iter__" with
      | .ok value => value.callFailure
      | .error _ => .notIterable
    else (type.useFailure? values "__getitem__").getD .notIterable
  | _ => .notIterable

/-- Why the items of a value cannot be collected. Before the first item their number is asked for,
and it does no harm if that cannot be told. -/
def collectFailure : Value → RecordError
  | value@(record type _ values) =>
    let asked := ["__len__", "__length_hint__"].findSome? fun name =>
      (type.useFailure? values name).filter (·.isMissing)
    match type.hasSlot "__iter__", type.hasSlot "__getitem__", asked with
    | false, true, some e => e
    | _, _, _ => value.loopFailure
  | value => value.loopFailure

/-- Why a record does not count as true, if it does not. -/
def truthFailure? : Value → Option RecordError
  | record type _ values =>
    (type.useFailure? values "__bool__").or (type.useFailure? values "__len__")
  | _ => none

end Value

end SyntaxBridge.Record
