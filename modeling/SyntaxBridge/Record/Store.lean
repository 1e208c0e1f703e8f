import SyntaxBridge.Record.Check

/-!
# Types and records by name

A store keeps types of records and records under names of their own. Declaring a type under a name
in use replaces the older type, but its records stay records of the type that they were made of. A
type extends the type of the name `object` if there is one.
-/

namespace SyntaxBridge.Record

/-- Types of records and records, by name. -/
structure Store where
  /-- The name of the place where the types are declared. -/
  home : String := ""
  /-- The types, of which the newest of a name counts. -/
  types : List RecordType := []
  /-- The records, of which the newest of a name counts. -/
  records : List (String × Value) := []
  /-- The number of types declared so far. -/
  declared : Nat := 0
  /-- The number of records made so far. -/
  made : Nat := 0

/-- An action on a store. What it did before it failed is not undone. -/
abbrev Session := ExceptT RecordError (StateM Store)

namespace Store

/-- The names of what types are made by. A type of one of these names takes its place, and no
further type can be made. -/
def makerNames : List String := ["TreeMeta", "__builtins__"]

/-- The name of the place where types are declared, which a type may take. -/
def homeName : String := "__name__"

/-- The names that are there without being declared and make no record. -/
def presentNames : List String := homeName :: makerNames

/-- The home of the types that are declared next. -/
def currentHome (store : Store) : Home :=
  match typeNamed? store.types homeName with
  | some type => .type type.serial type.shown
  | none => .place store.home

/-- Declare a type under a word. The word must be the very name that the type gets, or else the type
is declared but not found. -/
def declare (word schema : String) : Session RecordType := do
  let some name := typeNameOf? word | throw .malformedType
  let store ← get
  if makerNames.any fun name => (typeNamed? store.types name).isSome then throw .hiddenName
  let parent? := typeNamed? store.types "object"
  let inherited := match parent? with
    | some parent => (parent.fieldNames ++ parent.inherited).filter (· != "__doc__")
    | none => []
  let fields ← liftExcept (readDeclaration inherited schema)
  let parents := match parent? with
    | some parent => parent.serial :: parent.parents
    | none => []
  let type : RecordType :=
    { name, serial := store.declared, fields, schema, home := store.currentHome, parents,
      inherited }
  set { store with types := type :: store.types, declared := store.declared + 1 }
  if name ≠ word then throw (.unknown word)
  return type
where
  /-- An outcome as an action. -/
  liftExcept {α : Type} (outcome : Except RecordError α) : Session α :=
    liftM outcome

/-- Forget the record of a name. -/
def forget (name : String) : Session Unit :=
  modify fun store => { store with records := store.records.filter (·.1 != name) }

/-- The record of a name. -/
def find (name : String) : Session Value := do
  let some value := (← get).records.lookup name | throw (.unknown name)
  return value

/-- Make a record of a type and keep it under a name. -/
def create (name typeName : String) (values : List Value) : Session Value := do
  let store ← get
  let some type := typeNamed? store.types typeName
    | throw (if presentNames.contains typeName then .wrongCount else .unknown typeName)
  let value ← liftM (type.make store.types values store.made)
  set { store with records := (name, value) :: store.records, made := store.made + 1 }
  return value

/-- A record as it is shown in a message. -/
def describe (name : String) : Session String := do
  liftM (← find name).describe

/-- A field of a record, or what else the record has of a name, as it is shown in a message. -/
def describeField (name field : String) : Session String := do
  let value ← find name
  let found ← liftM (value.read field)
  if let .action name .. := found then
    if actionNames.contains name then
      return "<bound method " ++ name ++ " of " ++ (← liftM value.describe) ++ ">"
  liftM found.describe

/-- What stands for a record when it is counted among others. -/
def countKey (value : Value) : Session Value := do
  let store ← get
  match value, typeNamed? store.types "hash" with
  | .record type .., some counter =>
    let counted ← liftM (Value.countedBy type value)
    let _ ← liftM (counter.make store.types [.tuple counted] store.made)
    throw .hiddenName
  | _, _ => liftM value.countKey

/-- Whether two records are equal, and the number of different records among the two. -/
def compare (a b : String) : Session (Bool × Nat) := do
  let x ← find a
  let y ← find b
  let same ← liftM (x.same y)
  let keysAgree ← liftM ((← countKey x).same (← countKey y))
  return (same, if x.identical y || (same && keysAgree) then 1 else 2)

/-- No field of a record can be changed or removed. -/
def change (name : String) : Session Unit := do
  let .record type serial values ← find name | throw (.unknown name)
  let store ← get
  throw ((type.check store.types serial).refuseChange values)

end Store

end SyntaxBridge.Record
