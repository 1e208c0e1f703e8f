import SyntaxBridge.Record.Attribute

/-!
# Showing values

How values are shown in messages. A record is shown as the name of its type and the fields that are
compared, between parentheses. Each of them is read and shown before the next one is read.
-/

namespace SyntaxBridge.Record

namespace RecordType

/-- The keys of the fields that are compared. -/
def comparedKeys (type : RecordType) : List String :=
  (type.fields.filter (·.isCompared)).map (·.key)

/-- Read the fields of a record that are compared in a type. -/
def readCompared (type : RecordType) (value : Value) : Except RecordError (List Value) :=
  type.comparedKeys.mapM value.read

end RecordType

namespace Value

/-- Items between brackets, in the way that tuples are shown: a single item is followed by a
comma. -/
def showTuple : List String → String
  | [item] => "(" ++ item ++ ",)"
  | items => "(" ++ ", ".intercalate items ++ ")"

/-- A value as it is printed, given how it is shown: a text as it is, and any other value as it is
shown. A field may replace how a record is printed. -/
def printWith (describe : Value → Except RecordError String) (value : Value) :
    Except RecordError String :=
  match value with
  | text content => .ok content
  | record type _ values =>
    match type.useFailure? values "__str__" with
    | some e => .error e
    | none => describe value
  | _ => describe value

/-- A value as it is shown in a message, with no more than a number of values around it. Some
actions are shown with their record, so a record that has one of them among its fields cannot be
shown. -/
def describeWithin : Nat → Value → Except RecordError String
  | 0, _ => .error .endless
  | left + 1, value =>
    match value with
    | null => .ok "None"
    | flag set => .ok (if set then "True" else "False")
    | integer n => .ok (toString n)
    | real number => .ok number.text
    | text content => .ok (Text.quoted content)
    | list items => do
      return "[" ++ ", ".intercalate (← items.mapM (describeWithin left)) ++ "]"
    | tuple items => return showTuple (← items.mapM (describeWithin left))
    | table keys values => do
      let shown ← values.mapM (describeWithin left)
      let entries := List.zipWith (fun key value => Text.quoted key ++ ": " ++ value) keys shown
      return "\x7b" ++ ", ".intercalate entries ++ "\x7d"
    | record type serial values => do
      let name ← (← readTypeName type serial values).printWith (describeWithin left)
      let fields ← type.comparedKeys.mapM fun key => do
        describeWithin left (← value.read key)
      return name ++ "(" ++ ", ".intercalate fields ++ ")"
    | kind _ shown => .ok shown
    | action name .. =>
      if actionNames.contains name then .error .endless else .ok ("<method " ++ name ++ ">")

/-- A value as it is shown in a message. -/
def describe (value : Value) : Except RecordError String :=
  value.describeWithin maxUnderWay

/-- A value as it is printed. -/
def print (value : Value) : Except RecordError String :=
  value.printWith describe

/-- A value as it is printed, or nothing if that cannot be. -/
def plain (value : Value) : String :=
  value.print.toOption.getD ""

/-- A value that fills the one gap of a message. A tuple stands for the one value that it should
hold, and is found to hold more once the first one is printed. -/
def fillGap (value : Value) : Except RecordError String :=
  match value with
  | tuple [] => .error .wrongCount
  | tuple (item :: others) => do
    let shown ← item.print
    if others.isEmpty then return shown else throw .wrongCount
  | _ => value.print

end Value

end SyntaxBridge.Record
