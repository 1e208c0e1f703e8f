import SyntaxBridge.Record.Error
import SyntaxBridge.Record.Word
import SyntaxBridge.Text.Decimal

/-!
# Values of records

The values that a record may hold, and the records themselves, which are values too. Values are told
apart by what they hold, save that some comparisons ask whether two of them are the same object.
-/

namespace SyntaxBridge.Record

open Text

/-- The name that a field is read by. It is the compatible form of the name that it is kept under,
so a field whose name is another one cannot be read. -/
def Field.key (field : Field) : String :=
  nameOf field.name

/-- Where a type is declared: at a place of some name, or under a type that took that name. -/
inductive Home where
  | place (name : String)
  | type (serial : Nat) (shown : String)
  deriving DecidableEq, Repr

/-- A type of records. Declaring a type anew makes a different type, even under the same name. -/
structure RecordType where
  /-- The name of the type. -/
  name : String
  /-- The number of types that were declared before it. -/
  serial : Nat
  /-- Its fields, in order. -/
  fields : List Field
  /-- The schema that declares its fields. -/
  schema : String := ""
  /-- Where it is declared. -/
  home : Home := .place ""
  /-- The serial numbers of the types that it extends. -/
  parents : List Nat := []
  /-- The names of the fields of the types that it extends. Its records have these fields too, but
  never a value for them. -/
  inherited : List String := []
  deriving DecidableEq, Repr

/-- A value. -/
inductive Value where
  | null
  | flag (set : Bool)
  | integer (n : Int)
  | real (number : Decimal)
  | text (content : String)
  | list (items : List Value)
  | tuple (items : List Value)
  /-- Values by keys, which are texts. -/
  | table (keys : List String) (values : List Value)
  /-- A record of a type, with the number of records made before it and a value for each of the
  fields that the type itself declares. While the record is being made it has no values yet. -/
  | record (type : RecordType) (serial : Nat) (values : List Value)
  /-- A type of records, by its serial number, and as it is shown. -/
  | kind (serial : Nat) (shown : String)
  /-- Something that can be done with the record, or the type, of a serial number. -/
  | action (name : String) (ofType : Bool) (serial : Nat)
  deriving Repr, Inhabited

/-- The value that stands for a home. -/
def Home.value : Home → Value
  | place name => .text name
  | type serial shown => .kind serial shown

namespace RecordType

/-- The names of the fields that a type declares. -/
def fieldNames (type : RecordType) : List String :=
  type.fields.map (·.name)

/-- Whether the records of a type have a field of a name. -/
def hasSlot (type : RecordType) (name : String) : Bool :=
  type.fieldNames.contains name || type.inherited.contains name

/-- The type as it is shown in a message. -/
def shown (type : RecordType) : String :=
  match type.home with
  | .place home => "<class '" ++ home ++ "." ++ type.name ++ "'>"
  | .type .. => "<class '" ++ type.name ++ "'>"

/-- The type as a value. -/
def value (type : RecordType) : Value :=
  .kind type.serial type.shown

end RecordType

namespace Value

/-- The name of the type of a value. -/
def typeName : Value → String
  | null => "NoneType"
  | flag _ => "bool"
  | integer _ => "int"
  | real _ => "float"
  | text _ => "str"
  | list _ => "list"
  | tuple _ => "tuple"
  | table .. => "dict"
  | record type .. => type.name
  | kind .. => "type"
  | action .. => "method"

/-- The number that a value counts as, if it does: a whole one, or one with decimals. -/
def number? : Value → Option (Int ⊕ Decimal)
  | flag set => some (.inl (if set then 1 else 0))
  | integer n => some (.inl n)
  | real number => some (.inr number)
  | _ => none

/-- Whether two values count as the same number. -/
def sameNumber (a b : Value) : Bool :=
  match a.number?, b.number? with
  | some (.inl m), some (.inl n) => m == n
  | some (.inr x), some (.inr y) => x.same y
  | some (.inl n), some (.inr x) | some (.inr x), some (.inl n) => x.whole? == some n
  | _, _ => false

/-- The items of a value that can be gone through: those of a list or a tuple, the characters of a
text, the keys of a table. -/
def items? : Value → Option (List Value)
  | list items => some items
  | tuple items => some items
  | text content => some (content.toList.map fun c => text (String.singleton c))
  | table keys _ => some (keys.map text)
  | _ => none

/-- Whether a value counts as nothing: no value, zero, or an empty text or sequence. -/
def isEmpty : Value → Bool
  | null => true
  | flag set => !set
  | integer n => n == 0
  | real number => number.digits == 0
  | text content => content.isEmpty
  | list items => items.isEmpty
  | tuple items => items.isEmpty
  | table keys _ => keys.isEmpty
  | _ => false

/-- Whether a whole number is always the same object: it is a small one. -/
def isSharedInteger (n : Int) : Bool :=
  -5 ≤ n && n ≤ 256

/-- Whether a text is always the same object: it is empty, or a single character of one byte. -/
def isSharedText (content : String) : Bool :=
  match content.toList with
  | [] => true
  | [c] => c.toNat < 256
  | _ => false

/-- Whether two values from different places are one and the same object. Equal values need not be:
only those of which there is no second one are shared, and records are known by their number. -/
def identical : Value → Value → Bool
  | null, null => true
  | flag a, flag b => a == b
  | integer a, integer b => a == b && isSharedInteger a
  | text a, text b => a == b && isSharedText a
  | tuple [], tuple [] => true
  | record _ i _, record _ j _ => i == j
  | kind i _, kind j _ => i == j
  | _, _ => false

end Value

end SyntaxBridge.Record
