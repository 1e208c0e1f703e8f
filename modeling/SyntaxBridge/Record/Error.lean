import SyntaxBridge.Record.Schema

/-!
# Errors of records

What can go wrong when a type of records is declared and when records are made and used.
-/

namespace SyntaxBridge.Record

/-- What can go wrong with records. -/
inductive RecordError where
  /-- The schema of a type cannot be read. -/
  | schema (error : SchemaError)
  /-- A field may be left out but has no value to stand in for a missing one. -/
  | noZeroValue
  /-- A type has no proper name, its fields cannot be declared together, or one of them not at
  all. -/
  | malformedType
  /-- A field is a list of lists of lists, and so on, far too many times. -/
  | nestedTooDeep
  /-- A field has a name that every type keeps for itself. -/
  | reservedField (name : String)
  /-- A record is given too few values or too many. -/
  | wrongCount
  /-- A value is not of the type of its field. -/
  | mismatch
  /-- A value for a list cannot be gone through. -/
  | notIterable
  /-- A value that should be a number is none. -/
  | notANumber
  /-- The type of a field is no type. -/
  | notAType
  /-- A field or a type hides a name that records rely on. -/
  | hiddenName
  /-- The type of a field is not declared. -/
  | undefinedType (name : String)
  /-- The type of a field is named like an item of a list, of which there has been none. -/
  | unsetName (name : String)
  /-- Checking a value takes a check of the same kind, without end. -/
  | endless
  /-- A record has no such field. -/
  | noField (type name : String)
  /-- A record cannot keep a value under a name that the system uses. -/
  | notWritable (type name : String)
  /-- A record cannot be changed. -/
  | immutable (type : String)
  /-- A record holds a list, so it cannot be counted among others. -/
  | notCountable
  /-- No type or record has this name. -/
  | unknown (name : String)
  deriving DecidableEq, Repr

/-- The wording of an error, where it has one. -/
def RecordError.message? : RecordError → Option String
  | schema error => some error.message
  | reservedField name => some (Text.quoted name ++ " in __slots__ conflicts with class variable")
  | noField type name => some ("'" ++ type ++ "' object has no attribute '" ++ name ++ "'")
  | notWritable type name =>
    some ("attribute '" ++ name ++ "' of '" ++ type ++ "' objects is not writable")
  | immutable type => some (type ++ " is immutable")
  | _ => none

end SyntaxBridge.Record
