import SyntaxBridge.Record.Value

/-!
# Declaring a type of records

A schema declares a type if its fields can stand side by side. Their names must be proper, distinct
and none that every type keeps for itself, every type must be a word with a meaning, lists must not
be nested too deep, and a field that may be left out needs a zero value: lists have the empty one,
and of the other types only the three basic ones have any.
-/

namespace SyntaxBridge.Record

/-- The name under which a record is at hand while it is made. -/
def selfName : String := "self"

/-- The names of what every type has, which no field can have. -/
def typeMembers : List String :=
  ["__module__", "__schema__", "__slots__", "__fields__", "__init__", "__setattr__",
    "__delattr__", "__eq__", "__hash__", "__repr__"]

/-- The names of fields that make room for something of which there can be only one. -/
def uniqueNames : List String := ["__dict__", "__weakref__"]

/-- The name of the field that takes the place of what is done when a type is extended. -/
def extensionName : String := "__init_subclass__"

namespace FieldType

/-- The number of levels of lists. -/
def depth : FieldType → Nat
  | named _ => 0
  | list element => element.depth + 1

/-- The type of the innermost elements. -/
def innermost : FieldType → String
  | named name => name
  | list element => element.innermost

/-- The value that stands in for a missing one. -/
def zero? : FieldType → Option Value
  | named "string" => some (.text "")
  | named "bool" => some (.flag false)
  | named "int" => some (.integer 0)
  | named _ => none
  | list _ => some (.tuple [])

/-- The number of levels of lists that can be gone through at once. -/
def maxDepth : Nat := 20

/-- The number of levels of lists that can be written down. -/
def maxWrittenDepth : Nat := 98

/-- The number of levels of lists that can be read when a type is declared.

Lists that are nested too deep are refused at three depths, with an error for each, so a declaration
has all three limits. Reading a schema by itself (`Schema.parse`), or a category
(`Parser.cleanType`), refuses nothing for its depth: how deep that can go is no rule of the
notation, it depends on what the reader is called from. Only here is that always the same. -/
def maxReadDepth : Nat := 980

/-- Refuse a type that cannot be written down in a check. -/
def requireWritable (type : FieldType) : Except RecordError Unit :=
  if maxWrittenDepth < type.depth then .error .nestedTooDeep
  else if (TypeWord.read? type.innermost).isNone then .error .malformedType
  else .ok ()

end FieldType

/-- Refuse fields that cannot stand side by side, or not beside those of the types that are to be
extended, whose names are given. -/
def requireDeclarable (inherited : List String) (fields : List Field) :
    Except RecordError Unit := do
  if fields.any fun field => FieldType.maxReadDepth < field.type.depth then throw .endless
  if fields.any fun field => field.isOptional && field.type.zero?.isNone then throw .noZeroValue
  if !fields.all fun field => isProperName field.name then throw .malformedType
  fields.forM (·.type.requireWritable)
  let keys := selfName :: fields.map (·.key)
  if keys.eraseDups.length ≠ keys.length || keys.contains constantName ||
      fields.any (fun field => FieldType.maxDepth < field.type.depth) then
    throw .malformedType
  if fields.any fun field => uniqueNames.contains field.name && inherited.contains field.name then
    throw .hiddenName
  if let some field := fields.find? fun field => typeMembers.contains field.name then
    throw (.reservedField field.name)
  if inherited.contains extensionName then throw .hiddenName

/-- The fields of a schema, which can stand side by side, and beside those of the types that are to
be extended. -/
def readDeclaration (inherited : List String) (schema : String) :
    Except RecordError (List Field) := do
  let fields ← (Schema.parse schema).mapError .schema
  requireDeclarable inherited fields
  return fields

end SyntaxBridge.Record
