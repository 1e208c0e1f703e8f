import SyntaxBridge.Text.Blank
import SyntaxBridge.Text.Letter
import SyntaxBridge.Text.Quoted

/-!
# Schemas of records

A schema declares the fields of a record. It is a sequence of fields, each of them a name, a colon
and a type, perhaps followed by attributes in brackets:

`label:string parts:[]string line:int@[no_compare, optional]`

A type is a word, with `[]` before it for each level of lists. White space may stand anywhere but
inside a type, and must stand where two words would run together.
-/

namespace SyntaxBridge.Record

open Text

/-- The type of a field. -/
inductive FieldType where
  /-- A type of the given name. -/
  | named (name : String)
  /-- Lists of a type. -/
  | list (element : FieldType)
  deriving DecidableEq, Repr

/-- A field of a record. -/
structure Field where
  /-- The name of the field. -/
  name : String
  /-- The type of its values. -/
  type : FieldType
  /-- Its attributes, in order. -/
  attributes : List String
  deriving DecidableEq, Repr

namespace Field

/-- Whether a value for the field may be left out. -/
def isOptional (field : Field) : Bool :=
  field.attributes.contains "optional"

/-- Whether two records with different values of the field differ. -/
def isCompared (field : Field) : Bool :=
  !field.attributes.contains "no_compare"

end Field

/-- What is wrong with a schema. -/
inductive SchemaCause where
  /-- A mark that belongs here is missing. -/
  | missingMark (mark : Char)
  /-- A field has no type. -/
  | missingType
  /-- The elements of a list have no type. -/
  | missingElementType
  /-- A comma is followed by no attribute. -/
  | missingAttribute
  /-- A field that must be given follows one that may be left out. -/
  | requiredAfterOptional (name : String)
  /-- No field starts with this character. -/
  | unexpected (c : Char)
  deriving DecidableEq, Repr

/-- The wording of a cause. -/
def SchemaCause.message : SchemaCause → String
  | missingMark mark => "Missing " ++ quoted (String.singleton mark)
  | missingType => "Missing type"
  | missingElementType => "Missing type ref"
  | missingAttribute => "Missing attr"
  | requiredAfterOptional name => "Required field " ++ quoted name ++ " follows an optional one"
  | unexpected c => "Unexpected " ++ quoted (String.singleton c)

/-- A fault of a schema, and how much of the schema was still to be read when it was found. -/
structure SchemaFault where
  /-- What is wrong. -/
  cause : SchemaCause
  /-- The number of characters that were not read. -/
  left : Nat
  deriving DecidableEq, Repr

/-- An error of a schema. -/
structure SchemaError where
  /-- What is wrong. -/
  cause : SchemaCause
  /-- The number of characters before the fault. -/
  position : Nat
  /-- The schema. -/
  schema : String
  deriving DecidableEq, Repr

/-- The wording of an error with its place and the schema. -/
def SchemaError.message (e : SchemaError) : String :=
  e.cause.message ++ " @ " ++ toString e.position ++ ": " ++ quoted e.schema

namespace Schema

/-- A fault at the start of what is left. -/
def fault {α : Type} (cause : SchemaCause) (left : List Char) : Except SchemaFault α :=
  .error ⟨cause, left.length⟩

/-- Read a word, which may be empty. -/
def readWord (cs : List Char) : String × List Char :=
  (String.ofList (cs.takeWhile isWordChar), cs.dropWhile isWordChar)

/-- Read a mark that must be here. -/
def readMark (mark : Char) : List Char → Except SchemaFault (List Char)
  | c :: cs => if c = mark then .ok cs else fault (.missingMark mark) (c :: cs)
  | [] => fault (.missingMark mark) []

/-- Read a type, if one starts here. -/
def readType : List Char → Except SchemaFault (Option FieldType × List Char)
  | '[' :: ']' :: cs => do
    match ← readType cs with
    | (some element, rest) => return (some (.list element), rest)
    | (none, rest) => fault .missingElementType rest
  | cs =>
    let (word, rest) := readWord cs
    return (if word.isEmpty then none else some (.named word), rest)

/-- What follows a word is no longer than the text that the word starts. -/
theorem readWord_length_le (cs : List Char) : (readWord cs).2.length ≤ cs.length :=
  (List.dropWhile_sublist _).length_le

/-- What follows white space is no longer than the text that the white space starts. -/
theorem trimStart_length_le (cs : List Char) : (trimStart cs).length ≤ cs.length :=
  (List.dropWhile_sublist _).length_le

/-- Read the attributes that follow the first one, each after a comma. -/
def readMoreAttributes (cs : List Char) : Except SchemaFault (List String × List Char) :=
  match h : trimStart cs with
  | ',' :: afterComma =>
    let read := readWord (trimStart afterComma)
    have : read.2.length < cs.length := by
      have afterBlank := trimStart_length_le cs
      rw [h, List.length_cons] at afterBlank
      have := trimStart_length_le afterComma
      have : read.2.length ≤ _ := readWord_length_le (trimStart afterComma)
      omega
    if read.1.isEmpty then fault .missingAttribute (trimStart afterComma)
    else do
      let (words, rest) ← readMoreAttributes read.2
      return (read.1 :: words, rest)
  | rest => return ([], rest)
termination_by cs.length

/-- Read the attributes of a field, if it has any. -/
def readAttributes : List Char → Except SchemaFault (List String × List Char)
  | '@' :: cs => do
    let cs := trimStart (← readMark '[' (trimStart cs))
    let (word, rest) := readWord cs
    let (words, rest) ← if word.isEmpty then pure ([], cs) else do
      let (words, rest) ← readMoreAttributes rest
      pure (word :: words, rest)
    return (words, ← readMark ']' (trimStart rest))
  | cs => return ([], cs)

/-- Read a field, if one starts here. -/
def readField (cs : List Char) : Except SchemaFault (Option Field × List Char) := do
  let (name, rest) := readWord cs
  if name.isEmpty then return (none, cs)
  let rest ← readMark ':' (trimStart rest)
  match ← readType (trimStart rest) with
  | (none, rest) => fault .missingType rest
  | (some type, rest) =>
    let (attributes, rest) ← readAttributes (trimStart rest)
    return (some { name, type, attributes }, rest)

/-- Read fields to the end. Once a field may be left out, so must those after it. Reading a field
always takes some characters, which the last test makes plain. -/
def readFields (afterOptional : Bool) (cs : List Char) : Except SchemaFault (List Field) :=
  match readField (trimStart cs) with
  | .error e => .error e
  | .ok (none, []) => .ok []
  | .ok (none, c :: rest) => fault (.unexpected c) (c :: rest)
  | .ok (some field, rest) =>
    if afterOptional && !field.isOptional then fault (.requiredAfterOptional field.name) rest
    else if rest.length < cs.length then
      (field :: ·) <$> readFields (afterOptional || field.isOptional) rest
    else .ok [field]
termination_by cs.length

/-- The fields that a schema declares. -/
def parse (schema : String) : Except SchemaError (List Field) :=
  (readFields false schema.toList).mapError fun e =>
    { cause := e.cause, position := schema.length - e.left, schema }

end Schema

end SyntaxBridge.Record
