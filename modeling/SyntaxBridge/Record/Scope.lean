import SyntaxBridge.Record.Declare
import SyntaxBridge.Record.Equality

/-!
# Names in a check

What a name stands for while the values of a record are checked. The values of the fields come
first, then the types of records, last the names that are there without being declared: ground
types, types of which no value can be written, and names that are no types.
-/

namespace SyntaxBridge.Record

/-- The types that are there without being declared and of which values can be written. -/
inductive GroundType where
  | text
  | integer
  | flag
  | real
  | list
  | tuple
  | table
  /-- The type of types of records. -/
  | kind
  /-- The type of every value. -/
  | any
  /-- Any type of which no value can be written. -/
  | empty
  deriving DecidableEq, Repr

namespace GroundType

/-- The names of types of which no value can be written. -/
def emptyNames : List String :=
  ["ArithmeticError", "AssertionError", "AttributeError", "BaseException", "BaseExceptionGroup",
    "BlockingIOError", "BrokenPipeError", "BufferError", "BytesWarning", "ChildProcessError",
    "ConnectionAbortedError", "ConnectionError", "ConnectionRefusedError", "ConnectionResetError",
    "DeprecationWarning", "EOFError", "EncodingWarning", "EnvironmentError", "Exception",
    "ExceptionGroup", "FileExistsError", "FileNotFoundError", "FloatingPointError",
    "FutureWarning", "GeneratorExit", "IOError", "ImportError", "ImportWarning",
    "IndentationError", "IndexError", "InterruptedError", "IsADirectoryError", "KeyError",
    "KeyboardInterrupt", "LookupError", "MemoryError", "ModuleNotFoundError", "NameError",
    "NotADirectoryError", "NotImplementedError", "OSError", "OverflowError",
    "PendingDeprecationWarning", "PermissionError", "ProcessLookupError", "RecursionError",
    "ReferenceError", "ResourceWarning", "RuntimeError", "RuntimeWarning", "StopAsyncIteration",
    "StopIteration", "SyntaxError", "SyntaxWarning", "SystemError", "SystemExit", "TabError",
    "TimeoutError", "TypeError", "UnboundLocalError", "UnicodeDecodeError", "UnicodeEncodeError",
    "UnicodeError", "UnicodeTranslateError", "UnicodeWarning", "UserWarning", "ValueError",
    "Warning", "ZeroDivisionError", "__loader__", "bytearray", "bytes", "classmethod", "complex",
    "enumerate", "filter", "frozenset", "map", "memoryview", "property", "range", "reversed",
    "set", "slice", "staticmethod", "super", "zip"]

/-- The ground type of a name. -/
def ofName? : String → Option GroundType
  | "str" => some text
  | "int" => some integer
  | "bool" => some flag
  | "float" => some real
  | "list" => some list
  | "tuple" => some tuple
  | "dict" => some table
  | "type" | "TreeMeta" => some kind
  | "object" => some any
  | name => if emptyNames.contains name then some empty else none

/-- Whether a value is of a ground type. A truth value counts as an integer. -/
def holds : GroundType → Value → Bool
  | text, .text _ => true
  | integer, .integer _ => true
  | integer, .flag _ => true
  | flag, .flag _ => true
  | real, .real _ => true
  | list, .list _ => true
  | tuple, .tuple _ => true
  | table, .table .. => true
  | kind, .kind .. => true
  | any, _ => true
  | _, _ => false

end GroundType

/-- The names that are there without being declared and are no types. -/
def plainNames : List String :=
  ["Ellipsis", "False", "None", "NotImplemented", "True", "__build_class__", "__import__",
    "__spec__", "abs", "aiter", "all", "anext", "any", "ascii", "bin", "breakpoint", "callable",
    "chr", "compile", "copyright", "credits", "delattr", "dir", "divmod", "eval", "exec", "exit",
    "format", "getattr", "globals", "hasattr", "hash", "help", "hex", "id", "input", "isinstance",
    "issubclass", "iter", "len", "license", "locals", "max", "min", "next", "oct", "open", "ord",
    "pow", "print", "quit", "repr", "round", "setattr", "sorted", "sum", "vars"]

/-- The value of a name that is there without being declared and is no type. Of a text and of a
table only matters whether there is anything in it. -/
def plainValue? : String → Option Value
  | "__name__" | "__doc__" => some (.text "name")
  | "__package__" => some (.text "")
  | "__builtins__" => some (.table ["name"] [.null])
  | name => if plainNames.contains name then some .null else none

/-- The values at hand during a check, by name; the newest of a name comes first. -/
abbrev Scope := List (String × Value)

namespace Scope

/-- Put a value under a name. -/
def set (scope : Scope) (name : String) (value : Value) : Scope :=
  (name, value) :: scope

/-- The value under a name, which is there. -/
def get (scope : Scope) (name : String) : Value :=
  (scope.lookup name).getD .null

end Scope

/-- The type of records of a name, the newest of which comes first. -/
def typeNamed? (types : List RecordType) (name : String) : Option RecordType :=
  types.find? (·.name == name)

/-- What a word stands for where a type is expected. -/
inductive Meaning where
  /-- A value, which may be a type of records or a choice of types. -/
  | value (value : Value)
  /-- A ground type. -/
  | ground (type : GroundType)

/-- What a word stands for. A name that is set while the items of lists are gone through stands for
nothing before the first of them. -/
def TypeWord.meaning (types : List RecordType) (itemNames : List String) (scope : Scope) :
    TypeWord → Except RecordError Meaning
  | .constant => .ok (.value .null)
  | .named key =>
    match scope.lookup key with
    | some value => .ok (.value value)
    | none =>
      if itemNames.contains key then .error (.unsetName key)
      else
        match typeNamed? types key, GroundType.ofName? key, plainValue? key with
        | some type, _, _ => .ok (.value type.value)
        | none, some type, _ => .ok (.ground type)
        | none, none, some value => .ok (.value value)
        | none, none, none => .error (.undefinedType key)

namespace Value

/-- Whether one of some values passes a test, each tried only if none before it passed. -/
def anyPasses (test : Value → Except RecordError Bool) : List Value → Except RecordError Bool
  | [] => .ok false
  | value :: values => do
    if ← test value then return true else anyPasses test values

/-- The values that a value tells to be the bases that it is made on, if it tells any. -/
def bases? (value : Value) : Except RecordError (Option (List Value)) := do
  match ← value.read? "__bases__" with
  | some (.tuple bases) => return some bases
  | _ => return none

/-- Whether a value is a given record, or one of its bases leads to that record, with no more than a
number of values in between. -/
def leadsToWithin (serial : Nat) : Nat → Value → Except RecordError Bool
  | 0, _ => .error .endless
  | left + 1, value => do
    if let record _ i _ := value then
      if i == serial then return true
    match ← value.bases? with
    | some bases => anyPasses (leadsToWithin serial left) bases
    | none => return false

/-- Whether a value is a record of a type, or of one that extends it. -/
def isRecordOf (value : Value) (serial : Nat) : Bool :=
  match value with
  | record type .. => type.serial == serial || type.parents.contains serial
  | _ => false

/-- Whether a value is of what another one stands for, with no more than a number of choices around
that: a type, one of some, or a record that tells what it is based on. A value that is not of a type
at first sight is asked for its type. -/
def isOfWithin (value : Value) : Nat → Value → Except RecordError Bool
  | 0, _ => .error .endless
  | left + 1, choice =>
    match choice with
    | kind serial _ => do
      if value.isRecordOf serial then return true
      let _ ← value.read? typeFieldName
      return false
    | tuple choices => anyPasses (isOfWithin value left) choices
    | record type serial values => do
      if let some e := type.useFailure? values "__instancecheck__" then throw e
      if (← choice.bases?).isNone then throw .notAType
      match ← value.read? typeFieldName with
      | some told => told.leadsToWithin serial maxUnderWay
      | none => return false
    | _ => .error .notAType

end Value

/-- Whether a value is of what a word stands for. -/
def Meaning.holds (meaning : Meaning) (value : Value) : Except RecordError Bool :=
  match meaning with
  | .value choice => value.isOfWithin maxUnderWay choice
  | .ground type => do
    if type.holds value then return true
    let _ ← value.read? typeFieldName
    return false

end SyntaxBridge.Record
