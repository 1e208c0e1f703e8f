/-!
# Choosing a handler by type

A dispatcher is made from definitions, each of a handler under a name. A handler that is defined
under a name in use replaces the older one in its place. The handlers that are left are entered in a
table, in order, each under the types that it is for, and there as well the newer entry replaces the
older one. A value is passed to the handler that the table holds for its type.
-/

namespace SyntaxBridge.Record

/-- Values by keys, in the order in which the keys came. -/
abbrev Table (κ ν : Type) := List (κ × ν)

namespace Table

variable {κ ν : Type} [DecidableEq κ]

/-- Put a value under a key: in the place of the value that is there, or at the end. -/
def put (key : κ) (value : ν) : Table κ ν → Table κ ν
  | [] => [(key, value)]
  | entry :: table =>
    if entry.1 = key then (key, value) :: table else entry :: put key value table

/-- The table that some values are put into one by one. -/
def ofList (entries : List (κ × ν)) : Table κ ν :=
  entries.foldl (fun table entry => put entry.1 entry.2 table) []

/-- The values, in the order of their keys. -/
def values (table : Table κ ν) : List ν :=
  table.map (·.2)

end Table

/-- A handler. -/
structure Handler (τ α β : Type) where
  /-- The types that it is for, if it is for any. -/
  types : Option (List τ)
  /-- What it makes of a value and of what is passed along with it. -/
  run : α → List α → β

/-- The entries of a handler in a table by type. -/
def Handler.entries {τ α β : Type} (handler : Handler τ α β) : List (τ × Handler τ α β) :=
  (handler.types.getD []).map fun type => (type, handler)

/-- The refusal of a value for whose type there is no handler. -/
structure CannotVisit (τ : Type) where
  /-- The dispatcher, as it is shown. -/
  dispatcher : String
  /-- The type of the value. -/
  type : τ
  deriving DecidableEq, Repr

/-- The wording of a refusal. -/
def CannotVisit.message {τ : Type} (shown : τ → String) (refusal : CannotVisit τ) : String :=
  refusal.dispatcher ++ " cannot visit " ++ shown refusal.type

/-- A choice of handlers by type. -/
structure Dispatcher (τ α β : Type) where
  /-- The dispatcher as it is shown. -/
  shown : String
  /-- The handler for each type that there is one for. -/
  table : Table τ (Handler τ α β)

namespace Dispatcher

variable {τ α β : Type} [DecidableEq τ]

/-- The dispatcher with handlers that are defined under names, one by one. -/
def ofDefinitions (shown : String) (definitions : List (String × Handler τ α β)) :
    Dispatcher τ α β :=
  { shown, table := .ofList ((Table.ofList definitions).values.flatMap Handler.entries) }

/-- Pass a value and others along with it to the handler for its type. -/
def visit (dispatcher : Dispatcher τ α β) (typeOf : α → τ) (value : α) (others : List α) :
    Except (CannotVisit τ) β :=
  match dispatcher.table.lookup (typeOf value) with
  | some handler => .ok (handler.run value others)
  | none => .error { dispatcher := dispatcher.shown, type := typeOf value }

end Dispatcher

end SyntaxBridge.Record
