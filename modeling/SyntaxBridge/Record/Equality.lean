import SyntaxBridge.Record.Description

/-!
# Equal values

Values are compared by content: a truth value equals the number that it counts as, and a list never
equals a tuple. Two records are equal if they tell the very same type and agree in the fields that
are compared. Values inside of others are equal in any case if they are one and the same object.

A value may be counted among others unless it holds a list or a table, which could change. Two
values count as one if they are equal and are counted by equal keys.
-/

namespace SyntaxBridge.Record.Value

/-- Whether values agree one by one. -/
def allSame (same : Value → Value → Except RecordError Bool) :
    List Value → List Value → Except RecordError Bool
  | a :: as, b :: bs =>
    if a.identical b then allSame same as bs
    else do
      if ← same a b then allSame same as bs else return false
  | _, _ => .ok true

/-- Whether two records are equal, read through the fields of the first one. -/
def sameRecords (same : Value → Value → Except RecordError Bool) (a : Value) (type : RecordType)
    (b : Value) (isOne : Bool) : Except RecordError Bool := do
  let x ← a.read typeFieldName
  let y ← b.read typeFieldName
  if isOne || x.identical y then
    let xs ← type.readCompared a
    let ys ← type.readCompared b
    if isOne then return true else allSame same xs ys
  else return false

/-- Whether two values are equal, with no more than a number of values around them. A record whose
type extends that of the other is asked first. -/
def sameWithin : Nat → Value → Value → Except RecordError Bool
  | 0, _, _ => .error .endless
  | left + 1, a, b =>
    match a, b with
    | null, null => .ok true
    | text x, text y => .ok (x == y)
    | list xs, list ys =>
      if xs.length == ys.length then allSame (sameWithin left) xs ys else .ok false
    | tuple xs, tuple ys => do
      return (← allSame (sameWithin left) xs ys) && xs.length == ys.length
    | record s i _, record t j _ =>
      if t.parents.contains s.serial then sameRecords (sameWithin left) b t a (i == j)
      else sameRecords (sameWithin left) a s b (i == j)
    | record .., _ => do
      let _ ← a.requireType
      return false
    | _, record .. => do
      let _ ← b.requireType
      return false
    | kind i _, kind j _ => .ok (i == j)
    | action x p i, action y q j => .ok (x == y && p == q && i == j)
    | _, _ => .ok (sameNumber a b)

/-- Whether two values are equal. -/
def same (a b : Value) : Except RecordError Bool :=
  sameWithin maxUnderWay a b

/-- What a record is counted by: the type that it tells, and the fields that are compared. -/
def countedBy (type : RecordType) (value : Value) : Except RecordError (List Value) :=
  return (← value.read typeFieldName) :: (← type.readCompared value)

/-- What stands for a value when it is counted among others, with no more than a number of values
around it. It holds no records: what a record is counted by stands for it. -/
def countKeyWithin : Nat → Value → Except RecordError Value
  | 0, _ => .error .endless
  | left + 1, value =>
    match value with
    | list _ | table .. => .error .notCountable
    | tuple items => return tuple (← items.mapM (countKeyWithin left))
    | record type .. => return tuple (← (← countedBy type value).mapM (countKeyWithin left))
    | _ => .ok value

/-- What stands for a value when it is counted among others. -/
def countKey (value : Value) : Except RecordError Value :=
  value.countKeyWithin maxUnderWay

end SyntaxBridge.Record.Value
