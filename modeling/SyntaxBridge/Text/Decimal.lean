import SyntaxBridge.Text.Blank

/-!
# Decimal numbers

Numbers that are written with a point or an exponent. They are shown with the digits that were read,
without needless zeros: by position if the point is not far from the digits, and with an exponent
otherwise. Such a number is kept with 53 binary digits, so a large one is the whole number nearest
to what was written that has no more of them.
-/

namespace SyntaxBridge.Text

/-- A decimal number: a sign, digits, and the power of ten that they are multiplied by. -/
structure Decimal where
  /-- Whether the number has a minus sign. -/
  negative : Bool
  /-- The digits, of which the last is not zero unless all are. -/
  digits : Nat
  /-- The power of ten. -/
  exponent : Int
  deriving DecidableEq, Repr, Inhabited

namespace Decimal

/-- One and a number of zeros. -/
def powerOfTen (zeros : Nat) : Nat :=
  Nat.pow 10 zeros

/-- The number with its zeros at the end turned into powers of ten, given no more of them than a
bound. -/
def dropZeros (number : Decimal) : Nat → Decimal
  | 0 => number
  | bound + 1 =>
    if number.digits = 0 then { number with exponent := 0 }
    else if number.digits % 10 = 0 then
      dropZeros { number with digits := number.digits / 10, exponent := number.exponent + 1 } bound
    else number

/-- The number that a row of digits stands for. -/
def readDigits (cs : List Char) : Nat :=
  cs.foldl (fun n c => 10 * n + (c.toNat - '0'.toNat)) 0

/-- Read the power of ten after its mark. -/
def readExponent : List Char → Int
  | '-' :: cs => -(readDigits cs : Int)
  | '+' :: cs => readDigits cs
  | cs => readDigits cs

/-- The number that a text stands for: an optional minus sign, digits, then perhaps a point and
decimals, then perhaps a mark and a power of ten. -/
def read (cs : List Char) : Decimal :=
  let negative := cs.head? = some '-'
  let cs := if negative then cs.drop 1 else cs
  let whole := cs.takeWhile Char.isDigit
  let rest := cs.dropWhile Char.isDigit
  let decimals := if rest.head? = some '.' then (rest.drop 1).takeWhile Char.isDigit else []
  let rest := if rest.head? = some '.' then (rest.drop 1).dropWhile Char.isDigit else rest
  let digits := whole ++ decimals
  let number : Decimal :=
    { negative, digits := readDigits digits
      exponent := readExponent (rest.drop 1) - decimals.length }
  number.dropZeros (digits.length + 1)

/-- The number of binary digits that are kept. -/
def precision : Nat := 53

/-- The whole number nearest to a given one that has no more binary digits than are kept, followed
by zeros. A number halfway between two goes to the even one. -/
def nearest (n : Nat) : Nat :=
  let spare := n.log2 + 1 - precision
  let unit := Nat.pow 2 spare
  let low := n / unit
  let twice := 2 * (n % unit)
  let rounded := if twice > unit ∨ (twice = unit ∧ low % 2 = 1) then low + 1 else low
  rounded * unit

/-- The size of a number without its decimals. -/
def wholePart (number : Decimal) : Nat :=
  if 0 ≤ number.exponent then nearest (number.digits * powerOfTen number.exponent.toNat)
  else number.digits / powerOfTen (-number.exponent).toNat

/-- A number without its decimals. -/
def toInt (number : Decimal) : Int :=
  if number.negative then -(number.wholePart : Int) else number.wholePart

/-- The whole number that a number is, if it has no decimals. -/
def whole? (number : Decimal) : Option Int :=
  if 0 ≤ number.exponent then some number.toInt else none

/-- Whether a number lies between two whole numbers, both included, the first of which is not
zero. -/
def isWithin (number : Decimal) (low high : Nat) : Bool :=
  let whole := number.wholePart
  !number.negative && low ≤ whole && (whole < high || (whole == high && 0 ≤ number.exponent))

/-- Whether two numbers are the same. Zero has no sign. -/
def same (a b : Decimal) : Bool :=
  a.digits == b.digits && a.exponent == b.exponent && (a.negative == b.negative || a.digits == 0)

/-- The digits of a number by position, given that the point belongs after so many of them. -/
def showByPosition (digits : List Char) (point : Int) : List Char :=
  if point ≤ 0 then '0' :: '.' :: List.replicate (-point).toNat '0' ++ digits
  else if digits.length ≤ point.toNat then
    digits ++ List.replicate (point.toNat - digits.length) '0' ++ ['.', '0']
  else digits.take point.toNat ++ '.' :: digits.drop point.toNat

/-- The digits of a number with an exponent of at least two digits, given that the point belongs
after so many of them. -/
def showWithExponent (digits : List Char) (point : Int) : List Char :=
  let power := (toString (point - 1).natAbs).toList
  let mantissa := match digits with
    | first :: c :: cs => first :: '.' :: c :: cs
    | _ => digits
  mantissa ++ 'e' :: (if point - 1 < 0 then '-' else '+') ::
    (if power.length < 2 then '0' :: power else power)

/-- A number as it is shown: by position if its first digit stands at most sixteen places before the
point or four after it. -/
def text (number : Decimal) : String :=
  let digits := (toString number.digits).toList
  let point := digits.length + number.exponent
  let shown :=
    if -4 < point ∧ point ≤ 16 then showByPosition digits point
    else showWithExponent digits point
  String.ofList (if number.negative then '-' :: shown else shown)

end Decimal

end SyntaxBridge.Text
