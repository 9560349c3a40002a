/-
Numbers that count seconds: whole, or with a fraction.

A clock is such a number.  `isBefore` and `reached` compare it with a whole second exactly;
`plus` and `minus` move a whole second by a duration.  A number that is not a number is neither
before nor after anything.
-/
import TokenGate.Datum.Integer

namespace TokenGate

/-- A number of seconds. -/
inductive Number where
  | int (value : Int)
  | float (value : Binary64)
  deriving DecidableEq, Repr

namespace Number

/-- The number as a value. -/
def toDatum : Number → Datum
  | int n => .int n
  | float x => .float x

/-- The number without its fraction. -/
def toInteger (x : Number) : Except IntegerFault Int := x.toDatum.toInteger

/-- The number is below zero. -/
def isNegative : Number → Bool
  | int n => n < 0
  | float x => x.isNegative

/-- How the number compares with an integer. -/
def order (x : Number) (n : Int) : Option Ordering :=
  match x with
  | int m => some (compare m n)
  | float x => x.order n

/-- The whole second lies after the clock. -/
def isBefore (clock : Number) (second : Int) : Bool := clock.order second == some .lt

/-- The clock has come to the whole second, or is past it. -/
def reached (clock : Number) (second : Int) : Bool :=
  match clock.order second with
  | some .eq | some .gt => true
  | _ => false

/-- A whole second moved by a duration with a fraction, unless the second is beyond the range of
such numbers. -/
def moveBy (second : Int) (duration : Binary64) : Option Number :=
  match Binary64.ofInt second with
  | .finite negative m e => some (.float ((Binary64.finite negative m e).add duration))
  | _ => none

/-- A whole second moved into the future. -/
def plus (second : Int) : Number → Option Number
  | int n => some (.int (second + n))
  | float x => moveBy second x

/-- A whole second moved into the past. -/
def minus (second : Int) : Number → Option Number
  | int n => some (.int (second - n))
  | float x => moveBy second x.neg

end Number

/-- The number that a value is; truth values count as one and zero. -/
def Datum.number? : Datum → Option Number
  | .int n => some (.int n)
  | .bool b => some (.int (if b then 1 else 0))
  | .float x => some (.float x)
  | _ => none

end TokenGate
