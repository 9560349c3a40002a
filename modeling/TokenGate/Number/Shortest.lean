/-
The shortest decimal text of a binary floating-point number.

A number stands for every real that rounds to it (`Interval`); the ends belong to it if the
significand is even.  `shortest` tries one significant digit, two, and so on: on the grid of that
many digits only the value's two neighbours can lie in the interval, and the first grid with a hit
wins, of two hits the nearer.  `text` writes the digits with a point where the decimal exponent is
from -4 to 15 and with an exponent of at least two digits elsewhere.
-/
import TokenGate.Number.Binary64

namespace TokenGate.Binary64

/-- A positive number between the ends of the reals that round to it, all over one denominator. -/
structure Interval where
  lower : Nat
  value : Nat
  upper : Nat
  den : Nat
  closed : Bool
  deriving DecidableEq, Repr

/-- The reals that round to a positive number; below a power of two the neighbour is half as far. -/
def interval (significand : Nat) (exponent : Int) : Interval :=
  let lower := if significand = 1 <<< 52 && exponent > leastExponent then 4 * significand - 1
    else 4 * significand - 2
  let (scale, den) :=
    match exponent - 2 with
    | .ofNat e => (1 <<< e, 1)
    | .negSucc e => (1, 1 <<< (e + 1))
  ⟨lower * scale, 4 * significand * scale, (4 * significand + 2) * scale, den,
    significand % 2 == 0⟩

/-- The decimal `c * 10 ^ exponent` lies in the interval. -/
def Interval.holds (r : Interval) (c : Nat) (exponent : Int) : Bool :=
  let (p, q) :=
    match exponent with
    | .ofNat e => (c * Nat.pow 10 e * r.den, 1)
    | .negSucc e => (c * r.den, Nat.pow 10 (e + 1))
  if r.closed then r.lower * q ≤ p && p ≤ r.upper * q else r.lower * q < p && p < r.upper * q

/-- The number of decimal digits of a positive whole number. -/
def digitCount (n : Nat) : Nat := (Nat.toDigits 10 n).length

/-- The power of ten just above the value: it lies between that power's tenth and the power. -/
def Interval.magnitude (r : Interval) : Int :=
  if r.den ≤ r.value then digitCount (r.value / r.den)
  else
    let places := digitCount (r.den / r.value)
    if r.den ≤ r.value * Nat.pow 10 (places - 1) then 2 - (places : Int) else 1 - (places : Int)

/-- The value's two neighbours on the grid of a power of ten, and twice the distance from the lower
one against the grid's step. -/
def Interval.neighbours (r : Interval) (exponent : Int) : Nat × Nat × Ordering :=
  let (num, den) :=
    match exponent with
    | .ofNat e => (r.value, r.den * Nat.pow 10 e)
    | .negSucc e => (r.value * Nat.pow 10 (e + 1), r.den)
  (num / den, num / den + 1, compare (2 * (num % den)) den)

/-- The neighbour in the interval on the grid of a power of ten: the nearer one, of two equally
near the even one. -/
def Interval.pick? (r : Interval) (exponent : Int) : Option Nat :=
  let (below, above, nearer) := r.neighbours exponent
  match r.holds below exponent && below != 0, r.holds above exponent with
  | true, true =>
    match nearer with
    | .lt => some below
    | .gt => some above
    | .eq => some (if below % 2 = 0 then below else above)
  | true, false => some below
  | false, true => some above
  | false, false => none

/-- The first hit on ever finer grids: a whole number and its power of ten. -/
def Interval.search (r : Interval) : (grids : Nat) → (exponent : Int) → Nat × Int
  | 0, exponent => ((r.neighbours exponent).1, exponent)
  | grids + 1, exponent =>
    match r.pick? exponent with
    | some c => (c, exponent)
    | none => r.search grids (exponent - 1)

/-- The fewest digits that read back, and where the point stands before them: the value is about
`0.d₁d₂… * 10 ^ point`. -/
def shortest (significand : Nat) (exponent : Int) : List Char × Int :=
  let r := interval significand exponent
  let (c, e) := r.search 17 (r.magnitude - 1)
  let digits := Nat.toDigits 10 c
  let kept := (digits.reverse.dropWhile (· == '0')).reverse
  (kept, digits.length + e)

/-- The exponent of a number in scientific notation, with a sign and at least two digits. -/
def exponentText (n : Int) : List Char :=
  let digits := Nat.toDigits 10 n.natAbs
  (if n < 0 then '-' else '+') :: List.replicate (2 - digits.length) '0' ++ digits

/-- Digits around a point, or with an exponent. -/
def layOut (digits : List Char) (point : Int) : List Char :=
  if -4 < point && point ≤ 16 then
    if point ≤ 0 then ['0', '.'] ++ List.replicate point.natAbs '0' ++ digits
    else
      let whole := digits.take point.toNat ++ List.replicate (point.toNat - digits.length) '0'
      let fraction := digits.drop point.toNat
      whole ++ '.' :: (if fraction.isEmpty then ['0'] else fraction)
  else
    let fraction := digits.drop 1
    digits.take 1 ++ (if fraction.isEmpty then [] else '.' :: fraction) ++
      'e' :: exponentText (point - 1)

/-- The words for what is not a finite number. -/
structure Words where
  nan : String
  infinity : String

/-- The text of a number. -/
def text (words : Words) : Binary64 → String
  | nan => words.nan
  | infinite negative => (if negative then "-" else "") ++ words.infinity
  | finite negative m e =>
    let body := if m = 0 then ['0', '.', '0'] else
      let (digits, point) := shortest m e
      layOut digits point
    String.ofList ((if negative then ['-'] else []) ++ body)

/-- The text of a number in messages. -/
def plain (x : Binary64) : String := x.text ⟨"nan", "inf"⟩

end TokenGate.Binary64
