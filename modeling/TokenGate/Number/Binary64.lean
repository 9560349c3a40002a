/-
Binary floating-point numbers of 64 bits, as exact values.

A finite number is a sign, a significand below `2 ^ 53` and an exponent of two; nothing here uses
machine arithmetic.  `ofRatio` rounds a quotient to the nearest number, a tie to the even
significand; integers, decimals and sums all go through it.  `truncate` drops the fraction, and
`order` compares with an integer exactly.
-/

namespace TokenGate

/-- A binary floating-point number: not a number, an infinity, or a signed significand times a
power of two. -/
inductive Binary64 where
  | nan
  | infinite (negative : Bool)
  | finite (negative : Bool) (significand : Nat) (exponent : Int)
  deriving DecidableEq, Repr

namespace Binary64

/-- The exponent of the smallest numbers. -/
def leastExponent : Int := -1074

/-- The exponent of the largest numbers. -/
def greatestExponent : Int := 971

/-- Zero, which keeps a sign. -/
def zero (negative : Bool) : Binary64 := .finite negative 0 leastExponent

/-! ### Rounding -/

/-- A quotient rounded to a whole number, a half to the even neighbour. -/
def roundHalfEven (num den : Nat) : Nat :=
  let quotient := num / den
  let rest := num % den
  if 2 * rest > den || (2 * rest == den && quotient % 2 == 1) then quotient + 1 else quotient

/-- Numerator and denominator of a quotient divided by a power of two. -/
def scaleDown (num den : Nat) (exponent : Int) : Nat × Nat :=
  match exponent with
  | .ofNat e => (num, den <<< e)
  | .negSucc e => (num <<< (e + 1), den)

/-- The exponent at which a quotient has a significand of 53 bits, or the least one. -/
def exponentFor (num den : Nat) : Int :=
  let guess : Int := (num.log2 : Int) - (den.log2 : Int) - 52
  let (n, d) := scaleDown num den guess
  max leastExponent (if n < d <<< 52 then guess - 1 else guess)

/-- The number nearest to a quotient. -/
def ofRatio (negative : Bool) (num den : Nat) : Binary64 :=
  if num = 0 then zero negative
  else
    let exponent := exponentFor num den
    let (n, d) := scaleDown num den exponent
    let significand := roundHalfEven n d
    let (significand, exponent) :=
      if significand = 1 <<< 53 then (1 <<< 52, exponent + 1) else (significand, exponent)
    if exponent > greatestExponent then .infinite negative
    else .finite negative significand exponent

/-- The number nearest to an integer. -/
def ofInt (n : Int) : Binary64 := ofRatio (n < 0) n.natAbs 1

/-- The number nearest to `digits * 10 ^ exponent`, where `digits` is written with `count` digits;
a decimal beyond the range of the numbers is not computed. -/
def ofDecimal (negative : Bool) (digits count : Nat) (exponent : Int) : Binary64 :=
  if digits = 0 then zero negative
  else if exponent + count > 400 then .infinite negative
  else if exponent + count < -400 then zero negative
  else
    match exponent with
    | .ofNat e => ofRatio negative (digits * Nat.pow 10 e) 1
    | .negSucc e => ofRatio negative digits (Nat.pow 10 (e + 1))

/-! ### Arithmetic -/

/-- A signed whole multiple of a power of two, rounded. -/
def ofScaled (n : Int) (exponent : Int) : Binary64 :=
  match exponent with
  | .ofNat e => ofRatio (n < 0) (n.natAbs <<< e) 1
  | .negSucc e => ofRatio (n < 0) n.natAbs (1 <<< (e + 1))

/-- The signed significand. -/
def signed (negative : Bool) (significand : Nat) : Int :=
  if negative then -(significand : Int) else significand

/-- The number with the other sign. -/
def neg : Binary64 → Binary64
  | nan => nan
  | infinite negative => infinite !negative
  | finite negative m e => finite (!negative) m e

/-- The rounded sum; a sum of zero is negative only if both numbers are. -/
def add : Binary64 → Binary64 → Binary64
  | nan, _ => nan
  | _, nan => nan
  | infinite a, infinite b => if a = b then infinite a else nan
  | infinite a, finite .. => infinite a
  | finite .., infinite b => infinite b
  | finite a m e, finite b n f =>
    let least := min e f
    let sum := signed a (m <<< (e - least).toNat) + signed b (n <<< (f - least).toNat)
    if sum = 0 then zero (a && b) else ofScaled sum least

/-- The number is below zero. -/
def isNegative : Binary64 → Bool
  | nan => false
  | infinite negative => negative
  | finite negative m _ => negative && m != 0

/-- The number is a zero of either sign. -/
def isZero : Binary64 → Bool
  | finite _ m _ => m == 0
  | _ => false

/-- A finite number without its fraction. -/
def truncate (negative : Bool) (significand : Nat) (exponent : Int) : Int :=
  match exponent with
  | .ofNat e => signed negative (significand <<< e)
  | .negSucc e => signed negative (significand >>> (e + 1))

/-- How the number compares with an integer, if it is a number. -/
def order (x : Binary64) (n : Int) : Option Ordering :=
  match x with
  | nan => none
  | infinite negative => some (if negative then .lt else .gt)
  | finite negative m exponent =>
    match exponent with
    | .ofNat e => some (compare (signed negative (m <<< e)) n)
    | .negSucc e => some (compare (signed negative m) (n * Nat.pow 2 (e + 1)))

end Binary64

end TokenGate
