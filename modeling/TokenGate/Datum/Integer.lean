/-
Reading a value as an integer.

A number is read without its fraction, a truth value as one or zero, and a text as decimal digits of
any script, with a sign, single separators between digits and blanks around.  Every other value, and
every text that is no numeral, has its own `IntegerFault`.
-/
import TokenGate.Datum
import TokenGate.Text.Blank
import TokenGate.Text.Digit

namespace TokenGate

/-- Why a value is no integer. -/
inductive IntegerFault where
  | literal (shown : String)
  | tooManyDigits (count : Nat)
  | notANumber
  | infinite
  | kind (kind : Datum.Kind)
  deriving DecidableEq, Repr

/-- The wording of a fault. -/
def IntegerFault.message : IntegerFault → String
  | literal shown => "invalid literal for int() with base 10: " ++ shown
  | tooManyDigits count =>
    "Exceeds the limit (4300 digits) for integer string conversion: value has " ++
      toString count ++ " digits; use sys.set_int_max_str_digits() to increase the limit"
  | notANumber => "cannot convert float NaN to integer"
  | infinite => "cannot convert float infinity to integer"
  | kind k =>
    "int() argument must be a string, a bytes-like object or a real number, not '" ++ k.name ++ "'"

namespace Datum

/-! ### Numerals -/

/-- The blanks around a numeral; outside ASCII every blank counts. -/
def numeralBlank (c : Char) : Bool := c == ' ' || (0x09 ≤ c.toNat && c.toNat ≤ 0x0D)

/-- A character as a numeral sees it: digits of any script and blanks in their ASCII form. -/
def numeralChar (c : Char) : Char :=
  if c.toNat < 0x80 then c
  else if Text.isBlank c then ' '
  else
    match Text.digitValue? c with
    | some d => Char.ofNat (0x30 + d)
    | none => '?'

/-- The digits of a run without the separators, which stand only between two digits. -/
def ungroup : (afterDigit : Bool) → List Char → Option (List Char)
  | afterDigit, [] => if afterDigit then some [] else none
  | afterDigit, c :: rest =>
    if c = '_' then (if afterDigit then ungroup false rest else none)
    else (ungroup true rest).map (c :: ·)

/-- The sign of a numeral and what follows it. -/
def splitSign : List Char → Bool × List Char
  | '-' :: rest => (true, rest)
  | '+' :: rest => (false, rest)
  | cs => (false, cs)

/-- The value of a numeral, or the fault; `shown` is the numeral as a message shows it.  Too many
digits are reported before what follows them. -/
def readNumeral (shown : String) (cs : List Char) : Except IntegerFault Int :=
  let (negative, body) := splitSign (cs.dropWhile numeralBlank)
  let inRun := fun c : Char => c.isDigit || c == '_'
  match ungroup false (body.takeWhile inRun) with
  | none => .error (.literal shown)
  | some digits =>
    if digits.length > digitLimit then .error (.tooManyDigits digits.length)
    else if (body.dropWhile inRun).all numeralBlank then
      let n := Nat.ofDigitChars 10 digits 0
      .ok (if negative then -n else n)
    else .error (.literal shown)

/-- Messages show at most this many characters of a text that is no numeral, and of bytes only what
this many of them make. -/
def shownLimit : Nat := 200

/-- A quoted form cut to what messages show. -/
def cut (s : String) : String := String.ofList (s.toList.take shownLimit)

/-- The value read as an integer. -/
def toInteger : Datum → Except IntegerFault Int
  | int n => .ok n
  | bool b => .ok (if b then 1 else 0)
  | float .nan => .error .notANumber
  | float (.infinite _) => .error .infinite
  | float (.finite negative m e) => .ok (Binary64.truncate negative m e)
  | text s => readNumeral (cut (Text.quoted s)) (s.toList.map numeralChar)
  | bytes bs =>
    readNumeral (cut (Text.quotedBytes (bs.take shownLimit)))
      (bs.map fun b => if b < 0x80 then Char.ofNat b.toNat else '?')
  | d => .error (.kind d.kind)

end Datum

end TokenGate
