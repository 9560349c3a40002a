/-
The base64 alphabet that is safe in addresses, without padding, in its canonical form.

`encode` writes three bytes as four symbols; a last group of one or two bytes takes two or three
symbols whose unused low bits are zero.  `decode` accepts exactly what `encode` writes
(`decode_encode`): a lone symbol, a character outside the alphabet and set unused bits are refused.
`decodeSegment` also accepts padding, if it completes the segment to whole groups of four.
-/
import TokenGate.Text.Blank

namespace TokenGate.Base64Url

/-- The symbol of a value below 64. -/
def symbol (n : Nat) : Char :=
  if n < 26 then Char.ofNat (n + 0x41)
  else if n < 52 then Char.ofNat (n - 26 + 0x61)
  else if n < 62 then Char.ofNat (n - 52 + 0x30)
  else if n = 62 then '-'
  else '_'

/-- The value of a symbol. -/
def value? (c : Char) : Option Nat :=
  let n := c.toNat
  if 0x41 ≤ n && n ≤ 0x5A then some (n - 0x41)
  else if 0x61 ≤ n && n ≤ 0x7A then some (n - 0x61 + 26)
  else if 0x30 ≤ n && n ≤ 0x39 then some (n - 0x30 + 52)
  else if c = '-' then some 62
  else if c = '_' then some 63
  else none

/-- Bytes as symbols, without padding. -/
def encode : List UInt8 → List Char
  | [] => []
  | [a] => [symbol (a.toNat / 4), symbol (a.toNat % 4 * 16)]
  | [a, b] =>
    [symbol (a.toNat / 4), symbol (a.toNat % 4 * 16 + b.toNat / 16), symbol (b.toNat % 16 * 4)]
  | a :: b :: c :: rest =>
    symbol (a.toNat / 4) :: symbol (a.toNat % 4 * 16 + b.toNat / 16) ::
      symbol (b.toNat % 16 * 4 + c.toNat / 64) :: symbol (c.toNat % 64) :: encode rest

/-- The one byte of a last group of two symbols. -/
def oneByte (p q : Nat) : Option (List UInt8) :=
  if q % 16 = 0 then some [UInt8.ofNat (p * 4 + q / 16)] else none

/-- The two bytes of a last group of three symbols. -/
def twoBytes (p q r : Nat) : Option (List UInt8) :=
  if r % 4 = 0 then
    some [UInt8.ofNat (p * 4 + q / 16), UInt8.ofNat (q % 16 * 16 + r / 4)]
  else none

/-- The three bytes of a whole group. -/
def threeBytes (p q r s : Nat) : List UInt8 :=
  [UInt8.ofNat (p * 4 + q / 16), UInt8.ofNat (q % 16 * 16 + r / 4), UInt8.ofNat (r % 4 * 64 + s)]

/-- The bytes that symbols without padding stand for. -/
def decode : List Char → Option (List UInt8)
  | [] => some []
  | [_] => none
  | [p, q] => do oneByte (← value? p) (← value? q)
  | [p, q, r] => do twoBytes (← value? p) (← value? q) (← value? r)
  | p :: q :: r :: s :: rest => do
    let group := threeBytes (← value? p) (← value? q) (← value? r) (← value? s)
    return group ++ (← decode rest)

/-- The bytes of a segment that may carry padding: at most two `=`, and only such that the segment
has whole groups of four. -/
def decodeSegment (segment : List Char) : Option (List UInt8) :=
  let body := Text.dropEndWhile (· == '=') segment
  let padding := segment.length - body.length
  if padding > 2 then none
  else if padding > 0 && segment.length % 4 != 0 then none
  else decode body

/-! ### Reading back -/

theorem value?_symbol : ∀ n < 64, value? (symbol n) = some n := by decide

theorem symbol_ne_pad : ∀ n < 64, symbol n ≠ '=' := by decide

theorem symbol_ne_dot : ∀ n < 64, symbol n ≠ '.' := by decide

private theorem toNat_lt (a : UInt8) : a.toNat < 256 := a.toNat_lt_size

private theorem ofNat_eq {a : UInt8} {n : Nat} (h : n = a.toNat) : UInt8.ofNat n = a := by
  rw [h, UInt8.ofNat_toNat]

/-- Written bytes read back. -/
theorem decode_encode (bytes : List UInt8) : decode (encode bytes) = some bytes := by
  fun_induction encode bytes with
  | case1 => rfl
  | case2 a =>
    have ha := toNat_lt a
    simp only [decode, value?_symbol _ (show a.toNat / 4 < 64 by omega),
      value?_symbol _ (show a.toNat % 4 * 16 < 64 by omega), Option.bind_eq_bind, Option.bind_some,
      oneByte]
    rw [if_pos (by omega), ofNat_eq (a := a) (by omega)]
  | case3 a b =>
    have ha := toNat_lt a
    have hb := toNat_lt b
    simp only [decode, value?_symbol _ (show a.toNat / 4 < 64 by omega),
      value?_symbol _ (show a.toNat % 4 * 16 + b.toNat / 16 < 64 by omega),
      value?_symbol _ (show b.toNat % 16 * 4 < 64 by omega), Option.bind_eq_bind,
      Option.bind_some, twoBytes]
    rw [if_pos (by omega), ofNat_eq (a := a) (by omega), ofNat_eq (a := b) (by omega)]
  | case4 a b c rest ih =>
    have ha := toNat_lt a
    have hb := toNat_lt b
    have hc := toNat_lt c
    simp only [decode, value?_symbol _ (show a.toNat / 4 < 64 by omega),
      value?_symbol _ (show a.toNat % 4 * 16 + b.toNat / 16 < 64 by omega),
      value?_symbol _ (show b.toNat % 16 * 4 + c.toNat / 64 < 64 by omega),
      value?_symbol _ (show c.toNat % 64 < 64 by omega), ih, Option.bind_eq_bind,
      Option.bind_some, threeBytes, Option.pure_def]
    rw [ofNat_eq (a := a) (by omega), ofNat_eq (a := b) (by omega), ofNat_eq (a := c) (by omega)]
    rfl

end TokenGate.Base64Url
