/-
Hexadecimal digits, in small letters when written and in either case when read.

`hexPadded` writes the last digits of a number, and `hexFilled` all of them; so the latter writes no
two numbers alike (`hexFilled_injective`).
-/

namespace TokenGate.Text

/-- The digit of a value below sixteen. -/
def hexDigit (n : Nat) : Char := Char.ofNat (if n < 10 then 0x30 + n else 0x57 + n)

/-- The value of a hexadecimal digit. -/
def hexValue? (c : Char) : Option Nat :=
  let n := c.toNat
  if 0x30 ≤ n && n ≤ 0x39 then some (n - 0x30)
  else if 0x61 ≤ n && n ≤ 0x66 then some (n - 0x57)
  else if 0x41 ≤ n && n ≤ 0x46 then some (n - 0x37)
  else none

/-- The last `width` hexadecimal digits of a number, the highest first. -/
def hexPadded : (width : Nat) → (n : Nat) → List Char
  | 0, _ => []
  | width + 1, n => hexDigit (n >>> (4 * width) % 16) :: hexPadded width n

/-- A number in hexadecimal, with zeros in front up to a width; a longer one is written in full. -/
def hexFilled (width n : Nat) : List Char := hexPadded (max width (n.log2 / 4 + 1)) n

/-- Four digits read as one number. -/
def hexQuad? (a b c d : Char) : Option Nat := do
  let a ← hexValue? a
  let b ← hexValue? b
  let c ← hexValue? c
  let d ← hexValue? d
  return ((a * 16 + b) * 16 + c) * 16 + d

theorem hexValue?_hexDigit : ∀ n < 16, hexValue? (hexDigit n) = some n := by decide

/-- Four written digits read back as the number. -/
theorem hexQuad?_hexPadded {n : Nat} (h : n < 0x10000) :
    hexQuad? (hexDigit (n >>> 12 % 16)) (hexDigit (n >>> 8 % 16))
      (hexDigit (n >>> 4 % 16)) (hexDigit (n % 16)) = some n := by
  simp only [hexQuad?, hexValue?_hexDigit _ (Nat.mod_lt _ (by decide)), Option.bind_eq_bind,
    Option.bind_some, Option.pure_def, Option.some.injEq, Nat.shiftRight_eq_div_pow]
  omega

/-! ### Written numbers differ -/

theorem length_hexPadded (width n : Nat) : (hexPadded width n).length = width := by
  induction width with
  | zero => rfl
  | succ width ih => rw [hexPadded, List.length_cons, ih]

theorem eq_of_hexDigit {a b : Nat} (ha : a < 16) (hb : b < 16) (h : hexDigit a = hexDigit b) :
    a = b := by
  have hvalue := congrArg hexValue? h
  rw [hexValue?_hexDigit a ha, hexValue?_hexDigit b hb] at hvalue
  exact Option.some.inj hvalue

/-- Digits determine a number up to what stands before them. -/
theorem mod_eq_of_hexPadded {width n m : Nat} (h : hexPadded width n = hexPadded width m) :
    n % Nat.pow 16 width = m % Nat.pow 16 width := by
  induction width with
  | zero => exact (Nat.mod_one n).trans (Nat.mod_one m).symm
  | succ width ih =>
    obtain ⟨hfirst, hrest⟩ := List.cons.inj h
    have hdigit := eq_of_hexDigit (Nat.mod_lt _ (by decide)) (Nat.mod_lt _ (by decide)) hfirst
    rw [Nat.shiftRight_eq_div_pow, Nat.shiftRight_eq_div_pow, Nat.pow_mul] at hdigit
    have hlow : n % 16 ^ width = m % 16 ^ width := ih hrest
    show n % 16 ^ (width + 1) = m % 16 ^ (width + 1)
    rw [Nat.mod_pow_succ, Nat.mod_pow_succ, hlow, hdigit]

/-- There is room for the whole number. -/
theorem lt_pow_hexFilled (width n : Nat) : n < Nat.pow 16 (max width (n.log2 / 4 + 1)) := by
  have hn : n < 2 ^ (n.log2 + 1) := Nat.lt_log2_self
  have hle : n.log2 + 1 ≤ 4 * max width (n.log2 / 4 + 1) := by omega
  calc n < 2 ^ (n.log2 + 1) := hn
    _ ≤ 2 ^ (4 * max width (n.log2 / 4 + 1)) := Nat.pow_le_pow_right (by decide) hle
    _ = 16 ^ max width (n.log2 / 4 + 1) := Nat.pow_mul 2 4 _

/-- No two numbers are written alike. -/
theorem hexFilled_injective {width n m : Nat} (h : hexFilled width n = hexFilled width m) :
    n = m := by
  have hlength := congrArg List.length h
  rw [hexFilled, hexFilled, length_hexPadded, length_hexPadded] at hlength
  rw [hexFilled, hexFilled, ← hlength] at h
  have hmod := mod_eq_of_hexPadded h
  rwa [Nat.mod_eq_of_lt (lt_pow_hexFilled width n),
    Nat.mod_eq_of_lt (hlength ▸ lt_pow_hexFilled width m)] at hmod

end TokenGate.Text
