/-
The exact value of a number of seconds.

A clock is a whole number or a floating-point number, and a claim's second is whole.  `rational?` gives
the rational number that a finite clock stands at.  Against it, the three operations on clocks are
what their names say: `isBefore` and `reached` compare exactly, with no rounding
(`isBefore_iff_lt`, `reached_iff_le`), and reading a clock as an integer drops its fraction
(`toInteger_of_rational`).
-/
import Mathlib.Algebra.Order.Floor.Ring
import Mathlib.Data.Rat.Floor
import Mathlib.Tactic.Positivity
import TokenGate.Number

namespace TokenGate

/-- Two comparisons agree if less and greater mean the same in both. -/
theorem compare_congr {α β : Type*} [LinearOrder α] [LinearOrder β] {a b : α} {c d : β}
    (hlt : a < b ↔ c < d) (hgt : b < a ↔ d < c) : compare a b = compare c d := by
  rcases lt_trichotomy a b with h | h | h
  · rw [compare_lt_iff_lt.2 h, compare_lt_iff_lt.2 (hlt.1 h)]
  · have hcd : c = d := le_antisymm (not_lt.1 fun e => (hgt.2 e).ne h.symm)
      (not_lt.1 fun e => (hlt.2 e).ne h)
    rw [compare_eq_iff_eq.2 h, compare_eq_iff_eq.2 hcd]
  · rw [compare_gt_iff_gt.2 h, compare_gt_iff_gt.2 (hgt.1 h)]

/-! ### Floating-point numbers -/

namespace Binary64

/-- The rational number that a sign, a significand and an exponent stand for. -/
def ratio (negative : Bool) (significand : Nat) (exponent : Int) : ℚ :=
  match exponent with
  | .ofNat e => (signed negative significand : ℚ) * 2 ^ e
  | .negSucc e => (signed negative significand : ℚ) / 2 ^ (e + 1)

theorem signed_shiftLeft (negative : Bool) (m e : Nat) :
    signed negative (m <<< e) = signed negative m * 2 ^ e := by
  rcases negative with - | - <;> simp [signed, Nat.shiftLeft_eq]

/-- The comparison with an integer is that of the rational number. -/
theorem order_finite (negative : Bool) (m : Nat) (exponent n : Int) :
    (finite negative m exponent).order n = some (compare (ratio negative m exponent) (n : ℚ)) := by
  rcases exponent with e | e
  · simp only [order, ratio, signed_shiftLeft, Option.some.injEq]
    apply compare_congr <;> norm_cast
  · -- Below one, both sides are multiplied by the power of two.
    have hpos : (0 : ℚ) < 2 ^ (e + 1) := by positivity
    simp only [order, ratio, Nat.pow_eq, Option.some.injEq]
    apply compare_congr
    · rw [div_lt_iff₀ hpos]
      norm_cast
    · rw [lt_div_iff₀ hpos]
      norm_cast

/-- From zero on, dropping the fraction is rounding down. -/
theorem truncate_eq_floor {negative : Bool} {m : Nat} {exponent : Int}
    (h : 0 ≤ ratio negative m exponent) :
    truncate negative m exponent = ⌊ratio negative m exponent⌋ := by
  rcases exponent with e | e
  · have hcast : ratio negative m (.ofNat e) = ((signed negative m * 2 ^ e : Int) : ℚ) := by
      simp [ratio]
    rw [hcast, Int.floor_intCast, truncate, signed_shiftLeft]
  · have hpos : (0 : ℚ) < 2 ^ (e + 1) := by positivity
    have hsigned : 0 ≤ signed negative m := by
      have h' := (le_div_iff₀ hpos).1 h
      rw [zero_mul] at h'
      exact_mod_cast h'
    -- A negative sign can only stand before zero.
    have hk : ∀ k ≤ m, signed negative k = k := by
      intro k hk
      rcases negative with - | -
      · rfl
      · simp only [signed, if_true] at hsigned ⊢
        omega
    have hdiv : m >>> (e + 1) ≤ m := by
      rw [Nat.shiftRight_eq_div_pow]
      exact Nat.div_le_self _ _
    have hfloor := Rat.floor_intCast_div_natCast (m : ℤ) (2 ^ (e + 1))
    push_cast at hfloor
    rw [truncate, hk _ hdiv, ratio, hk m le_rfl, Nat.shiftRight_eq_div_pow]
    push_cast
    exact hfloor.symm

end Binary64

/-! ### Numbers of seconds -/

namespace Number

/-- The rational number that a number is, if it is finite. -/
def rational? : Number → Option ℚ
  | int n => some n
  | float (.finite negative m e) => some (Binary64.ratio negative m e)
  | float _ => none

variable {clock : Number} {now : ℚ}

theorem order_of_rational (h : clock.rational? = some now) (n : Int) :
    clock.order n = some (compare now (n : ℚ)) := by
  rcases clock with m | (- | negative | ⟨negative, m, e⟩)
  · obtain rfl := Option.some.inj h
    rw [order]
    exact congrArg some (compare_congr Int.cast_lt.symm Int.cast_lt.symm)
  · cases h
  · cases h
  · obtain rfl := Option.some.inj h
    exact Binary64.order_finite negative m e n

/-- A second lies after a clock exactly if it is greater. -/
theorem isBefore_iff_lt (h : clock.rational? = some now) (n : Int) :
    clock.isBefore n = true ↔ now < n := by
  rw [isBefore, order_of_rational h, beq_iff_eq, Option.some.injEq, compare_lt_iff_lt]

/-- A clock has come to a second exactly if it is not less. -/
theorem reached_iff_le (h : clock.rational? = some now) (n : Int) :
    clock.reached n = true ↔ (n : ℚ) ≤ now := by
  rw [reached, order_of_rational h]
  rcases lt_trichotomy now (n : ℚ) with hlt | heq | hgt
  · rw [compare_lt_iff_lt.2 hlt]
    simp [hlt]
  · rw [compare_eq_iff_eq.2 heq]
    simp [heq]
  · rw [compare_gt_iff_gt.2 hgt]
    simp [hgt.le]

/-- From zero on, a clock is read as the whole second before it. -/
theorem toInteger_of_rational (h : clock.rational? = some now) (h0 : 0 ≤ now) :
    clock.toInteger = .ok ⌊now⌋ := by
  rcases clock with m | (- | negative | ⟨negative, m, e⟩)
  · obtain rfl := Option.some.inj h
    rw [Int.floor_intCast]
    rfl
  · cases h
  · cases h
  · obtain rfl := Option.some.inj h
    rw [← Binary64.truncate_eq_floor h0]
    rfl

end Number

end TokenGate
