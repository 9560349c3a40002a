/-
The digits of the shortest decimal text.

What is found on the grids of the powers of ten is never zero (`search_pos`): zero is passed over as a
neighbour, and on the last grid, with seventeen more digits than the value's first one, the lower
neighbour is not zero.  So the digits of the text start with one that is not zero, and dropping the
zeros at their end leaves some (`whole_shortest`).
-/
import Mathlib.Algebra.Group.Nat.Defs
import TokenGate.Number.Shortest
import TokenGate.Proofs.Json.Scalar

namespace TokenGate.Binary64

/-! ### Counting digits -/

theorem digitCount_pos (n : Nat) : 0 < digitCount n :=
  List.length_pos_iff.2 Nat.toDigits_ne_nil

theorem lt_pow_digitCount (n : Nat) : n < 10 ^ digitCount n :=
  (Nat.length_toDigits_le_iff (by decide) (digitCount_pos n)).1 (Nat.le_refl _)

/-- A positive number has no digit too many. -/
theorem pow_le_of_lt_digitCount {n k : Nat} (hn : 0 < n) (h : k < digitCount n) : 10 ^ k ≤ n := by
  refine Nat.not_lt.1 fun hlt => ?_
  rcases Nat.eq_zero_or_pos k with rfl | hk
  · exact Nat.not_lt.2 hn hlt
  · have hle := (Nat.length_toDigits_le_iff (by decide) hk).2 hlt
    exact Nat.not_lt.2 hle h

/-! ### Neighbours that are not zero -/

namespace Interval

variable {r : Interval}

/-- On the grid of a power of ten that is no more than the value, the lower neighbour is not zero. -/
theorem neighbours_ofNat_pos (hd : 0 < r.den) {e : Nat} (h : r.den * 10 ^ e ≤ r.value) :
    0 < (r.neighbours (.ofNat e)).1 :=
  Nat.div_pos h (Nat.mul_pos hd (Nat.pow_pos (by decide)))

theorem neighbours_negSucc_pos (hd : 0 < r.den) {e : Nat} (h : r.den ≤ r.value * 10 ^ (e + 1)) :
    0 < (r.neighbours (.negSucc e)).1 :=
  Nat.div_pos h hd

/-- On a grid with seventeen digits more than the value's first, the lower neighbour is not zero. -/
theorem neighbours_pos (hv : 0 < r.value) (hd : 0 < r.den) :
    0 < (r.neighbours (r.magnitude - 1 - 17)).1 := by
  rw [magnitude]
  split
  · next hle =>
    by_cases hk : 18 ≤ digitCount (r.value / r.den)
    · obtain ⟨k, hk⟩ := Nat.exists_eq_add_of_le hk
      have hpow : 10 ^ k ≤ r.value / r.den :=
        pow_le_of_lt_digitCount (Nat.div_pos hle hd) (by omega)
      have he : (digitCount (r.value / r.den) : Int) - 1 - 17 = .ofNat k := by
        rw [hk, Int.ofNat_eq_natCast]
        omega
      rw [he]
      refine neighbours_ofNat_pos hd ?_
      rw [Nat.mul_comm]
      exact (Nat.le_div_iff_mul_le hd).1 hpow
    · have he : (digitCount (r.value / r.den) : Int) - 1 - 17 =
          .negSucc (17 - digitCount (r.value / r.den)) := by omega
      rw [he]
      refine neighbours_negSucc_pos hd (Nat.le_trans hle ?_)
      exact Nat.le_mul_of_pos_right _ (Nat.pow_pos (by decide))
  · -- the value is less than one, and its first digit stands among the places of the quotient
    have hlt : r.den < r.value * 10 ^ digitCount (r.den / r.value) := by
      rw [Nat.mul_comm]
      exact (Nat.div_lt_iff_lt_mul hv).1 (lt_pow_digitCount _)
    have hfiner : ∀ k, r.den ≤ r.value * 10 ^ (digitCount (r.den / r.value) + k) := fun k =>
      Nat.le_trans (Nat.le_of_lt hlt)
        (Nat.mul_le_mul_left _ (Nat.pow_le_pow_right (by decide) (Nat.le_add_right _ _)))
    dsimp only
    split
    · have he : 2 - (digitCount (r.den / r.value) : Int) - 1 - 17 =
          .negSucc (digitCount (r.den / r.value) + 15) := by omega
      rw [he]
      exact neighbours_negSucc_pos hd (hfiner 16)
    · have he : 1 - (digitCount (r.den / r.value) : Int) - 1 - 17 =
          .negSucc (digitCount (r.den / r.value) + 16) := by omega
      rw [he]
      exact neighbours_negSucc_pos hd (hfiner 17)

/-! ### What is found -/

/-- A neighbour that is picked is not zero: the lower one has been tested, and the upper one is a
successor. -/
theorem pos_of_pick? {e : Int} {c : Nat} (h : r.pick? e = some c) : 0 < c := by
  have habove : (r.neighbours e).2.1 = (r.neighbours e).1 + 1 := rfl
  rw [pick?] at h
  dsimp only at h
  rw [habove] at h
  generalize (r.neighbours e).1 = below at h
  have hpos : ∀ {holds : Bool}, (holds && below != 0) = true → 0 < below := by
    intro holds hb
    exact Nat.pos_of_ne_zero (by simpa using (Bool.and_eq_true_iff.1 hb).2)
  split at h
  · next hbelow _ =>
    split at h
    · cases h
      exact hpos hbelow
    · cases h
      exact Nat.succ_pos _
    · cases h
      split
      · exact hpos hbelow
      · exact Nat.succ_pos _
  · next hbelow _ =>
    cases h
    exact hpos hbelow
  · cases h
    exact Nat.succ_pos _
  · cases h

/-- **What is found on the grids is not zero**, if that is so on the last one. -/
theorem search_pos {grids : Nat} {e : Int} (h : 0 < (r.neighbours (e - grids)).1) :
    0 < (r.search grids e).1 := by
  induction grids generalizing e with
  | zero => simpa [search] using h
  | succ grids ih =>
    rw [search]
    split
    · next c hc => exact pos_of_pick? hc
    · refine ih ?_
      have he : e - ((grids + 1 : Nat) : Int) = e - 1 - grids := by omega
      rwa [he] at h

end Interval

/-! ### The digits -/

/-- Dropping zeros at the end of digits that do not start with one leaves digits that do not. -/
theorem dropZeros_of_digits {ds : List Char} (hd : Json.Digits ds) (hz : ds.head? ≠ some '0') :
    Json.Digits (ds.reverse.dropWhile (· == '0')).reverse ∧
      (ds.reverse.dropWhile (· == '0')).reverse.head? ≠ some '0' := by
  rcases ds with - | ⟨d, ds⟩
  · exact absurd rfl hd.ne_nil
  · have hne : d ≠ '0' := fun he => hz (congrArg some he)
    -- the first digit is the last one to be looked at, and is no zero
    have hkept : ((d :: ds).reverse.dropWhile (· == '0')).reverse =
        d :: (ds.reverse.dropWhile (· == '0')).reverse := by
      rw [List.reverse_cons, List.dropWhile_append]
      split
      · next hnil =>
        rw [List.dropWhile_cons_of_neg (by simpa using hne), List.isEmpty_iff.1 hnil]
        rfl
      · rw [List.reverse_append]
        rfl
    rw [hkept]
    refine ⟨⟨List.cons_ne_nil _ _, fun c hc => hd.isDigit c ?_⟩, hz⟩
    rcases List.mem_cons.1 hc with rfl | hc
    · exact List.mem_cons_self
    · refine List.mem_cons_of_mem _ (List.mem_reverse.1 ?_)
      exact (List.dropWhile_sublist _).subset (List.mem_reverse.1 hc)

theorem interval_pos {m : Nat} (hm : 0 < m) (e : Int) :
    0 < (interval m e).value ∧ 0 < (interval m e).den := by
  rw [interval]
  rcases e - 2 with k | k
  · refine ⟨Nat.mul_pos (by omega) ?_, Nat.one_pos⟩
    rw [Nat.one_shiftLeft]
    exact Nat.two_pow_pos k
  · refine ⟨by simpa using hm, ?_⟩
    show 0 < 1 <<< (k + 1)
    rw [Nat.one_shiftLeft]
    exact Nat.two_pow_pos _

/-- **The digits of a positive number start with one that is not zero.** -/
theorem digits_shortest {m : Nat} (hm : 0 < m) (e : Int) :
    Json.Digits (shortest m e).1 ∧ (shortest m e).1.head? ≠ some '0' := by
  obtain ⟨hv, hd⟩ := interval_pos hm e
  have hpos := Interval.search_pos (Interval.neighbours_pos hv hd)
  exact dropZeros_of_digits (Json.digits_toDigits _) (Json.head?_toDigits_ne hpos)

end TokenGate.Binary64
