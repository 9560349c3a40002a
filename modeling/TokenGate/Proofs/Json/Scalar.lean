/-
Texts and integers in JSON documents, written and read back.

A text is written in ASCII, with escapes, and an integer in decimal.  Reading what was written gives
the text (`string_writeText`) or the integer (`number_writeInt`) and leaves what follows untouched.

Two escapes need care.  A numbered escape is read only if another character follows it, which inside
quotes is always so.  A character beyond the first plane is written as a pair of surrogates, and a
reader that has seen the first one looks ahead for the second.
-/
import TokenGate.Json.Reader
import TokenGate.Json.Writer

namespace TokenGate.Json

open Text Encoding

/-! ### Characters -/

theorem hexPadded_four (n : Nat) :
    hexPadded 4 n = [hexDigit (n >>> 12 % 16), hexDigit (n >>> 8 % 16), hexDigit (n >>> 4 % 16),
      hexDigit (n % 16)] := rfl

/-- No character is a surrogate. -/
theorem not_surrogate (c : Char) : ¬(0xD800 ≤ c.toNat ∧ c.toNat < 0xE000) := by
  rcases c.valid with h | h
  · have : c.toNat < 0xD800 := h
    omega
  · have : 0xDFFF < c.toNat := h.1
    omega

theorem charAt_toNat (c : Char) : charAt c.toNat = c := by
  have h := not_surrogate c
  rw [charAt, if_neg (by simpa using h), Char.ofNat_toNat]

theorem isHighSurrogate_toNat (c : Char) : isHighSurrogate c.toNat = false := by
  have h := not_surrogate c
  rw [isHighSurrogate, Bool.and_eq_false_iff, decide_eq_false_iff_not, decide_eq_false_iff_not]
  omega

variable {opening tail : List Char}

theorem characters_quote : characters opening ('"' :: tail) = .ok ([], tail) := by
  rw [characters.eq_def]
  rfl

/-- A character that needs no escape stands for itself. -/
theorem characters_plain {c : Char} (hq : c ≠ '"') (hb : c ≠ '\\') (hc : 0x20 ≤ c.toNat) :
    characters opening (c :: tail) = consChar c (characters opening tail) := by
  rw [characters.eq_def]
  simp only [if_neg hq, if_neg hb, if_neg (Nat.not_lt.2 hc)]

/-- An escape of one letter is read as its character. -/
theorem characters_short {letter c : Char} (hu : letter ≠ 'u') (h : shortEscape? letter = some c) :
    characters opening ('\\' :: letter :: tail) = consChar c (characters opening tail) := by
  rw [characters.eq_def]
  simp only [show '\\' ≠ '"' by decide, if_false, if_true, if_neg hu, h]

/-- An escape that is no first half of a pair is read as its character. -/
theorem characters_unitEscape {n : Nat} (hn : n < 0x10000) (hs : isHighSurrogate n = false)
    (ht : tail ≠ []) : characters opening (unitEscape n ++ tail) =
      consChar (charAt n) (characters opening tail) := by
  have he : tail.isEmpty = false := by rwa [List.isEmpty_eq_false_iff]
  rw [unitEscape, hexPadded_four]
  simp only [List.cons_append, List.nil_append]
  rw [characters.eq_def]
  simp [he, hexQuad?_hexPadded hn, hs]

/-- After a first half the second one is found. -/
theorem partner_unitEscape {n : Nat} (hn : n < 0x10000) (hs : isLowSurrogate n = true)
    (ht : tail ≠ []) : partner (unitEscape n ++ tail) = .low n := by
  obtain ⟨next, rest, rfl⟩ := List.exists_cons_of_ne_nil ht
  rw [unitEscape, hexPadded_four]
  simp [partner, hexQuad?_hexPadded hn, hs]

/-- The two escapes of a pair are read as the one character that they stand for. -/
theorem characters_pair {high low : Nat} (hh : isHighSurrogate high = true)
    (hl : isLowSurrogate low = true) (ht : tail ≠ []) :
    characters opening (unitEscape high ++ (unitEscape low ++ tail)) =
      consChar (Char.ofNat (joinSurrogates high low)) (characters opening tail) := by
  have hhigh : high < 0x10000 := by
    simp only [isHighSurrogate, Bool.and_eq_true, decide_eq_true_eq] at hh
    omega
  have hlow : low < 0x10000 := by
    simp only [isLowSurrogate, Bool.and_eq_true, decide_eq_true_eq] at hl
    omega
  -- the reader looks ahead for the second half before it decides on the first
  have hp := partner_unitEscape hlow hl ht
  simp only [unitEscape, hexPadded_four, List.cons_append, List.nil_append] at hp ⊢
  rw [characters.eq_def]
  simp [hexQuad?_hexPadded hhigh, hh, hp]

/-- The units of a character beyond the first plane stand for it. -/
theorem joinSurrogates_units {n : Nat} (h : 0x10000 ≤ n) :
    joinSurrogates (0xD800 + (n - 0x10000) / 1024) (0xDC00 + (n - 0x10000) % 1024) = n := by
  rw [joinSurrogates]
  omega

theorem toNat_lt (c : Char) : c.toNat < 0x110000 := by
  rcases c.valid with h | h
  · exact Nat.lt_trans h (by decide)
  · exact h.2

/-- A written character is read back. -/
theorem characters_writeChar (c : Char) (ht : tail ≠ []) :
    characters opening (writeChar c ++ tail) = consChar c (characters opening tail) := by
  unfold writeChar
  -- the seven characters whose escape is one letter
  iterate 7 (split; · subst_vars; exact characters_short (by decide) rfl)
  next hquote hslash _ _ _ _ _ =>
  split
  · next hplain =>
    rw [Bool.and_eq_true, decide_eq_true_eq] at hplain
    exact characters_plain hquote hslash hplain.1
  split
  · next hn => rw [characters_unitEscape hn (isHighSurrogate_toNat c) ht, charAt_toNat]
  · next hn =>
    have hc := toNat_lt c
    have hhigh : isHighSurrogate (0xD800 + (c.toNat - 0x10000) / 1024) = true := by
      simp only [isHighSurrogate, Bool.and_eq_true, decide_eq_true_eq]
      omega
    have hlow : isLowSurrogate (0xDC00 + (c.toNat - 0x10000) % 1024) = true := by
      simp only [isLowSurrogate, Bool.and_eq_true, decide_eq_true_eq]
      omega
    rw [List.append_assoc, characters_pair hhigh hlow ht, joinSurrogates_units (by omega),
      Char.ofNat_toNat]

/-! ### Texts -/

theorem characters_flatMap_writeChar (cs rest : List Char) :
    characters opening (cs.flatMap writeChar ++ '"' :: rest) = .ok (cs, rest) := by
  induction cs with
  | nil => exact characters_quote
  | cons c cs ih =>
    rw [List.flatMap_cons, List.append_assoc, characters_writeChar c (by simp), ih]
    rfl

/-- A written text is read back, up to its closing quote. -/
theorem string_writeText (s : String) (rest : List Char) :
    string (writeText s ++ rest) = .ok (s, rest) := by
  rw [writeText, string, List.append_assoc, List.singleton_append]
  simp only [List.cons_append, List.drop_succ_cons, List.drop_zero]
  rw [characters_flatMap_writeChar, Except.map, String.ofList_toList]

/-! ### Integers -/

/-- The text does not go on as a number would: it ends, or what follows is no digit, point or
exponent. -/
def EndsNumber (rest : List Char) : Prop :=
  ∀ c ∈ rest.head?, c.isDigit = false ∧ c ≠ '.' ∧ c ≠ 'e' ∧ c ≠ 'E'

variable {rest : List Char}

/-- Digits alone, and at least one. -/
structure Digits (ds : List Char) : Prop where
  ne_nil : ds ≠ []
  isDigit : ∀ c ∈ ds, c.isDigit = true

theorem digits_toDigits (m : Nat) : Digits (Nat.toDigits 10 m) :=
  ⟨Nat.toDigits_ne_nil, fun _ hc => Nat.isDigit_of_mem_toDigits (by decide) (by decide) hc⟩

theorem EndsNumber.no_digit (h : EndsNumber rest) : ∀ c ∈ rest.head?, c.isDigit = false :=
  fun c hc => (h c hc).1

/-- Digits are read up to where they end. -/
theorem spanDigits_append {ds : List Char} (hd : Digits ds)
    (hr : ∀ c ∈ rest.head?, c.isDigit = false) : spanDigits (ds ++ rest) = (ds, rest) := by
  have hrest : rest.takeWhile Char.isDigit = [] ∧ rest.dropWhile Char.isDigit = rest := by
    cases rest with
    | nil => exact ⟨rfl, rfl⟩
    | cons c rest => simp [hr c rfl]
  rw [spanDigits, List.takeWhile_append_of_pos hd.isDigit, List.dropWhile_append_of_pos hd.isDigit,
    hrest.1, hrest.2, List.append_nil]

/-- The first digit of a positive number is not zero. -/
theorem head?_toDigits_ne {m : Nat} (hm : 0 < m) : (Nat.toDigits 10 m).head? ≠ some '0' := by
  induction m using Nat.strongRecOn with
  | ind m ih =>
    by_cases h : m < 10
    · have hall : ∀ n < 10, 0 < n → (Nat.toDigits 10 n).head? ≠ some '0' := by decide
      exact hall m h hm
    · -- a further digit at the end leaves the first one as it is
      have hrest := ih (m / 10) (by omega) (by omega)
      obtain ⟨d, ds, hd⟩ := List.exists_cons_of_ne_nil (Nat.toDigits_ne_nil (n := m / 10) (b := 10))
      rw [Nat.toDigits_of_base_le (by decide) (by omega), hd]
      rwa [hd] at hrest

/-- The digits before a point: no zero is in front of another digit. -/
structure Whole (ds : List Char) : Prop extends Digits ds where
  zero : ds.head? = some '0' → ds = ['0']

theorem whole_toDigits (m : Nat) : Whole (Nat.toDigits 10 m) where
  toDigits := digits_toDigits m
  zero h := by
    rcases Nat.eq_zero_or_pos m with rfl | hm
    · rfl
    · exact absurd h (head?_toDigits_ne hm)

theorem spanWhole_append {ds : List Char} (hd : Whole ds)
    (hr : ∀ c ∈ rest.head?, c.isDigit = false) : spanWhole (ds ++ rest) = (ds, rest) := by
  have hspan := spanDigits_append hd.toDigits hr
  rcases ds with - | ⟨d, ds⟩
  · exact absurd rfl hd.ne_nil
  · by_cases hz : d = '0'
    · subst hz
      cases hd.zero rfl
      rfl
    · unfold spanWhole
      split
      · next heq =>
        cases heq
        exact absurd rfl hz
      · exact hspan

theorem fraction?_of_endsNumber (hr : EndsNumber rest) : fraction? rest = none := by
  unfold fraction?
  split
  · exact absurd rfl (hr '.' rfl).2.1
  · rfl

theorem exponent?_of_endsNumber (hr : EndsNumber rest) : exponent? rest = none := by
  cases rest with
  | nil => rfl
  | cons c rest =>
    obtain ⟨-, -, he, hE⟩ := hr c rfl
    simp [exponent?, he, hE]

theorem length_toDigits_le {n k : Nat} (hk : 0 < k) (h : n < Nat.pow 10 k) :
    (Nat.toDigits 10 n).length ≤ k :=
  (Nat.length_toDigits_le_iff (by decide) hk).2 h

theorem length_toDigits_le_of_printable {n : Int} (h : Datum.unprintable n = false) :
    (Nat.toDigits 10 n.natAbs).length ≤ Datum.digitLimit := by
  rw [Datum.unprintable, decide_eq_false_iff_not, Nat.not_le] at h
  exact length_toDigits_le (by decide) h

/-- A sign is read that was written in front of digits. -/
theorem spanSign_append (negative : Bool) {ds : List Char} (hd : Digits ds) (rest : List Char) :
    spanSign ((if negative then ['-'] else []) ++ ds ++ rest) = (negative, ds ++ rest) := by
  cases negative with
  | true => rfl
  | false =>
    rcases ds with - | ⟨d, ds⟩
    · exact absurd rfl hd.ne_nil
    · have hdigit := hd.isDigit d List.mem_cons_self
      rw [if_neg Bool.false_ne_true, List.nil_append, List.cons_append]
      unfold spanSign
      split
      · next heq =>
        cases heq
        exact absurd hdigit (by decide)
      · rfl

/-- A written integer that is not too long is read back, if what follows does not continue it. -/
theorem number_writeInt {n : Int} (hn : Datum.unprintable n = false) (hr : EndsNumber rest) :
    number Datum.digitLimit (writeInt n ++ rest) = .ok (.int n, rest) := by
  have hsign : spanSign (writeInt n ++ rest) =
      (decide (n < 0), Nat.toDigits 10 n.natAbs ++ rest) := by
    rw [writeInt, ← spanSign_append (decide (n < 0)) (digits_toDigits n.natAbs) rest]
    simp only [decide_eq_true_eq]
  have hlen := length_toDigits_le_of_printable hn
  have hvalue : integer (decide (n < 0)) (Nat.toDigits 10 n.natAbs) = n := by
    rw [integer, Nat.ofDigitChars_ten_toDigits]
    by_cases h : n < 0
    · simp only [h, decide_true, if_true]
      omega
    · simp only [h, decide_false, Bool.false_eq_true, if_false]
      omega
  rw [number, hsign]
  dsimp only
  rw [spanWhole_append (whole_toDigits _) hr.no_digit]
  -- there are digits, and neither a fraction nor an exponent after them
  split
  · next heq => exact absurd (congrArg Prod.fst heq) Nat.toDigits_ne_nil
  · next heq =>
    cases heq
    rw [fraction?_of_endsNumber hr, exponent?_of_endsNumber hr]
    simp only [if_neg (Nat.not_lt.2 hlen), hvalue]

end TokenGate.Json
