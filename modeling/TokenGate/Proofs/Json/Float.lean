/-
Floating-point numbers in JSON documents, written and read back.

Whatever the number is, what was written of it is read as a floating-point number again, and what
follows is left over (`exists_readsAs_float`).  Which number it is plays no part here: the point is
that a document with such numbers can be read, and that all else in it comes back as it was.
`exists_read_write` says so of an object whose values are flat or such numbers, as the payload of a
token is.

A finite number is written with a point or with an exponent, or with both (`Decimal`), and so it is
never read as an integer.
-/
import TokenGate.Proofs.Json.Document
import TokenGate.Proofs.Number.Shortest

namespace TokenGate.Json

open Binary64 Encoding

/-! ### Numbers with a point or an exponent -/

/-- A letter, a sign and digits. -/
def Exponent (text : List Char) : Prop :=
  ∃ sign ds, (sign = '+' ∨ sign = '-') ∧ Digits ds ∧ text = 'e' :: sign :: ds

/-- Digits with a fraction, with an exponent, or with both. -/
inductive Decimal : List Char → Prop
  | fraction {whole fraction : List Char} (hw : Whole whole) (hf : Digits fraction) :
      Decimal (whole ++ '.' :: fraction)
  | exponent {whole e : List Char} (hw : Whole whole) (he : Exponent e) : Decimal (whole ++ e)
  | both {whole fraction e : List Char} (hw : Whole whole) (hf : Digits fraction)
      (he : Exponent e) : Decimal (whole ++ '.' :: (fraction ++ e))

variable {limit : Nat} {rest : List Char}

theorem fraction?_append {fraction : List Char} (hf : Digits fraction)
    (hr : ∀ c ∈ rest.head?, c.isDigit = false) :
    fraction? ('.' :: (fraction ++ rest)) = some (fraction, rest) := by
  have hne : fraction.isEmpty = false := by simpa using hf.ne_nil
  rw [fraction?, spanDigits_append hf hr]
  simp only [hne, Bool.false_eq_true, if_false]

theorem fraction?_exponent {e : List Char} (he : Exponent e) (rest : List Char) :
    fraction? (e ++ rest) = none := by
  obtain ⟨sign, ds, -, -, rfl⟩ := he
  rfl

theorem exists_exponent? {e : List Char} (he : Exponent e) :
    ∃ n, ∀ rest : List Char, (∀ c ∈ rest.head?, c.isDigit = false) →
      exponent? (e ++ rest) = some (n, rest) := by
  obtain ⟨sign, ds, hs, hd, rfl⟩ := he
  have hne : ds.isEmpty = false := by simpa using hd.ne_nil
  rcases hs with rfl | rfl
  · refine ⟨Nat.ofDigitChars 10 ds 0, fun rest hr => ?_⟩
    simp only [List.cons_append, exponent?, decide_true, Bool.true_or, if_true,
      spanDigits_append hd hr, hne, Bool.false_eq_true, if_false]
  · refine ⟨-Nat.ofDigitChars 10 ds 0, fun rest hr => ?_⟩
    simp only [List.cons_append, exponent?, decide_true, Bool.true_or, if_true,
      spanDigits_append hd hr, hne, Bool.false_eq_true, if_false]

/-- A number is read by what follows its digits. -/
theorem number_after_whole (negative : Bool) {whole tail : List Char} (hw : Whole whole)
    (ht : ∀ c ∈ tail.head?, c.isDigit = false) :
    number limit ((if negative then ['-'] else []) ++ whole ++ tail) =
      match fraction? tail with
      | some (fraction, rest) =>
        match exponent? rest with
        | some (exponent, rest) => .ok (.float (decimal negative whole fraction exponent), rest)
        | none => .ok (.float (decimal negative whole fraction 0), rest)
      | none =>
        match exponent? tail with
        | some (exponent, rest) => .ok (.float (decimal negative whole [] exponent), rest)
        | none =>
          if whole.length > limit then .error (.tooLong whole.length)
          else .ok (.int (integer negative whole), tail) := by
  rw [number, spanSign_append negative hw.toDigits]
  dsimp only
  rw [spanWhole_append hw ht]
  rcases whole with - | ⟨d, ds⟩
  · exact absurd rfl hw.ne_nil
  · rfl

/-- **A number with a point or an exponent is read as a floating-point number.** -/
theorem exists_number_decimal {body : List Char} (hb : Decimal body) (negative : Bool) :
    ∃ y, ∀ rest, EndsNumber rest →
      number limit ((if negative then ['-'] else []) ++ body ++ rest) = .ok (.float y, rest) := by
  have hpoint : ∀ {tail : List Char}, ∀ c ∈ ('.' :: tail).head?, c.isDigit = false := by
    rintro tail c ⟨⟩
    rfl
  have hletter : ∀ {e rest : List Char}, Exponent e →
      ∀ c ∈ (e ++ rest).head?, c.isDigit = false := by
    rintro e rest ⟨sign, ds, -, -, rfl⟩ c ⟨⟩
    rfl
  cases hb with
  | @fraction whole fraction hw hf =>
    refine ⟨decimal negative whole fraction 0, fun rest hr => ?_⟩
    rw [← List.append_assoc, List.append_assoc _ _ rest, List.cons_append,
      number_after_whole negative hw hpoint, fraction?_append hf hr.no_digit]
    dsimp only
    rw [exponent?_of_endsNumber hr]
  | @exponent whole e hw he =>
    obtain ⟨n, hn⟩ := exists_exponent? he
    refine ⟨decimal negative whole [] n, fun rest hr => ?_⟩
    rw [← List.append_assoc, List.append_assoc _ _ rest, number_after_whole negative hw (hletter he),
      fraction?_exponent he, hn rest hr.no_digit]
  | @both whole fraction e hw hf he =>
    obtain ⟨n, hn⟩ := exists_exponent? he
    refine ⟨decimal negative whole fraction n, fun rest hr => ?_⟩
    rw [← List.append_assoc, List.append_assoc _ _ rest, List.cons_append,
      List.append_assoc fraction, number_after_whole negative hw hpoint,
      fraction?_append hf (hletter he)]
    dsimp only
    rw [hn rest hr.no_digit]

/-! ### What is written -/

theorem digits_replicate_zero (k : Nat) {ds : List Char} (hd : Digits ds) :
    Digits (List.replicate k '0' ++ ds) where
  ne_nil h := hd.ne_nil (List.append_eq_nil_iff.1 h).2
  isDigit c hc := by
    rcases List.mem_append.1 hc with hc | hc
    · rw [(List.mem_replicate.1 hc).2]
      rfl
    · exact hd.isDigit c hc

theorem digits_zero : Digits ['0'] := ⟨List.cons_ne_nil _ _, by simp⟩

theorem whole_zero : Whole ['0'] := ⟨digits_zero, fun _ => rfl⟩

theorem exponent_exponentText (n : Int) : Exponent ('e' :: exponentText n) := by
  refine ⟨if n < 0 then '-' else '+', _, ?_, digits_replicate_zero _ (digits_toDigits n.natAbs),
    rfl⟩
  split
  · exact .inr rfl
  · exact .inl rfl

/-- The first digits and zeros after them stand in front of a point. -/
theorem whole_take {digits : List Char} (hd : Digits digits) (hz : digits.head? ≠ some '0')
    {k : Nat} (hk : 0 < k) (zeros : Nat) :
    Whole (digits.take k ++ List.replicate zeros '0') := by
  rcases digits with - | ⟨d, ds⟩
  · exact absurd rfl hd.ne_nil
  · obtain ⟨k, rfl⟩ : ∃ j, k = j + 1 := ⟨k - 1, by omega⟩
    rw [List.take_succ_cons, List.cons_append]
    refine ⟨⟨List.cons_ne_nil _ _, fun c hc => ?_⟩, fun h => absurd h hz⟩
    rw [← List.cons_append, ← List.take_succ_cons, List.mem_append] at hc
    rcases hc with hc | hc
    · exact hd.isDigit c (List.mem_of_mem_take hc)
    · rw [(List.mem_replicate.1 hc).2]
      rfl

theorem digits_drop {digits : List Char} (hd : Digits digits) {k : Nat}
    (h : (digits.drop k).isEmpty = false) : Digits (digits.drop k) :=
  ⟨by simpa using h, fun c hc => hd.isDigit c (List.mem_of_mem_drop hc)⟩

/-- Digits that do not start with a zero are laid out as such a number. -/
theorem decimal_layOut {digits : List Char} (hd : Digits digits) (hz : digits.head? ≠ some '0')
    (point : Int) : Decimal (layOut digits point) := by
  rw [layOut]
  split
  · split
    · -- a zero, the point, and zeros in front of the digits
      rw [List.append_assoc]
      exact .fraction whole_zero (digits_replicate_zero _ hd)
    · next hpos =>
      refine .fraction (whole_take hd hz (by omega) _) ?_
      split
      · exact digits_zero
      · next hne => exact digits_drop hd (Bool.not_eq_true _ ▸ hne)
  · have hfirst := whole_take hd hz (by decide : 0 < 1) 0
    rw [List.replicate_zero, List.append_nil] at hfirst
    dsimp only
    split
    · rw [List.append_nil]
      exact .exponent hfirst (exponent_exponentText _)
    · next hne =>
      rw [List.append_assoc]
      exact .both hfirst (digits_drop hd (Bool.not_eq_true _ ▸ hne)) (exponent_exponentText _)

/-- A finite number is written with a point or an exponent. -/
theorem exists_text_finite (negative : Bool) (m : Nat) (e : Int) : ∃ body, Decimal body ∧
    ((finite negative m e).text floatWords).toList = (if negative then ['-'] else []) ++ body := by
  rw [text, String.toList_ofList]
  refine ⟨_, ?_, rfl⟩
  split
  · exact .fraction whole_zero digits_zero
  · next hm =>
    obtain ⟨hd, hz⟩ := digits_shortest (Nat.pos_of_ne_zero hm) e
    exact decimal_layOut hd hz _

theorem Decimal.exists_cons {body : List Char} (h : Decimal body) :
    ∃ d ds, d.isDigit = true ∧ body = d :: ds := by
  have hwhole : ∀ {whole tail : List Char}, Whole whole →
      ∃ d ds, d.isDigit = true ∧ whole ++ tail = d :: ds := by
    intro whole tail hw
    obtain ⟨d, ds, rfl⟩ := List.exists_cons_of_ne_nil hw.ne_nil
    exact ⟨d, ds ++ tail, hw.isDigit d List.mem_cons_self, rfl⟩
  cases h with
  | fraction hw => exact hwhole hw
  | exponent hw => exact hwhole hw
  | both hw => exact hwhole hw

theorem Decimal.ascii {body : List Char} (h : Decimal body) : ∀ c ∈ body, Ascii c := by
  have hdigits : ∀ {ds : List Char}, Digits ds → ∀ c ∈ ds, Ascii c := fun hd c hc =>
    ascii_of_isDigit (hd.isDigit c hc)
  have hexponent : ∀ {e : List Char}, Exponent e → ∀ c ∈ e, Ascii c := by
    rintro e ⟨sign, ds, hs, hd, rfl⟩
    refine List.forall_mem_cons.2 ⟨by decide, List.forall_mem_cons.2 ⟨?_, hdigits hd⟩⟩
    rcases hs with rfl | rfl <;> decide
  have happend : ∀ {a b : List Char}, (∀ c ∈ a, Ascii c) → (∀ c ∈ b, Ascii c) →
      ∀ c ∈ a ++ b, Ascii c := fun ha hb c hc => (List.mem_append.1 hc).elim (ha c) (hb c)
  cases h with
  | fraction hw hf =>
    exact happend (hdigits hw.toDigits) (List.forall_mem_cons.2 ⟨by decide, hdigits hf⟩)
  | exponent hw he => exact happend (hdigits hw.toDigits) (hexponent he)
  | both hw hf he =>
    exact happend (hdigits hw.toDigits)
      (List.forall_mem_cons.2 ⟨by decide, happend (hdigits hf) (hexponent he)⟩)

/-! ### Reading it -/

/-- **What was written of a floating-point number is read as one.** -/
theorem exists_readsAs_float (depth : Nat) (x : Binary64) :
    ∃ y, ReadsAs depth (.float x) (.float y) := by
  rcases x with - | (- | -) | ⟨negative, m, e⟩
  · exact ⟨.nan, reads_word rfl (by decide) fun _ => rfl⟩
  · exact ⟨.infinite false, reads_word rfl (by decide) fun _ => rfl⟩
  · exact ⟨.infinite true, reads_word rfl (by decide) fun _ => rfl⟩
  obtain ⟨body, hbody, htext⟩ := exists_text_finite negative m e
  obtain ⟨y, hy⟩ := exists_number_decimal hbody negative
  obtain ⟨d, ds, hd, rfl⟩ := hbody.exists_cons
  refine ⟨y, fun fuel rest hf hr => ?_⟩
  have hnumber := hy rest hr
  rw [write, htext] at hf ⊢
  rw [List.append_assoc, List.cons_append] at hnumber ⊢
  obtain ⟨fuel, rfl⟩ : ∃ k, fuel = k + 1 := by
    rw [List.length_append, List.length_cons] at hf
    exact ⟨fuel - 1, by omega⟩
  rw [value_signed _ hd, hnumber]

theorem starts_float (x : Binary64) : Starts (write .compact (.float x)) := by
  rcases x with - | (- | -) | ⟨negative, m, e⟩
  · exact ⟨'N', _, rfl, rfl, by decide⟩
  · exact ⟨'I', _, rfl, rfl, by decide⟩
  · exact ⟨'-', _, rfl, rfl, by decide⟩
  obtain ⟨body, hbody, htext⟩ := exists_text_finite negative m e
  obtain ⟨d, ds, hd, rfl⟩ := hbody.exists_cons
  rw [write, htext]
  exact starts_signed negative hd

theorem ascii_float (x : Binary64) : ∀ c ∈ write .compact (.float x), Ascii c := by
  rcases x with - | (- | -) | ⟨negative, m, e⟩
  · exact ascii_of_all rfl
  · exact ascii_of_all rfl
  · exact ascii_of_all rfl
  obtain ⟨body, hbody, htext⟩ := exists_text_finite negative m e
  rw [write, htext]
  intro c hc
  rcases List.mem_append.1 hc with hc | hc
  · split at hc
    · rw [List.mem_singleton.1 hc]
      decide
    · cases hc
  · exact hbody.ascii c hc

/-! ### Objects with such numbers -/

/-- **An object with floating-point numbers can be read**, and all its other values are read back as
they were. -/
theorem exists_read_write {p : Record Datum} (hn : p.names.Nodup)
    (h : ∀ e ∈ p, Writable (depthLimit - 1) e.2 ∨ ∃ x, e.2 = .float x) :
    ∃ p' : Record Datum, read (encodeUtf8 (write .compact (.dict p))) = .ok (.dict p') ∧
      p'.names = p.names ∧
      ∀ name d, p.get? name = some d → (∀ x, d ≠ .float x) → p'.get? name = some d := by
  have hvalues : ∀ d ∈ p.map Prod.snd, ∃ d', ReadsAs (depthLimit - 1) d d' ∧
      ((∀ x, d ≠ .float x) → d' = d) := by
    intro d hd
    obtain ⟨e, he, rfl⟩ := List.mem_map.1 hd
    rcases h e he with hw | ⟨x, hx⟩
    · exact ⟨e.2, value_write hw, fun _ => rfl⟩
    · obtain ⟨y, hy⟩ := exists_readsAs_float (depthLimit - 1) x
      rw [hx]
      exact ⟨.float y, hy, fun hne => absurd rfl (hne x)⟩
  choose! f hf hsame using hvalues
  have hmem : ∀ e ∈ p, e.2 ∈ p.map Prod.snd := fun e he => List.mem_map.2 ⟨e, he, rfl⟩
  have hstarts : ∀ e ∈ p, Starts (write .compact e.2) := by
    intro e he
    rcases h e he with hw | ⟨x, hx⟩
    · exact starts_write hw
    · rw [hx]
      exact starts_float x
  have hascii : ∀ e ∈ p, ∀ c ∈ write .compact e.2, Ascii c := by
    intro e he
    rcases h e he with hw | ⟨x, hx⟩
    · exact ascii_write hw
    · rw [hx]
      exact ascii_float x
  refine ⟨p.map fun e => (e.1, f e.2), ?_, Record.names_mapValues f p, fun name d hd hne => ?_⟩
  · exact read_of_readsAs (readsAs_dict hn (fun e he => hf _ (hmem e he)) hstarts)
      ⟨_, _, rfl, rfl, by decide⟩ (ascii_write_dict hascii)
  · rw [Record.get?_mapValues, hd, Option.map_some,
      hsame d (hmem _ (Record.mem_of_get? hd)) hne]

end TokenGate.Json
