/-
What a JSON document can hold.

A property that words, numbers and texts have, and that lists and objects keep, holds of whatever is
read (`Kept.of_read`); the induction is on the fuel, over values, items and members at once.  Two
properties are of this kind:

* `Plain` are the values of documents: words, numbers, texts, lists and objects, the names in each
  object distinct.  No fixed tuple, set or bytes are among them (`plain_of_read`).
* An integer that was read is not too long to be written again (`printable_of_read`).
-/
import TokenGate.Json.Reader
import TokenGate.Proofs.Outcome
import TokenGate.Proofs.Record

namespace TokenGate

namespace Datum

/-- A list is oversized if one of its items is. -/
theorem oversized_list_eq_false_iff {items : List Datum} :
    (Datum.list items).oversized = false ↔ ∀ d ∈ items, d.oversized = false := by
  rw [oversized]
  induction items with
  | nil => exact ⟨fun _ d hd => (nomatch hd), fun _ => rfl⟩
  | cons first others ih => rw [anyOversized, Bool.or_eq_false_iff, ih, List.forall_mem_cons]

/-- An object is oversized if the value of a member is. -/
theorem oversized_dict_eq_false_iff {members : Record Datum} :
    (Datum.dict members).oversized = false ↔ ∀ e ∈ members, e.2.oversized = false := by
  rw [oversized]
  induction members with
  | nil => exact ⟨fun _ e he => (nomatch he), fun _ => rfl⟩
  | cons first others ih =>
    obtain ⟨name, d⟩ := first
    rw [anyMemberOversized, Bool.or_eq_false_iff, ih, List.forall_mem_cons]

end Datum

namespace Json

/-- A value of the kinds that documents have, the names in its objects distinct. -/
inductive Plain : Datum → Prop
  | null : Plain .null
  | bool (b : Bool) : Plain (.bool b)
  | int (n : Int) : Plain (.int n)
  | float (x : Binary64) : Plain (.float x)
  | text (s : String) : Plain (.text s)
  | list {items : List Datum} (h : ∀ d ∈ items, Plain d) : Plain (.list items)
  | dict {members : Record Datum} (hn : members.names.Nodup) (h : ∀ e ∈ members, Plain e.2) :
      Plain (.dict members)

variable {limit fuel depth : Nat} {text rest : List Char} {d : Datum}

/-- A property of values that leaves have, integers up to a number of digits, and that lists and
objects keep. -/
structure Kept (limit : Nat) (P : Datum → Prop) : Prop where
  null : P .null
  bool (b : Bool) : P (.bool b)
  int {n : Int} (h : n.natAbs < Nat.pow 10 limit) : P (.int n)
  float (x : Binary64) : P (.float x)
  text (s : String) : P (.text s)
  list {items : List Datum} (h : ∀ d ∈ items, P d) : P (.list items)
  dict {members : Record Datum} (hn : members.names.Nodup) (h : ∀ e ∈ members, P e.2) :
    P (.dict members)

/-- All values that are read with some fuel have the property, and so do items and members. -/
structure KeptUpTo (P : Datum → Prop) (limit fuel : Nat) : Prop where
  value : ∀ {depth text d rest}, Json.value limit fuel depth text = .ok (d, rest) → P d
  items : ∀ {depth text values rest},
    Json.items limit fuel depth text = .ok (values, rest) → ∀ d ∈ values, P d
  members : ∀ {depth text pairs rest},
    Json.members limit fuel depth text = .ok (pairs, rest) → ∀ e ∈ pairs, P e.2

/-! ### Digits -/

theorem ofDigitChars_lt {digits : List Char} (h : ∀ c ∈ digits, c.isDigit = true) :
    Nat.ofDigitChars 10 digits 0 < Nat.pow 10 digits.length := by
  induction digits with
  | nil => decide
  | cons c digits ih =>
    obtain ⟨hc, hdigits⟩ := List.forall_mem_cons.1 h
    have hvalue : c.toNat - '0'.toNat ≤ 9 := by
      rw [Char.isDigit, Bool.and_eq_true, decide_eq_true_eq, decide_eq_true_eq] at hc
      have hhigh : c.toNat ≤ 57 := hc.2
      have hzero : '0'.toNat = 48 := rfl
      omega
    have hrest := ih hdigits
    rw [Nat.ofDigitChars_cons, Nat.ofDigitChars_eq_ofDigitChars_zero, List.length_cons, Nat.mul_zero,
      Nat.zero_add]
    -- the first digit counts as many powers of ten as digits follow
    have hfirst := Nat.mul_le_mul_left (Nat.pow 10 digits.length) hvalue
    have hpow : Nat.pow 10 (digits.length + 1) = Nat.pow 10 digits.length * 10 := rfl
    change Nat.pow 10 digits.length * (c.toNat - '0'.toNat) + _ < _
    omega

theorem isDigit_of_spanWhole {body whole rest : List Char} (h : spanWhole body = (whole, rest)) :
    ∀ c ∈ whole, c.isDigit = true := by
  unfold spanWhole at h
  split at h
  · cases h
    exact List.forall_mem_singleton.2 rfl
  · cases h
    exact List.all_eq_true.1 List.all_takeWhile

theorem natAbs_integer_lt {negative : Bool} {whole : List Char}
    (h : ∀ c ∈ whole, c.isDigit = true) (hlen : whole.length ≤ limit) :
    (integer negative whole).natAbs < Nat.pow 10 limit := by
  have hlt := ofDigitChars_lt h
  have hpow : Nat.pow 10 whole.length ≤ Nat.pow 10 limit :=
    Nat.pow_le_pow_right (by decide) hlen
  have habs : (integer negative whole).natAbs = Nat.ofDigitChars 10 whole 0 := by
    rw [integer]
    cases negative <;> simp
  rw [habs]
  exact Nat.lt_of_lt_of_le hlt hpow

namespace Kept

variable {P : Datum → Prop} (hP : Kept limit P)

include hP

/-! ### Leaves -/

theorem of_word? (h : word? text = some (d, rest)) : P d := by
  obtain ⟨⟨word, value⟩, hw, hv⟩ := List.exists_of_findSome?_eq_some h
  obtain ⟨tail, -, he⟩ := Option.map_eq_some_iff.1 hv
  cases he
  have hwords : ∀ w ∈ words, P w.2 := by
    simp only [words, List.forall_mem_cons]
    exact ⟨hP.null, hP.bool _, hP.bool _, hP.float _, hP.float _, hP.float _,
      fun w hw => nomatch hw⟩
  exact hwords _ hw

theorem of_number (h : number limit text = .ok (d, rest)) : P d := by
  unfold number at h
  dsimp only at h
  split at h
  · cases h
  next hwhole =>
  -- a fraction or an exponent makes the number a floating-point one
  split at h
  · split at h
    · cases h
      exact hP.float _
    · cases h
      exact hP.float _
  split at h
  · cases h
    exact hP.float _
  -- digits alone are an integer, unless there are too many
  split at h
  · cases h
  · next hlen =>
    cases h
    exact hP.int (natAbs_integer_lt (isDigit_of_spanWhole hwhole) (Nat.not_lt.1 hlen))

/-! ### Values -/

theorem of_value (ih : KeptUpTo P limit fuel)
    (h : value limit (fuel + 1) depth text = .ok (d, rest)) : P d := by
  rcases text with - | ⟨c, cs⟩
  · cases h
  unfold value at h
  -- a text
  split at h
  · obtain ⟨⟨s, tail⟩, -, he⟩ := map_eq_ok.1 h
    cases he
    exact hP.text s
  -- an object, whose members are read as pairs and kept with distinct names
  split at h
  · split at h
    · cases h
    · dsimp only at h
      split at h
      · cases h
        exact hP.dict List.nodup_nil (fun e he => nomatch he)
      · obtain ⟨⟨pairs, tail⟩, hm, he⟩ := map_eq_ok.1 h
        cases he
        exact hP.dict (Record.nodup_names_ofPairs pairs) (Record.forall_ofPairs (ih.members hm))
  -- a list
  split at h
  · split at h
    · cases h
    · dsimp only at h
      split at h
      · cases h
        exact hP.list (fun d hd => nomatch hd)
      · obtain ⟨⟨values, tail⟩, hi, he⟩ := map_eq_ok.1 h
        cases he
        exact hP.list (ih.items hi)
  -- a word or a number
  split at h
  · next hw =>
    cases h
    exact hP.of_word? hw
  · exact hP.of_number h

omit hP in
theorem of_items (ih : KeptUpTo P limit fuel) {values : List Datum}
    (h : items limit (fuel + 1) depth text = .ok (values, rest)) : ∀ d ∈ values, P d := by
  rw [items] at h
  split at h
  · cases h
  next hv =>
  have hfirst := ih.value hv
  split at h
  · cases h
  split at h
  · cases h
    exact List.forall_mem_singleton.2 hfirst
  split at h
  · obtain ⟨⟨others, tail⟩, ho, he⟩ := map_eq_ok.1 h
    cases he
    exact List.forall_mem_cons.2 ⟨hfirst, ih.items ho⟩
  · cases h

omit hP in
theorem of_members (ih : KeptUpTo P limit fuel) {pairs : Record Datum}
    (h : members limit (fuel + 1) depth text = .ok (pairs, rest)) : ∀ e ∈ pairs, P e.2 := by
  rw [members] at h
  -- the name, which is a text
  split at h
  · cases h
  split at h
  · cases h
  -- the colon and the value
  split at h
  · cases h
  split at h
  · split at h
    · cases h
    next hv =>
    have hfirst := ih.value hv
    -- the brace at the end, or a comma and more members
    split at h
    · cases h
    split at h
    · cases h
      exact List.forall_mem_singleton.2 hfirst
    split at h
    · obtain ⟨⟨others, tail⟩, ho, he⟩ := map_eq_ok.1 h
      cases he
      exact List.forall_mem_cons.2 ⟨hfirst, ih.members ho⟩
    · cases h
  · cases h

theorem reads (fuel : Nat) : KeptUpTo P limit fuel := by
  induction fuel with
  | zero =>
    refine ⟨fun h => ?_, fun h => ?_, fun h => ?_⟩
    · rw [value.eq_def] at h
      cases h
    · rw [items] at h
      cases h
    · rw [members] at h
      cases h
  | succ fuel ih => exact ⟨hP.of_value ih, of_items ih, of_members ih⟩

/-! ### Documents -/

omit hP in
/-- What leaves have and lists and objects keep holds of every value that is read. -/
theorem of_read (hP : Kept Datum.digitLimit P) {bytes : List UInt8} (h : read bytes = .ok d) :
    P d := by
  rw [read] at h
  split at h
  · cases h
  split at h
  · cases h
  next hd =>
  cases h
  rw [document, documentUpTo] at hd
  split at hd
  · cases hd
  next hv =>
  split at hd
  · cases hd
    exact (hP.reads _).value hv
  · cases hd

end Kept

/-- **Whatever bytes are read, the value is plain.** -/
theorem plain_of_read {bytes : List UInt8} (h : read bytes = .ok d) : Plain d :=
  Kept.of_read ⟨.null, .bool, fun _ => .int _, .float, .text, .list, .dict⟩ h

/-- **An integer that was read can be written**, wherever it stands in the value. -/
theorem printable_of_read {bytes : List UInt8} (h : read bytes = .ok d) : d.oversized = false := by
  refine Kept.of_read (P := fun d => d.oversized = false)
    ⟨rfl, fun _ => rfl, fun hn => ?_, fun _ => rfl, fun _ => rfl, fun hitems => ?_,
      fun _ hmembers => ?_⟩ h
  · rw [Datum.oversized, Datum.unprintable, decide_eq_false_iff_not, Nat.not_le]
    exact hn
  · exact Datum.oversized_list_eq_false_iff.2 hitems
  · exact Datum.oversized_dict_eq_false_iff.2 hmembers

end Json

end TokenGate
