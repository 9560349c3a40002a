/-
Whole JSON documents in bytes, written and read back.

What is written is ASCII without the null character (`ascii_write`), so its bytes are the characters
themselves, and no reader takes them for another encoding (`decodeDocument_encodeUtf8`).  With
`value_write` for the text, `read_write` follows: the bytes of a writable value are read as that
value.
-/
import TokenGate.Proofs.Json.RoundTrip

namespace TokenGate

/-- The characters that UTF-8 keeps and that no encoding is told by. -/
def Encoding.Ascii (c : Char) : Prop := 0 < c.toNat ∧ c.toNat < 128

namespace Encoding

instance (c : Char) : Decidable (Ascii c) := inferInstanceAs (Decidable (_ ∧ _))

variable {cs : List Char}

/-! ### Bytes of ASCII texts -/

theorem encodeUtf8_cons (c : Char) (cs : List Char) :
    encodeUtf8 (c :: cs) = String.utf8EncodeChar c ++ encodeUtf8 cs := by
  rw [encodeUtf8, List.flatMap_cons]
  rfl

theorem utf8EncodeChar_of_ascii {c : Char} (hc : Ascii c) :
    String.utf8EncodeChar c = [UInt8.ofNat c.toNat] := by
  have hsize : c.utf8Size = 1 := by
    have hle : c.val ≤ 0x7F := UInt32.le_iff_toNat_le.2 (Nat.le_of_lt_succ hc.2)
    exact if_pos hle
  rw [String.utf8EncodeChar_eq_singleton hsize]
  rfl

theorem toNat_ofNat_of_ascii {c : Char} (hc : Ascii c) : (UInt8.ofNat c.toNat).toNat = c.toNat := by
  rw [UInt8.toNat_ofNat', Nat.mod_eq_of_lt (Nat.lt_trans hc.2 (by decide))]

/-- The bytes of an ASCII text are its characters. -/
theorem encodeUtf8_of_ascii (h : ∀ c ∈ cs, Ascii c) :
    encodeUtf8 cs = cs.map fun c => UInt8.ofNat c.toNat := by
  induction cs with
  | nil => rfl
  | cons c cs ih =>
    obtain ⟨hc, hcs⟩ := List.forall_mem_cons.1 h
    rw [encodeUtf8_cons, utf8EncodeChar_of_ascii hc, ih hcs]
    rfl

theorem decodeUtf8From_of_ascii (position : Nat) (h : ∀ c ∈ cs, Ascii c) :
    decodeUtf8From position (cs.map fun c => UInt8.ofNat c.toNat) = .ok cs := by
  induction cs generalizing position with
  | nil => rfl
  | cons c cs ih =>
    obtain ⟨hc, hcs⟩ := List.forall_mem_cons.1 h
    have hlt : UInt8.ofNat c.toNat < 0x80 := by
      rw [UInt8.lt_iff_toNat_lt, toNat_ofNat_of_ascii hc]
      exact hc.2
    rw [List.map_cons, decodeUtf8From.eq_def]
    simp only [if_pos hlt, toNat_ofNat_of_ascii hc, ih (position + 1) hcs, consText, Except.map,
      Char.ofNat_toNat]

/-- Every mark holds the null byte or one that is not ASCII. -/
theorem exists_mem_mark {m : List UInt8 × Encoding × Nat} (h : m ∈ marks) :
    ∃ b ∈ m.1, b.toNat = 0 ∨ 128 ≤ b.toNat := by
  have hall : (marks.all fun m => m.1.any fun b => b.toNat == 0 || 128 ≤ b.toNat) = true := rfl
  obtain ⟨b, hb, hbyte⟩ := List.any_eq_true.1 (List.all_eq_true.1 hall m h)
  rw [Bool.or_eq_true, beq_iff_eq, decide_eq_true_eq] at hbyte
  exact ⟨b, hb, hbyte⟩

/-- Bytes that start no mark and are not null tell UTF-8. -/
theorem detect_of_ascii {bytes : List UInt8} (h : ∀ b ∈ bytes, 0 < b.toNat ∧ b.toNat < 128) :
    detect bytes = (.utf8, 0, 0) := by
  have hmarks : (marks.find? fun m => m.1.isPrefixOf bytes) = none := by
    rw [List.find?_eq_none]
    intro m hm hprefix
    obtain ⟨b, hb, hbyte⟩ := exists_mem_mark hm
    have hascii := h b ((List.isPrefixOf_iff_prefix.1 hprefix).subset hb)
    omega
  have hne : ∀ b ∈ bytes, (b == 0) = false := by
    intro b hb
    rw [beq_eq_false_iff_ne]
    rintro rfl
    exact absurd (h 0 hb).1 (by decide)
  have hunmarked : unmarked bytes = .utf8 := by
    unfold unmarked
    split
    · next a b c d _ =>
      rw [hne a (by simp), hne b (by simp)]
      rfl
    · next a b =>
      rw [hne a (by simp), hne b (by simp)]
      rfl
    · rfl
  rw [detect, hmarks]
  dsimp only
  rw [hunmarked]

/-- An ASCII document is read as it was written. -/
theorem decodeDocument_encodeUtf8 (h : ∀ c ∈ cs, Ascii c) :
    decodeDocument (encodeUtf8 cs) = .ok cs := by
  have hbytes : ∀ b ∈ cs.map fun c => UInt8.ofNat c.toNat, 0 < b.toNat ∧ b.toNat < 128 := by
    intro b hb
    obtain ⟨c, hc, rfl⟩ := List.mem_map.1 hb
    rw [toNat_ofNat_of_ascii (h c hc)]
    exact h c hc
  rw [decodeDocument, encodeUtf8_of_ascii h, detect_of_ascii hbytes]
  exact decodeUtf8From_of_ascii 0 h

end Encoding

namespace Json

open Encoding Text

/-! ### Written documents are ASCII -/

theorem ascii_of_all {cs : List Char} (h : (cs.all fun c => decide (Ascii c)) = true) :
    ∀ c ∈ cs, Ascii c :=
  fun c hc => of_decide_eq_true (List.all_eq_true.1 h c hc)

theorem ascii_of_isDigit {c : Char} (h : c.isDigit = true) : Ascii c := by
  rw [Char.isDigit, Bool.and_eq_true, decide_eq_true_eq, decide_eq_true_eq] at h
  have hlow : 48 ≤ c.toNat := h.1
  have hhigh : c.toNat ≤ 57 := h.2
  exact ⟨by omega, by omega⟩

theorem ascii_unitEscape (unit : Nat) : ∀ c ∈ unitEscape unit, Ascii c := by
  have hdigit : ∀ n, Ascii (hexDigit (n % 16)) := fun n =>
    (show ∀ m < 16, Ascii (hexDigit m) by decide) _ (Nat.mod_lt _ (by decide))
  intro c hc
  rw [unitEscape, hexPadded_four] at hc
  simp only [List.mem_cons, List.not_mem_nil, or_false] at hc
  rcases hc with rfl | rfl | rfl | rfl | rfl | rfl
  · decide
  · decide
  all_goals exact hdigit _

theorem ascii_writeChar (c : Char) : ∀ x ∈ writeChar c, Ascii x := by
  unfold writeChar
  -- the seven characters whose escape is one letter
  iterate 7 (split; · exact ascii_of_all rfl)
  split
  · next h =>
    rw [Bool.and_eq_true, decide_eq_true_eq, decide_eq_true_eq] at h
    intro x hx
    rw [List.mem_singleton.1 hx]
    exact ⟨by omega, by omega⟩
  split
  · exact ascii_unitEscape _
  · intro x hx
    rcases List.mem_append.1 hx with hx | hx
    · exact ascii_unitEscape _ x hx
    · exact ascii_unitEscape _ x hx

theorem ascii_writeText (s : String) : ∀ c ∈ writeText s, Ascii c := by
  intro c hc
  rw [writeText, List.mem_append, List.mem_cons, List.mem_flatMap, List.mem_singleton] at hc
  rcases hc with (rfl | ⟨x, -, hx⟩) | rfl
  · decide
  · exact ascii_writeChar x c hx
  · decide

theorem ascii_writeInt (n : Int) : ∀ c ∈ writeInt n, Ascii c := by
  intro c hc
  rw [writeInt, List.mem_append] at hc
  rcases hc with hc | hc
  · split at hc
    · rw [List.mem_singleton.1 hc]
      decide
    · cases hc
  · exact ascii_of_isDigit (Nat.isDigit_of_mem_toDigits (by decide) (by decide) hc)

theorem mem_joinWith {separator : List Char} {texts : List (List Char)} {c : Char}
    (h : c ∈ joinWith separator texts) : c ∈ separator ∨ ∃ text ∈ texts, c ∈ text := by
  induction texts with
  | nil => cases h
  | cons first others ih =>
    rcases others with - | ⟨second, others⟩
    · exact .inr ⟨first, List.mem_cons_self, h⟩
    · rw [joinWith_cons_cons, List.append_assoc, List.mem_append, List.mem_append] at h
      rcases h with h | h | h
      · exact .inr ⟨first, List.mem_cons_self, h⟩
      · exact .inl h
      · refine (ih h).imp_right ?_
        rintro ⟨text, ht, hc⟩
        exact ⟨text, List.mem_cons_of_mem _ ht, hc⟩

theorem ascii_writeMember {e : String × Datum} (h : ∀ c ∈ write .compact e.2, Ascii c) :
    ∀ c ∈ writeMember .compact e, Ascii c := by
  intro c hc
  rw [writeMember, List.mem_append, List.mem_append] at hc
  rcases hc with (hc | hc) | hc
  · exact ascii_writeText e.1 c hc
  · rw [List.mem_singleton.1 hc]
    decide
  · exact h c hc

/-- What stands between brackets is ASCII if the items are. -/
theorem ascii_enclosed {opening closing : Char} {texts : List (List Char)} (ho : Ascii opening)
    (hc : Ascii closing) (ht : ∀ text ∈ texts, ∀ c ∈ text, Ascii c) :
    ∀ c ∈ opening :: joinWith [','] texts ++ [closing], Ascii c := by
  intro c hmem
  rw [List.mem_append, List.mem_cons, List.mem_singleton] at hmem
  rcases hmem with (rfl | hmem) | rfl
  · exact ho
  · rcases mem_joinWith hmem with hs | ⟨text, htext, hx⟩
    · rw [List.mem_singleton.1 hs]
      decide
    · exact ht text htext c hx
  · exact hc

theorem ascii_write_dict {pairs : Record Datum}
    (h : ∀ e ∈ pairs, ∀ c ∈ write .compact e.2, Ascii c) :
    ∀ c ∈ write .compact (.dict pairs), Ascii c := by
  rw [write, writeMembers_eq_map]
  refine ascii_enclosed (by decide) (by decide) ?_
  intro text ht
  obtain ⟨e, he, rfl⟩ := List.mem_map.1 ht
  exact ascii_writeMember (h e he)

/-- **A document is ASCII**, whatever its texts hold. -/
theorem ascii_write {depth : Nat} {d : Datum} (h : Writable depth d) :
    ∀ c ∈ write .compact d, Ascii c := by
  induction h with
  | null => exact ascii_of_all rfl
  | bool b => cases b <;> exact ascii_of_all rfl
  | int h =>
    rw [write]
    exact ascii_writeInt _
  | text s =>
    rw [write]
    exact ascii_writeText s
  | @list _ values h ih =>
    rw [write, writeItems_eq_map]
    refine ascii_enclosed (by decide) (by decide) ?_
    intro text ht
    obtain ⟨d, hd, rfl⟩ := List.mem_map.1 ht
    exact ih d hd
  | @dict _ members hn h ih => exact ascii_write_dict ih

/-! ### Reading back -/

/-- The bytes of an ASCII document are read as the value that its text is read as. -/
theorem read_of_readsAs {d d' : Datum} (h : ReadsAs depthLimit d d')
    (hs : Starts (write .compact d)) (ha : ∀ c ∈ write .compact d, Ascii c) :
    read (encodeUtf8 (write .compact d)) = .ok d' := by
  have hread := h (2 * (write .compact d).length + 2) [] (by omega) (by rintro c ⟨⟩)
  rw [List.append_nil] at hread
  have hdocument : document (write .compact d) = .ok d' := by
    rw [document, documentUpTo, skipBlanks_of_starts hs, hread]
    rfl
  rw [read, decodeDocument_encodeUtf8 ha]
  simp only [hdocument]

/-- **The bytes of a document are read as the value that was written.** -/
theorem read_write {d : Datum} (h : Writable depthLimit d) :
    read (encodeUtf8 (write .compact d)) = .ok d :=
  read_of_readsAs (value_write h) (starts_write h) (ascii_write h)

end Json

end TokenGate
