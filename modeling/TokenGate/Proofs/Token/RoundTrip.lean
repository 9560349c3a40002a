/-
A signed token, verified under its own secret and algorithm.

`verify_sign` says what the verdict is: the payload and the header come back as they were signed, so
that only the payload's own claims and the clock decide.  The payload has to be `Flat`: a text, a
truth value, an integer or a list of texts in every claim, and no name twice.

The signature is compared with a digest of the very characters that were signed, and so no property
of the digest is used.
-/
import TokenGate.Proofs.Json.Document
import TokenGate.Proofs.Json.Kinds
import TokenGate.Token.Verify

namespace TokenGate

/-! ### Segments in base64 -/

namespace Base64Url

/-- Only symbols are written. -/
theorem mem_encode {bytes : List UInt8} {c : Char} (h : c ∈ encode bytes) :
    ∃ n < 64, c = symbol n := by
  fun_induction encode bytes with
  | case1 => cases h
  | case2 a =>
    have ha : a.toNat < 256 := a.toNat_lt_size
    simp only [List.mem_cons, List.not_mem_nil, or_false] at h
    rcases h with rfl | rfl
    all_goals exact ⟨_, by omega, rfl⟩
  | case3 a b =>
    have ha : a.toNat < 256 := a.toNat_lt_size
    have hb : b.toNat < 256 := b.toNat_lt_size
    simp only [List.mem_cons, List.not_mem_nil, or_false] at h
    rcases h with rfl | rfl | rfl
    all_goals exact ⟨_, by omega, rfl⟩
  | case4 a b c rest ih =>
    have ha : a.toNat < 256 := a.toNat_lt_size
    have hb : b.toNat < 256 := b.toNat_lt_size
    have hc : c.toNat < 256 := c.toNat_lt_size
    simp only [List.mem_cons] at h
    rcases h with rfl | rfl | rfl | rfl | h
    · exact ⟨_, by omega, rfl⟩
    · exact ⟨_, by omega, rfl⟩
    · exact ⟨_, by omega, rfl⟩
    · exact ⟨_, by omega, rfl⟩
    · exact ih h

theorem dot_notMem_encode (bytes : List UInt8) : '.' ∉ encode bytes := by
  intro h
  obtain ⟨n, hn, he⟩ := mem_encode h
  exact symbol_ne_dot n hn he.symm

theorem dropEndWhile_pad_encode (bytes : List UInt8) :
    Text.dropEndWhile (· == '=') (encode bytes) = encode bytes := by
  rw [Text.dropEndWhile, List.reverse_eq_iff]
  rcases h : (encode bytes).reverse with - | ⟨c, cs⟩
  · rfl
  · have hc : c ∈ encode bytes := List.mem_reverse.1 (h ▸ List.mem_cons_self)
    obtain ⟨n, hn, rfl⟩ := mem_encode hc
    rw [List.dropWhile_cons_of_neg (by simpa using symbol_ne_pad n hn)]

/-- A written segment has no padding and is read back. -/
theorem decodeSegment_encode (bytes : List UInt8) : decodeSegment (encode bytes) = some bytes := by
  rw [decodeSegment, dropEndWhile_pad_encode]
  simp only [Nat.sub_self, Nat.not_lt_zero, gt_iff_lt, if_false, decide_false, Bool.false_and,
    Bool.false_eq_true, decode_encode]

end Base64Url

/-! ### Flat values -/

namespace Datum

/-- A value that claims have, floating-point numbers left out. -/
inductive Flat : Datum → Prop
  | bool (b : Bool) : Flat (.bool b)
  | int (n : Int) : Flat (.int n)
  | text (s : String) : Flat (.text s)
  | texts (ss : List String) : Flat (.list (ss.map .text))

theorem Flat.writable {d : Datum} (h : Flat d) (ho : d.oversized = false) (depth : Nat) :
    Json.Writable (depth + 1) d := by
  cases h with
  | bool b => exact .bool b
  | int n => exact .int ho
  | text s => exact .text s
  | texts ss =>
    refine .list fun d hd => ?_
    obtain ⟨s, -, rfl⟩ := List.mem_map.1 hd
    exact .text s

/-- A value that claims have: a text, a truth value, a number, or a list of texts. -/
def Simple (d : Datum) : Prop := d.Flat ∨ ∃ x, d = .float x

/-- Integers of three digits can be written. -/
theorem unprintable_of_lt {n : Int} (h : n.natAbs < 1000) : unprintable n = false := by
  have hlimit : 3 ≤ digitLimit := by decide
  rw [unprintable, decide_eq_false_iff_not, Nat.not_le]
  -- from here on the limit is any number, so that no power of it is computed
  generalize digitLimit = limit at hlimit ⊢
  exact Nat.lt_of_lt_of_le h (Nat.pow_le_pow_right (by decide : 0 < 10) hlimit)

end Datum

namespace Token

open Base64Url Encoding

variable {algorithm : Algorithm} {secret : Datum} {payload : Record Datum} {token : String}

/-! ### What signing leaves -/

/-- A signed token is the text of its segments, under the bytes of the accepted secret. -/
theorem sign_eq_ok (h : sign algorithm secret payload = .ok token) :
    issuerFits payload = true ∧ (Datum.dict payload).oversized = false ∧
      ∃ key, Key.accept secret = .ok key ∧
        token = String.ofList (signedSegments algorithm key payload).text := by
  rw [sign] at h
  split at h
  · cases h
  next hi =>
  split at h
  · cases h
  next ho =>
  split at h
  · cases h
  next key hk =>
  rw [Bool.not_eq_true, Bool.not_eq_false'] at hi
  exact ⟨hi, Bool.not_eq_true _ ▸ ho, key, hk, (Except.ok.inj h).symm⟩

theorem sign_of_fits (hi : issuerFits payload = true)
    (ho : (Datum.dict payload).oversized = false) {key : List UInt8}
    (hk : Key.accept secret = .ok key) :
    sign algorithm secret payload =
      .ok (String.ofList (signedSegments algorithm key payload).text) := by
  simp only [sign, hi, ho, hk, Bool.not_true, Bool.false_eq_true, if_false]

/-- An issuer, if there is one, has to be a text. -/
theorem issuerFits_iff : issuerFits payload = true ↔
    ∀ d, payload.get? Claim.issuer = some d → ∃ text, d = .text text := by
  rw [issuerFits]
  rcases payload.get? Claim.issuer with - | d
  · refine ⟨fun _ d hd => ?_, fun _ => rfl⟩
    cases hd
  constructor
  · rintro hfits d' ⟨⟩
    cases d with
    | text text => exact ⟨text, rfl⟩
    | _ => cases hfits
  · intro hall
    obtain ⟨text, rfl⟩ := hall d rfl
    rfl

/-- The shortest secrets are accepted. -/
theorem accept_letter : Key.accept (.text "k") = .ok [0x6b] := rfl

/-! ### The parts of a signed token -/

theorem writable_headerOf (algorithm : Algorithm) :
    Json.Writable Json.depthLimit (.dict (headerOf algorithm)) := by
  refine .dict (by cases algorithm <;> decide) ?_
  intro e he
  simp only [headerOf, List.mem_cons, List.not_mem_nil, or_false] at he
  rcases he with rfl | rfl
  · exact .text _
  · exact .text _

theorem writable_payload (hn : payload.names.Nodup) (hf : ∀ e ∈ payload, e.2.Flat)
    (ho : (Datum.dict payload).oversized = false) :
    Json.Writable Json.depthLimit (.dict payload) :=
  .dict hn fun e he => (hf e he).writable (Datum.oversized_dict_eq_false_iff.1 ho e he) _

theorem segmentBytes_segment (part : Part) (r : Record Datum) :
    segmentBytes part (segment r) = .ok (encodeUtf8 (Json.write .compact (.dict r))) := by
  rw [segmentBytes, segment, decodeSegment_encode]

theorem signedSegments_header (algorithm : Algorithm) (key : List UInt8) (payload : Record Datum) :
    (signedSegments algorithm key payload).header = segment (headerOf algorithm) := rfl

theorem signedSegments_payload (algorithm : Algorithm) (key : List UInt8)
    (payload : Record Datum) : (signedSegments algorithm key payload).payload = segment payload :=
  rfl

theorem segmentBytes_signature (algorithm : Algorithm) (key : List UInt8)
    (payload : Record Datum) :
    segmentBytes .signature (signedSegments algorithm key payload).signature =
      .ok (signature algorithm key (signedSegments algorithm key payload).signingInput) := by
  rw [segmentBytes, signedSegments]
  dsimp only
  rw [decodeSegment_encode]
  rfl

/-- What a signed token is taken apart into. -/
def openedOf (algorithm : Algorithm) (key : List UInt8) (payload : Record Datum) : Opened :=
  let s := signedSegments algorithm key payload
  ⟨s, headerOf algorithm, encodeUtf8 (Json.write .compact (.dict payload)),
    signature algorithm key s.signingInput⟩

theorem openFor_signed (algorithm : Algorithm) (key : List UInt8) (payload : Record Datum) :
    openFor algorithm (signedSegments algorithm key payload).text =
      .ok (openedOf algorithm key payload) := by
  have hsegments := Segments.ofText?_text (s := signedSegments algorithm key payload)
    (dot_notMem_encode _) (dot_notMem_encode _)
  have hheader : readHeader (encodeUtf8 (Json.write .compact (.dict (headerOf algorithm)))) =
      .ok (headerOf algorithm) := by
    rw [readHeader, Json.read_write (writable_headerOf algorithm)]
  have hdetached : detachedPayload (headerOf algorithm) = false := by cases algorithm <;> rfl
  have hpayload : payloadBytes (headerOf algorithm) (segment payload) =
      .ok (encodeUtf8 (Json.write .compact (.dict payload))) := by
    rw [payloadBytes, hdetached, Bool.false_and, if_neg Bool.false_ne_true, segmentBytes_segment]
  have hopened : Opened.ofText (signedSegments algorithm key payload).text =
      .ok (openedOf algorithm key payload) := by
    rw [Opened.ofText, hsegments]
    dsimp only
    rw [signedSegments_header, signedSegments_payload, segmentBytes_segment, ok_bind, hheader,
      ok_bind, hpayload, ok_bind, segmentBytes_signature, ok_bind]
    rfl
  rw [openFor, hopened, ok_bind]
  -- a written header names its algorithm and no key, no critical name and no detached payload
  have hchecked : checkHeader (openedOf algorithm key payload).header = .ok () := by
    cases algorithm <;> rfl
  have halgorithm : checkAlgorithm algorithm (openedOf algorithm key payload).header = .ok () := by
    cases algorithm <;> rfl
  rw [hchecked, ok_bind, halgorithm, ok_bind]
  rfl

theorem isEmpty_ofList_text (s : Segments) : (String.ofList s.text).isEmpty = false := by
  rw [String.isEmpty_eq_false_iff, ne_eq, ← String.toList_inj, String.toList_ofList]
  simp [Segments.text]

/-- **A signed token is verified by its claims and the clock alone**, and what it carries is the
payload and the header that were signed. -/
theorem verify_sign (hn : payload.names.Nodup) (hf : ∀ e ∈ payload, e.2.Flat)
    (h : sign algorithm secret payload = .ok token) (clock : Number) :
    verify algorithm secret clock (.text token) =
      (orDefect (checkClaims clock payload)).map fun _ => ⟨payload, headerOf algorithm⟩ := by
  obtain ⟨-, ho, key, hk, rfl⟩ := sign_eq_ok h
  -- the digest is computed twice of the same characters
  have hsigned : (openedOf algorithm key payload).signed algorithm key = true := beq_self_eq_true _
  have hclaims : acceptClaims clock (openedOf algorithm key payload) =
      (checkClaims clock payload).map fun _ => ⟨payload, headerOf algorithm⟩ := by
    have hread : readClaims (openedOf algorithm key payload).payload = .ok payload := by
      rw [readClaims, openedOf]
      dsimp only
      rw [Json.read_write (writable_payload hn hf ho)]
    rw [acceptClaims, hread, ok_bind]
    rcases checkClaims clock payload with d | u
    · rfl
    · rfl
  rw [verify, isEmpty_ofList_text, if_neg Bool.false_ne_true, verifyText, String.toList_ofList,
    openFor_signed, orDefect, ok_bind, hk]
  dsimp only
  rw [if_pos hsigned, hclaims]
  rcases checkClaims clock payload with d | u
  · rfl
  · rfl

/-! ### What a token carries -/

/-- The segment is the base64 form of an object. -/
def Holds (segment : List Char) (object : Record Datum) : Prop :=
  ∃ bytes, decodeSegment segment = some bytes ∧ Json.read bytes = .ok (.dict object)

/-- The payload of the token holds the claims. -/
def Carries (token : String) (claims : Record Datum) : Prop :=
  ∃ s, Segments.ofText? token.toList = some s ∧ Holds s.payload claims

/-- A signed token carries what was signed. -/
theorem carries_sign (hn : payload.names.Nodup) (hf : ∀ e ∈ payload, e.2.Flat)
    (h : sign algorithm secret payload = .ok token) : Carries token payload := by
  obtain ⟨-, ho, key, -, rfl⟩ := sign_eq_ok h
  rw [Carries, String.toList_ofList]
  exact ⟨signedSegments algorithm key payload,
    Segments.ofText?_text (dot_notMem_encode _) (dot_notMem_encode _), _,
    decodeSegment_encode _, Json.read_write (writable_payload hn hf ho)⟩

end Token

end TokenGate
