/-
What a secret decides about a token.

Verifying looks at the signature once, after the text has been taken apart and its header read, and
before any claim is (`verify_of_cut`).  So all that a secret decides is whether the signature matches:
two tokens that differ in nothing but their signatures, of which both or none match, have the same
verdict under their own secrets (`verify_twins`).  In the other direction, what is signed under two
secrets is such twins (`sign_agree`).
-/
import TokenGate.Proofs.Token.Authenticity

namespace TokenGate

/-- Two results that are the same failure, or values that are related. -/
inductive Agree {α β : Type} (R : α → β → Prop) : Except Failure α → Except Failure β → Prop
  | error (f : Failure) : Agree R (.error f) (.error f)
  | ok {a : α} {b : β} (h : R a b) : Agree R (.ok a) (.ok b)

theorem Agree.exists_ok {α β : Type} {R : α → β → Prop} {a : α} {y : Except Failure β}
    (h : Agree R (.ok a) y) : ∃ b, y = .ok b ∧ R a b := by
  cases h with
  | ok h => exact ⟨_, rfl, h⟩

theorem Agree.imp {α β : Type} {R S : α → β → Prop} (hRS : ∀ a b, R a b → S a b)
    {x : Except Failure α} {y : Except Failure β} (h : Agree R x y) : Agree S x y := by
  cases h with
  | error f => exact .error f
  | ok h => exact .ok (hRS _ _ h)

namespace Token

open Base64Url

variable {algorithm : Algorithm} {secret secret₁ secret₂ : Datum} {clock : Number}
  {key key₁ key₂ : List UInt8} {text text₁ text₂ : String} {s s₁ s₂ : Segments}
  {bytes : List UInt8} {payload : Record Datum}

/-! ### Verifying a text that was cut -/

/-- What is read from the two segments that a signature signs, before it is compared. -/
def readSigned (algorithm : Algorithm) (header payload : List Char) :
    Except Defect (Record Datum × List UInt8) := do
  let h ← readHeader (← segmentBytes .header header)
  let p ← payloadBytes h payload
  checkHeader h
  checkAlgorithm algorithm h
  return (h, p)

theorem openFor_of_cut (hs : Segments.ofText? text.toList = some s)
    (hb : decodeSegment s.signature = some bytes) :
    openFor algorithm text.toList =
      (readSigned algorithm s.header s.payload).map fun (h, p) => ⟨s, h, p, bytes⟩ := by
  have hsignature : segmentBytes .signature s.signature = .ok bytes := by rw [segmentBytes, hb]
  rw [openFor, Opened.ofText, hs, readSigned]
  dsimp only
  rcases segmentBytes .header s.header with d | headerBytes
  · rfl
  rw [ok_bind, ok_bind]
  rcases readHeader headerBytes with d | header
  · rfl
  rw [ok_bind, ok_bind]
  rcases payloadBytes header s.payload with d | payload
  · rfl
  rw [ok_bind, ok_bind, hsignature, ok_bind]
  -- the text is taken apart, and the header is left to check
  change (do
    checkHeader header
    checkAlgorithm algorithm header
    return Opened.mk s header payload bytes) = _
  rcases checkHeader header with d | u
  · rfl
  rw [ok_bind, ok_bind]
  rcases checkAlgorithm algorithm header with d | u
  · rfl
  · rfl

theorem isEmpty_of_cut (hs : Segments.ofText? text.toList = some s) : text.isEmpty = false := by
  rw [String.isEmpty_eq_false_iff]
  rintro rfl
  cases hs

/-- **The secret is used once**, to compare the signature of a text that was taken apart and whose
header fits.  No claim has been read then. -/
theorem verify_of_cut (hs : Segments.ofText? text.toList = some s)
    (hb : decodeSegment s.signature = some bytes) (hk : Key.accept secret = .ok key) :
    verify algorithm secret clock (.text text) = (do
      let (header, payload) ← orDefect (readSigned algorithm s.header s.payload)
      if bytes = signature algorithm key s.signingInput then
        orDefect (acceptClaims clock ⟨s, header, payload, bytes⟩)
      else .error (.defect .signature)) := by
  rw [verify, isEmpty_of_cut hs, if_neg Bool.false_ne_true, verifyText, openFor_of_cut hs hb, hk]
  rcases readSigned algorithm s.header s.payload with d | ⟨header, payload⟩
  · rfl
  · change (if (Opened.mk s header payload bytes).signed algorithm key = true then _ else _) = _
    rw [Opened.signed]
    simp only [beq_iff_eq]
    rfl

/-! ### Two secrets -/

/-- The signature is the keyed digest, under the secret, of what it signs. -/
def Matches (algorithm : Algorithm) (secret : Datum) (s : Segments) : Prop :=
  ∃ key, Key.accept secret = .ok key ∧
    decodeSegment s.signature = some (signature algorithm key s.signingInput)

theorem matches_iff (hb : decodeSegment s.signature = some bytes)
    (hk : Key.accept secret = .ok key) :
    Matches algorithm secret s ↔ bytes = signature algorithm key s.signingInput := by
  constructor
  · rintro ⟨key', hk', hs⟩
    cases hk.symm.trans hk'
    exact Option.some.inj (hb.symm.trans hs)
  · rintro rfl
    exact ⟨key, hk, hb⟩

/-- Two texts that are cut into the same header and the same payload. -/
structure SameContent (text₁ text₂ : String) (s₁ s₂ : Segments) : Prop where
  cut₁ : Segments.ofText? text₁.toList = some s₁
  cut₂ : Segments.ofText? text₂.toList = some s₂
  header : s₁.header = s₂.header
  payload : s₁.payload = s₂.payload

/-- Two texts with the same content whose signatures can be decoded, and match under both secrets or
under none. -/
structure Twins (algorithm : Algorithm) (secret₁ secret₂ : Datum) (text₁ text₂ : String)
    (s₁ s₂ : Segments) : Prop extends SameContent text₁ text₂ s₁ s₂ where
  decodable₁ : ∃ bytes, decodeSegment s₁.signature = some bytes
  decodable₂ : ∃ bytes, decodeSegment s₂.signature = some bytes
  matches_iff : Matches algorithm secret₁ s₁ ↔ Matches algorithm secret₂ s₂

theorem ofText?_signedSegments (algorithm : Algorithm) (key : List UInt8)
    (payload : Record Datum) :
    Segments.ofText? (String.ofList (signedSegments algorithm key payload).text).toList =
      some (signedSegments algorithm key payload) := by
  rw [String.toList_ofList]
  exact Segments.ofText?_text (dot_notMem_encode _) (dot_notMem_encode _)

section TwoSecrets

variable (hk₁ : Key.accept secret₁ = .ok key₁) (hk₂ : Key.accept secret₂ = .ok key₂)

include hk₁ hk₂

/-- **Twins have the same verdict.** -/
theorem verify_twins (h : Twins algorithm secret₁ secret₂ text₁ text₂ s₁ s₂) (clock : Number) :
    verify algorithm secret₁ clock (.text text₁) = verify algorithm secret₂ clock (.text text₂) := by
  obtain ⟨bytes₁, hb₁⟩ := h.decodable₁
  obtain ⟨bytes₂, hb₂⟩ := h.decodable₂
  have hmatch := h.matches_iff
  rw [matches_iff hb₁ hk₁, matches_iff hb₂ hk₂] at hmatch
  rw [verify_of_cut h.cut₁ hb₁ hk₁, verify_of_cut h.cut₂ hb₂ hk₂, h.header, h.payload]
  rcases readSigned algorithm s₂.header s₂.payload with d | ⟨header, payload⟩
  · rfl
  · change (if _ then _ else _) = (if _ then _ else _)
    simp only [hmatch]
    rfl

theorem check_twins (h : Twins algorithm secret₁ secret₂ text₁ text₂ s₁ s₂) (clock : Number) :
    check algorithm secret₁ clock (.text text₁) = check algorithm secret₂ clock (.text text₂) := by
  rw [check, check, verify_twins hk₁ hk₂ h]

theorem twins_signedSegments (algorithm : Algorithm) (payload : Record Datum) :
    Twins algorithm secret₁ secret₂ (String.ofList (signedSegments algorithm key₁ payload).text)
      (String.ofList (signedSegments algorithm key₂ payload).text)
      (signedSegments algorithm key₁ payload) (signedSegments algorithm key₂ payload) where
  cut₁ := ofText?_signedSegments algorithm key₁ payload
  cut₂ := ofText?_signedSegments algorithm key₂ payload
  header := rfl
  payload := rfl
  decodable₁ := ⟨_, decodeSegment_encode _⟩
  decodable₂ := ⟨_, decodeSegment_encode _⟩
  matches_iff := ⟨fun _ => ⟨key₂, hk₂, decodeSegment_encode _⟩,
    fun _ => ⟨key₁, hk₁, decodeSegment_encode _⟩⟩

/-- **A payload is signed under both secrets or under none**, and the tokens are twins. -/
theorem sign_agree (algorithm : Algorithm) (payload : Record Datum) :
    Agree (fun token₁ token₂ => ∃ s₁ s₂, Twins algorithm secret₁ secret₂ token₁ token₂ s₁ s₂)
      (sign algorithm secret₁ payload) (sign algorithm secret₂ payload) := by
  rw [sign, sign, hk₁, hk₂]
  split
  · exact .error _
  split
  · exact .error _
  exact .ok ⟨_, _, twins_signedSegments hk₁ hk₂ algorithm payload⟩

end TwoSecrets

end Token

end TokenGate
