/-
Whoever cannot sign learns nothing from a gate.

Someone without the secret may present tokens with any payload and any signature, at any time.  As
long as the signature does not match, the gate answers with one and the same rejection
(`process_forged`): what the payload says plays no part in it, and neither does the clock.  If the
header asks for another algorithm, then the secret plays no part either.

The answer depends on the header alone (`unsignedDefect_congr`), with one exception: where the header
says that the payload travels apart, its segment has to be empty, and the answer tells whether it was
(`payload_length_tells`).
-/
import TokenGate.Proofs.Gate.Protocol
import TokenGate.Proofs.Gate.Secrecy
import TokenGate.Proofs.Token.Compact

namespace TokenGate

namespace Token

open Base64Url

variable {algorithm : Algorithm} {secret : Datum} {clock : Number} {key bytes : List UInt8}
  {text text₁ text₂ : String} {s s₁ s₂ : Segments} {header : Record Datum}

/-! ### Texts with one header -/

/-- Two texts that are cut into the same header, any payloads and any signatures, all of which can be
decoded. -/
structure SameHeader (text₁ text₂ : String) (s₁ s₂ : Segments) : Prop where
  cut₁ : Segments.ofText? text₁.toList = some s₁
  cut₂ : Segments.ofText? text₂.toList = some s₂
  header : s₁.header = s₂.header
  payload₁ : ∃ bytes, decodeSegment s₁.payload = some bytes
  payload₂ : ∃ bytes, decodeSegment s₂.payload = some bytes
  signature₁ : ∃ bytes, decodeSegment s₁.signature = some bytes
  signature₂ : ∃ bytes, decodeSegment s₂.signature = some bytes

/-- If the header says that the payload travels apart, both payload segments are empty or none is. -/
def DetachedAlike (s₁ s₂ : Segments) : Prop :=
  ∀ header, Holds s₁.header header → header.get? "b64" = some (.bool false) →
    (s₁.payload = [] ↔ s₂.payload = [])

/-- No header that the segment holds asks for the algorithm. -/
def Foreign (algorithm : Algorithm) (segment : List Char) : Prop :=
  ∀ header, Holds segment header → header.get? "alg" ≠ some (.text algorithm.name)

/-! ### What is found before the claims -/

/-- What is wrong with a token whose signature does not match. -/
def unsignedDefect (algorithm : Algorithm) (s : Segments) : Defect :=
  match readSigned algorithm s.header s.payload with
  | .error d => d
  | .ok _ => .signature

theorem detachedPayload_iff :
    detachedPayload header = true ↔ header.get? "b64" = some (.bool false) := by
  rw [detachedPayload]
  constructor
  · intro h
    split at h
    · assumption
    · cases h
  · intro h
    rw [h]

/-- A header that is read from a segment is held by it. -/
theorem holds_of_readHeader {segment : List Char} {headerBytes : List UInt8} {part : Part}
    (hb : segmentBytes part segment = .ok headerBytes) (hh : readHeader headerBytes = .ok header) :
    Holds segment header :=
  ⟨headerBytes, segmentBytes_eq_ok hb, readHeader_eq_ok hh⟩

/-- Of two payloads that can be decoded, both are refused or none is. -/
theorem payloadBytes_alike {payload₁ payload₂ : List Char} {bytes₁ bytes₂ : List UInt8}
    (hb₁ : decodeSegment payload₁ = some bytes₁) (hb₂ : decodeSegment payload₂ = some bytes₂)
    (h : header.get? "b64" = some (.bool false) → (payload₁ = [] ↔ payload₂ = [])) :
    (∃ d, payloadBytes header payload₁ = .error d ∧ payloadBytes header payload₂ = .error d) ∨
      payloadBytes header payload₁ = .ok bytes₁ ∧ payloadBytes header payload₂ = .ok bytes₂ := by
  rcases hd : detachedPayload header with - | -
  · exact .inr (by simp [payloadBytes, hd, segmentBytes, hb₁, hb₂])
  -- a payload that travels apart has to be empty, and then nothing is left of it to tell
  · have hempty := h (detachedPayload_iff.1 hd)
    by_cases hnil : payload₁ = []
    · obtain rfl := hempty.1 hnil
      subst hnil
      refine .inr ⟨?_, ?_⟩
      · simp [payloadBytes, segmentBytes, hb₁]
      · simp [payloadBytes, segmentBytes, hb₂]
    · have hnil₂ := mt hempty.2 hnil
      exact .inl ⟨.payloadPresent, by simp [payloadBytes, hd, hnil, hnil₂]⟩

/-- **What is wrong with an unsigned token depends on its header alone.** -/
theorem unsignedDefect_congr (h : SameHeader text₁ text₂ s₁ s₂) (ha : DetachedAlike s₁ s₂)
    (algorithm : Algorithm) : unsignedDefect algorithm s₁ = unsignedDefect algorithm s₂ := by
  obtain ⟨bytes₁, hb₁⟩ := h.payload₁
  obtain ⟨bytes₂, hb₂⟩ := h.payload₂
  rw [unsignedDefect, unsignedDefect, readSigned, readSigned, ← h.header]
  rcases hb : segmentBytes .header s₁.header with d | headerBytes
  · rfl
  rcases hh : readHeader headerBytes with d | header
  · simp [hh]
  have halike := payloadBytes_alike hb₁ hb₂ (ha header (holds_of_readHeader hb hh))
  rcases halike with ⟨d, hp₁, hp₂⟩ | ⟨hp₁, hp₂⟩
  · simp [hh, hp₁, hp₂]
  -- what is left looks at the header only
  · rcases hc : checkHeader header with d | u
    · simp [hh, hp₁, hp₂, hc]
    rcases hg : checkAlgorithm algorithm header with d | u
    · simp [hh, hp₁, hp₂, hc, hg]
    · simp [hh, hp₁, hp₂, hc, hg]

theorem readSigned_malformed (algorithm : Algorithm) (header payload : List Char) :
    Malformed (readSigned algorithm header payload) := by
  refine (segmentBytes_malformed _ _).bind fun headerBytes => ?_
  refine (readHeader_malformed headerBytes).bind fun h => ?_
  refine (payloadBytes_malformed h _).bind fun p => ?_
  refine (checkHeader_malformed h).bind fun _ => ?_
  exact (checkAlgorithm_malformed algorithm h).bind fun _ => malformed_ok _

theorem kind_unsignedDefect (algorithm : Algorithm) (s : Segments) :
    (unsignedDefect algorithm s).kind = .malformed ∨
      (unsignedDefect algorithm s).kind = .signature := by
  rw [unsignedDefect]
  split
  · next d hd => exact .inl (readSigned_malformed _ _ _ d hd)
  · exact .inr rfl

/-- A header that asks for another algorithm is refused before the signature is looked at. -/
theorem readSigned_of_foreign (hf : Foreign algorithm s.header) :
    readSigned algorithm s.header s.payload = .error (unsignedDefect algorithm s) := by
  rw [unsignedDefect]
  rcases hr : readSigned algorithm s.header s.payload with d | ⟨header, payload⟩
  · rfl
  · obtain ⟨headerBytes, hb, hr⟩ := bind_eq_ok.1 hr
    obtain ⟨header', hh, hr⟩ := bind_eq_ok.1 hr
    obtain ⟨payload', -, hr⟩ := bind_eq_ok.1 hr
    obtain ⟨⟨⟩, -, hr⟩ := bind_eq_ok.1 hr
    obtain ⟨⟨⟩, hg, -⟩ := bind_eq_ok.1 hr
    exact absurd (checkAlgorithm_eq_ok hg) (hf header' (holds_of_readHeader hb hh))

/-! ### Verifying -/

variable (hs : Segments.ofText? text.toList = some s)
  (hb : ∃ bytes, decodeSegment s.signature = some bytes)

include hs hb

/-- **No claim is looked at before the signature.** -/
theorem verify_of_not_matches (hk : Key.accept secret = .ok key)
    (hm : ¬Matches algorithm secret s) (clock : Number) :
    verify algorithm secret clock (.text text) = .error (.defect (unsignedDefect algorithm s)) := by
  obtain ⟨bytes, hb⟩ := hb
  have hother : ¬bytes = signature algorithm key s.signingInput := mt (matches_iff hb hk).2 hm
  rw [verify_of_cut hs hb hk, unsignedDefect]
  rcases readSigned algorithm s.header s.payload with d | ⟨header, payload⟩
  · rfl
  · exact if_neg hother

/-- **No secret is looked at before the header.** -/
theorem verify_of_foreign (hf : Foreign algorithm s.header) (secret : Datum) (clock : Number) :
    verify algorithm secret clock (.text text) = .error (.defect (unsignedDefect algorithm s)) := by
  obtain ⟨bytes, hb⟩ := hb
  rw [verify, isEmpty_of_cut hs, if_neg Bool.false_ne_true, verifyText, openFor_of_cut hs hb,
    readSigned_of_foreign hf]
  rfl

end Token

namespace Gate

open Token Base64Url

variable {g : Gate} {text text₁ text₂ : String} {s₁ s₂ : Segments} {d : Defect}

/-! ### Rejections -/

/-- The gate rejects the text for the defect, at all times and in all requests. -/
structure Rejects (g : Gate) (text : String) (d : Defect) : Prop where
  verify : ∀ clock, verify g.algorithm g.secret clock (.text text) = .error (.defect d)
  process : ∀ {α : Type} (request : Request) (looks : List Lookup) (clock : Number) (nextId : Nat)
    (next : Option Identity → α), request.constrained = true →
    g.chain.search request = (some (.text text), looks) →
    g.process request clock nextId next =
      { decision := .ok { state := .rejectedInvalid, refusal := some d.refusal }
        calls := looks.map .look ++ [.unauthorized 401 d.refusal.description]
        events := [.tokenRejected d.refusal]
        nextId := nextId }

theorem rejects_of_verify
    (h : ∀ clock, Token.verify g.algorithm g.secret clock (.text text) = .error (.defect d)) :
    g.Rejects text d where
  verify := h
  process := by
    intro α request looks clock nextId next hc hs
    have hstatus : d.refusal.status = 401 :=
      Refusal.Kind.status_of_invalidates d.invalidates_kind
    have hv : check g.algorithm g.secret clock (.text text) = .ok (.error d) := by
      rw [check, h]
    rw [(Way.defective hc hs hv).process_eq, rejectInvalid, reject, hstatus]

/-- **A forged token is rejected for its header**, whatever its payload says and whenever it is
presented, as long as its signature does not match.  If the header asks for another algorithm, this
is so under any secret, even one that is no key. -/
theorem process_forged (g : Gate) (h : SameHeader text₁ text₂ s₁ s₂) (ha : DetachedAlike s₁ s₂) :
    ∃ d : Defect, (d.kind = .malformed ∨ d.kind = .signature) ∧
      (∀ secret key, Key.accept secret = .ok key →
        ¬Matches g.algorithm secret s₁ → ¬Matches g.algorithm secret s₂ →
        (g.withSecret secret).Rejects text₁ d ∧ (g.withSecret secret).Rejects text₂ d) ∧
      (Foreign g.algorithm s₁.header → ∀ secret,
        (g.withSecret secret).Rejects text₁ d ∧ (g.withSecret secret).Rejects text₂ d) := by
  have hcongr := unsignedDefect_congr h ha g.algorithm
  refine ⟨unsignedDefect g.algorithm s₁, kind_unsignedDefect _ _, ?_, ?_⟩
  · intro secret key hk hm₁ hm₂
    constructor
    · exact rejects_of_verify (verify_of_not_matches h.cut₁ h.signature₁ hk hm₁)
    · rw [hcongr]
      exact rejects_of_verify (verify_of_not_matches h.cut₂ h.signature₂ hk hm₂)
  · intro hf secret
    have hf₂ : Foreign g.algorithm s₂.header := h.header ▸ hf
    constructor
    · exact rejects_of_verify (verify_of_foreign h.cut₁ h.signature₁ hf secret)
    · rw [hcongr]
      exact rejects_of_verify (verify_of_foreign h.cut₂ h.signature₂ hf₂ secret)

/-! ### Tokens without a signature -/

/-- A token with a header, any payload and an empty signature. -/
def unsigned (header : Record Datum) (payload : List Char) : Segments :=
  ⟨segment header, payload, []⟩

theorem sameHeader_unsigned (header : Record Datum) {payload₁ payload₂ : List Char}
    (h₁ : ∃ bytes, decodeSegment payload₁ = some bytes)
    (h₂ : ∃ bytes, decodeSegment payload₂ = some bytes) :
    SameHeader (String.ofList (unsigned header payload₁).text)
      (String.ofList (unsigned header payload₂).text) (unsigned header payload₁)
      (unsigned header payload₂) where
  cut₁ := by
    rw [String.toList_ofList]
    exact Segments.ofText?_text (dot_notMem_encode _) List.not_mem_nil
  cut₂ := by
    rw [String.toList_ofList]
    exact Segments.ofText?_text (dot_notMem_encode _) List.not_mem_nil
  header := rfl
  payload₁ := h₁
  payload₂ := h₂
  signature₁ := ⟨[], rfl⟩
  signature₂ := ⟨[], rfl⟩

/-- An empty signature matches nothing. -/
theorem not_matches_unsigned (algorithm : Algorithm) (secret : Datum) (header : Record Datum)
    (payload : List Char) : ¬Matches algorithm secret (unsigned header payload) := by
  rintro ⟨key, -, hsignature⟩
  have hempty : some [] = some (signature algorithm key (unsigned header payload).signingInput) :=
    hsignature
  exact signature_ne_nil _ _ _ (Option.some.inj hempty).symm

section Header

variable {header header' : Record Datum} (hw : Json.Writable Json.depthLimit (.dict header))

include hw

/-- What is found before the claims, if the header can be written. -/
theorem unsignedDefect_unsigned (algorithm : Algorithm) (payload : List Char) :
    unsignedDefect algorithm (unsigned header payload) =
      match (do
        let bytes ← payloadBytes header payload
        checkHeader header
        checkAlgorithm algorithm header
        return (header, bytes)) with
      | .error d => d
      | .ok _ => .signature := by
  have hheader : readHeader (Encoding.encodeUtf8 (Json.write .compact (.dict header))) =
      .ok header := by
    rw [readHeader, Json.read_write hw]
  rw [unsignedDefect, unsigned, readSigned, segmentBytes_segment, ok_bind, hheader, ok_bind]

theorem eq_of_holds_segment (h : Holds (segment header) header') : header' = header := by
  obtain ⟨bytes, hb, hr⟩ := h
  rw [Token.segment, decodeSegment_encode, Option.some.injEq] at hb
  rw [← hb, Json.read_write hw] at hr
  cases hr
  rfl

end Header

/-- Two tokens without a signature, one whose payload is no document and one that has expired: the
gate rejects both for one defect, and a gate of another algorithm does so under any secret. -/
theorem process_forged_unsigned : ∃ text₁ text₂ s₁ s₂ d d', SameHeader text₁ text₂ s₁ s₂ ∧
    DetachedAlike s₁ s₂ ∧ Key.accept (.text "k") = .ok [0x6b] ∧
    ¬Matches .hs256 (.text "k") s₁ ∧ ¬Matches .hs256 (.text "k") s₂ ∧
    usualGate.Rejects text₁ d ∧ usualGate.Rejects text₂ d ∧
    Foreign .hs384 s₁.header ∧ ∀ secret,
      ({ usualGate with algorithm := .hs384, secret } : Gate).Rejects text₁ d' ∧
        ({ usualGate with algorithm := .hs384, secret } : Gate).Rejects text₂ d' := by
  have hsame := sameHeader_unsigned (headerOf .hs256) ⟨_, decodeSegment_encode [0x78]⟩
    ⟨_, decodeSegment_encode (Encoding.encodeUtf8 (Json.write .compact (.dict briefPayload)))⟩
  have hheader : ∀ header, Holds (segment (headerOf .hs256)) header → header = headerOf .hs256 :=
    fun _ h => eq_of_holds_segment (writable_headerOf .hs256) h
  have halike : DetachedAlike (unsigned (headerOf .hs256) (encode [0x78]))
      (unsigned (headerOf .hs256) (segment briefPayload)) := by
    intro header hh hdetached
    rw [hheader header hh] at hdetached
    simp [headerOf, Record.get?] at hdetached
  have hforeign : Foreign .hs384 (segment (headerOf .hs256)) := by
    intro header hh
    rw [hheader header hh]
    simp [headerOf, Record.get?, Algorithm.name]
  have hm₁ := not_matches_unsigned .hs256 (.text "k") (headerOf .hs256) (encode [0x78])
  have hm₂ := not_matches_unsigned .hs256 (.text "k") (headerOf .hs256) (segment briefPayload)
  obtain ⟨d, -, hunsigned, -⟩ := process_forged usualGate hsame halike
  obtain ⟨d', -, -, hother⟩ := process_forged { usualGate with algorithm := .hs384 } hsame halike
  obtain ⟨h₁, h₂⟩ := hunsigned (.text "k") _ accept_letter hm₁ hm₂
  exact ⟨_, _, _, _, d, d', hsame, halike, accept_letter, hm₁, hm₂, h₁, h₂, hforeign,
    hother hforeign⟩

/-! ### A payload that travels apart -/

/-- A header that says that the payload travels apart, and does not list this as critical. -/
def detachedHeader : Record Datum := [("alg", .text "HS256"), ("b64", .bool false)]

theorem writable_detachedHeader : Json.Writable Json.depthLimit (.dict detachedHeader) := by
  refine .dict (by decide) ?_
  exact List.forall_mem_cons.2 ⟨.text _, List.forall_mem_singleton.2 (.bool _)⟩

/-- **Whether a payload is empty can be told without the secret**, where the header says that it
travels apart: of two tokens without a signature, an empty payload is found to be announced wrongly,
and another one to be there at all. -/
theorem payload_length_tells : ∃ text₁ text₂ s₁ s₂, SameHeader text₁ text₂ s₁ s₂ ∧
    Key.accept (.text "k") = .ok [0x6b] ∧
    ¬Matches .hs256 (.text "k") s₁ ∧ ¬Matches .hs256 (.text "k") s₂ ∧
    verify .hs256 (.text "k") (.int 0) (.text text₁) = .error (.defect .detachedUnlisted) ∧
    verify .hs256 (.text "k") (.int 0) (.text text₂) = .error (.defect .payloadPresent) ∧
    Defect.detachedUnlisted.text ≠ Defect.payloadPresent.text := by
  have hempty : decodeSegment [] = some [] := rfl
  have hsame := sameHeader_unsigned detachedHeader ⟨[], hempty⟩
    ⟨_, decodeSegment_encode [0x7b, 0x7d]⟩
  have hm₁ := not_matches_unsigned .hs256 (.text "k") detachedHeader []
  have hm₂ := not_matches_unsigned .hs256 (.text "k") detachedHeader (encode [0x7b, 0x7d])
  have h₁ := verify_of_not_matches hsame.cut₁ hsame.signature₁ accept_letter hm₁ (.int 0)
  have h₂ := verify_of_not_matches hsame.cut₂ hsame.signature₂ accept_letter hm₂ (.int 0)
  rw [unsignedDefect_unsigned writable_detachedHeader] at h₁ h₂
  exact ⟨_, _, _, _, hsame, accept_letter, hm₁, hm₂, h₁, h₂, by decide⟩

end Gate

end TokenGate
