/-
What a verified token proves.

`Signed` says of a text that it is a token signed under a secret with an algorithm: cut at its first
and its last dot, it has a header that names exactly the algorithm, and a signature that is the
algorithm's keyed digest of the rest under the secret.  `verify_authentic` is the main result: only
such texts are verified, only the claims and the header that stand in them are returned, and only
such texts are ever reported as expired or premature.

For the last part, everything that is looked at before the signature fails as malformed
(`openFor_malformed`).  A token that is presented is a value of any kind; if it is a text, it is one of
characters.  One with a single half of a surrogate pair cannot be written in bytes, and is never verified
(`verifyRaw`).  Such halves in the payload, where an escape may name them, are read as replacement
characters (`Encoding.charAt`).
-/
import TokenGate.Proofs.Number.Exact
import TokenGate.Proofs.Token.RoundTrip

namespace TokenGate.Token

open Encoding

/-- The text is cut into the segments and was signed under the secret with the algorithm. -/
structure Signed (algorithm : Algorithm) (secret : Datum) (text : String) (s : Segments)
    (header : Record Datum) : Prop where
  text_eq : text.toList = s.header ++ '.' :: s.payload ++ '.' :: s.signature
  first_dot : '.' ∉ s.header
  last_dot : '.' ∉ s.signature
  header_holds : Holds s.header header
  header_algorithm : header.get? "alg" = some (.text algorithm.name)
  signature_eq : ∃ key, Key.bytesOf? secret = some key ∧
    Base64Url.decodeSegment s.signature =
      some (algorithm.digest.mac key (encodeUtf8 (s.header ++ '.' :: s.payload)))

/-- A claim that holds a second, if it is there, is an integer in the given relation to the clock.
A clock that is no finite number stands at no time. -/
def Timely (clock : Number) (claims : Record Datum) (name : String) (fits : Int → ℚ → Prop) :
    Prop :=
  ∀ d, claims.get? name = some d →
    ∃ second, d.toInteger = .ok second ∧ ∀ now, clock.rational? = some now → fits second now

variable {algorithm : Algorithm} {secret : Datum} {clock : Number} {claims header : Record Datum}
  {opened : Opened} {text : List Char} {v : Verified}

/-! ### Before the signature -/

/-- Whatever goes wrong makes a token malformed. -/
def Malformed {α : Type} (x : Except Defect α) : Prop := ∀ d, x = .error d → d.kind = .malformed

theorem malformed_ok {α : Type} (a : α) : Malformed (.ok a) := by
  rintro d ⟨⟩

theorem Malformed.bind {α β : Type} {x : Except Defect α} {f : α → Except Defect β}
    (hx : Malformed x) (hf : ∀ a, Malformed (f a)) : Malformed (x >>= f) := by
  intro d h
  rcases bind_eq_error.1 h with h | ⟨a, -, h⟩
  · exact hx d h
  · exact hf a d h

theorem segmentBytes_malformed (part : Part) (segment : List Char) :
    Malformed (segmentBytes part segment) := by
  intro d h
  rw [segmentBytes] at h
  split at h
  · cases h
  · cases h
    rfl

theorem readHeader_malformed (bytes : List UInt8) : Malformed (readHeader bytes) := by
  intro d h
  rw [readHeader] at h
  split at h
  · cases h
    rfl
  · cases h
  · cases h
    rfl

theorem payloadBytes_malformed (header : Record Datum) (segment : List Char) :
    Malformed (payloadBytes header segment) := by
  rw [payloadBytes]
  split
  · rintro d ⟨⟩
    rfl
  · exact segmentBytes_malformed _ _

theorem ofText_malformed (text : List Char) : Malformed (Opened.ofText text) := by
  rw [Opened.ofText]
  split
  · rintro d ⟨⟩
    rfl
  · refine (segmentBytes_malformed _ _).bind fun bytes => ?_
    refine (readHeader_malformed bytes).bind fun header => ?_
    refine (payloadBytes_malformed header _).bind fun payload => ?_
    exact (segmentBytes_malformed _ _).bind fun signature => malformed_ok _

theorem checkCriticalNames_malformed (header : Record Datum) (names : List Datum) :
    Malformed (checkCriticalNames header names) := by
  induction names with
  | nil => exact malformed_ok ()
  | cons first others ih =>
    intro d h
    unfold checkCriticalNames at h
    split at h
    · cases h
    · next he =>
      cases he
      split at h
      · cases h
        rfl
      split at h
      · cases h
        rfl
      · exact ih d h
    · cases h
      rfl

theorem checkHeader_malformed (header : Record Datum) : Malformed (checkHeader header) := by
  have hkeyId : Malformed (checkKeyId header) := by
    rw [checkKeyId]
    split
    · exact malformed_ok ()
    · exact malformed_ok ()
    · rintro d ⟨⟩
      rfl
  have hcritical : Malformed (checkCritical header) := by
    rw [checkCritical]
    split
    · exact malformed_ok ()
    · exact checkCriticalNames_malformed header _
    · rintro d ⟨⟩
      rfl
  have hattached : Malformed (checkAttached header) := by
    rw [checkAttached]
    split
    · exact malformed_ok ()
    split
    · rintro d ⟨⟩
      rfl
    · rintro d ⟨⟩
      rfl
  exact hkeyId.bind fun _ => hcritical.bind fun _ => hattached

theorem checkAlgorithm_malformed (algorithm : Algorithm) (header : Record Datum) :
    Malformed (checkAlgorithm algorithm header) := by
  rw [checkAlgorithm]
  split
  · rintro d ⟨⟩
    rfl
  split
  · exact malformed_ok ()
  · rintro d ⟨⟩
    rfl

/-- A text that cannot be taken apart, or whose header does not fit, is malformed. -/
theorem openFor_malformed (algorithm : Algorithm) (text : List Char) :
    Malformed (openFor algorithm text) := by
  refine (ofText_malformed text).bind fun opened => ?_
  refine (checkHeader_malformed opened.header).bind fun _ => ?_
  exact (checkAlgorithm_malformed algorithm opened.header).bind fun _ => malformed_ok _

/-! ### Taking apart -/

theorem segmentBytes_eq_ok {part : Part} {segment : List Char} {bytes : List UInt8}
    (h : segmentBytes part segment = .ok bytes) :
    Base64Url.decodeSegment segment = some bytes := by
  rw [segmentBytes] at h
  split at h
  · next he =>
    cases h
    exact he
  · cases h

theorem readHeader_eq_ok {bytes : List UInt8} (h : readHeader bytes = .ok header) :
    Json.read bytes = .ok (.dict header) := by
  rw [readHeader] at h
  split at h
  · cases h
  · next he =>
    cases h
    exact he
  · cases h

theorem readClaims_eq_ok {bytes : List UInt8} (h : readClaims bytes = .ok claims) :
    Json.read bytes = .ok (.dict claims) := by
  rw [readClaims] at h
  split at h
  · cases h
  · next he =>
    cases h
    exact he
  · cases h

theorem payloadBytes_eq_ok {segment : List Char} {bytes : List UInt8}
    (h : payloadBytes header segment = .ok bytes) :
    Base64Url.decodeSegment segment = some bytes := by
  rw [payloadBytes] at h
  split at h
  · cases h
  · exact segmentBytes_eq_ok h

theorem checkAlgorithm_eq_ok (h : checkAlgorithm algorithm header = .ok ()) :
    header.get? "alg" = some (.text algorithm.name) := by
  rw [checkAlgorithm] at h
  split at h
  · cases h
  next d hd =>
  split at h
  · next ht =>
    rw [hd]
    rcases d with - | b | n | x | s | l | l | l | bs | l
    case text => rw [Option.some.inj (beq_iff_eq.1 ht)]
    all_goals cases ht
  · cases h

/-- What stands in a text whose header asks for the algorithm. -/
theorem openFor_eq_ok (h : openFor algorithm text = .ok opened) :
    text = opened.segments.text ∧ '.' ∉ opened.segments.header ∧
      '.' ∉ opened.segments.signature ∧ Holds opened.segments.header opened.header ∧
      opened.header.get? "alg" = some (.text algorithm.name) ∧
      Base64Url.decodeSegment opened.segments.payload = some opened.payload ∧
      Base64Url.decodeSegment opened.segments.signature = some opened.signature := by
  obtain ⟨opened', ho, h⟩ := bind_eq_ok.1 h
  obtain ⟨⟨⟩, -, h⟩ := bind_eq_ok.1 h
  obtain ⟨⟨⟩, ha, h⟩ := bind_eq_ok.1 h
  cases h
  -- the header is read from the very segment that the signature is over
  rw [Opened.ofText] at ho
  split at ho
  · cases ho
  next s hs =>
  obtain ⟨headerBytes, hb, ho⟩ := bind_eq_ok.1 ho
  obtain ⟨header, hh, ho⟩ := bind_eq_ok.1 ho
  obtain ⟨payload, hp, ho⟩ := bind_eq_ok.1 ho
  obtain ⟨signature, hg, ho⟩ := bind_eq_ok.1 ho
  cases ho
  obtain ⟨htext, hfirst, hlast⟩ := Segments.text_of_ofText? hs
  exact ⟨htext, hfirst, hlast, ⟨headerBytes, segmentBytes_eq_ok hb, readHeader_eq_ok hh⟩,
    checkAlgorithm_eq_ok ha, payloadBytes_eq_ok hp, segmentBytes_eq_ok hg⟩

theorem accept_eq_ok {key : List UInt8} (h : Key.accept secret = .ok key) :
    Key.bytesOf? secret = some key := by
  rw [Key.accept] at h
  split at h
  · next bytes hb =>
    rw [Key.acceptBytes] at h
    split at h
    · cases h
    split at h
    · cases h
    split at h
    · cases h
    · rw [hb, Except.ok.inj h]
  · cases h

theorem signed_of_signature {s : String} {key : List UInt8}
    (ho : openFor algorithm s.toList = .ok opened) (hk : Key.accept secret = .ok key)
    (hs : opened.signed algorithm key = true) :
    Signed algorithm secret s opened.segments opened.header := by
  obtain ⟨htext, hfirst, hlast, hholds, halgorithm, -, hsignature⟩ := openFor_eq_ok ho
  rw [Opened.signed, beq_iff_eq] at hs
  rw [hs] at hsignature
  exact ⟨htext, hfirst, hlast, hholds, halgorithm, key, accept_eq_ok hk, hsignature⟩

/-! ### After the signature -/

theorem checkTime_eq_ok {claim : TimeClaim} (h : checkTime clock claims claim = .ok ()) {d : Datum}
    (hd : claims.get? claim.name = some d) :
    ∃ second, d.toInteger = .ok second ∧ checkSecond clock claim second = .ok () := by
  rw [checkTime, hd] at h
  dsimp only at h
  split at h
  · cases h
  · next second hs => exact ⟨second, hs, h⟩

theorem timely_of_early {claim : TimeClaim} (hne : claim ≠ .expires)
    (h : checkTime clock claims claim = .ok ()) :
    Timely clock claims claim.name fun second now => second ≤ now := by
  intro d hd
  obtain ⟨second, hs, hc⟩ := checkTime_eq_ok h hd
  refine ⟨second, hs, fun now hnow => ?_⟩
  -- otherwise the check would have reported the token as early
  have hb : ¬clock.isBefore second = true := by
    intro hb
    cases claim
    case expires => exact hne rfl
    all_goals
      rw [checkSecond, if_pos hb] at hc
      · cases hc
      · decide
  exact not_lt.1 fun hlt => hb ((Number.isBefore_iff_lt hnow second).2 hlt)

theorem timely_expires (h : checkTime clock claims .expires = .ok ()) :
    Timely clock claims Claim.expires fun second now => now < second := by
  intro d hd
  obtain ⟨second, hs, hc⟩ := checkTime_eq_ok h hd
  refine ⟨second, hs, fun now hnow => ?_⟩
  simp only [checkSecond] at hc
  split at hc
  · cases hc
  · next hr => exact not_le.1 fun hle => hr ((Number.reached_iff_le hnow second).2 hle)

/-! ### The whole -/

theorem orDefect_eq_ok {α : Type} {x : Except Defect α} {a : α} (h : orDefect x = .ok a) :
    x = .ok a := by
  cases x with
  | error d => cases h
  | ok b =>
    cases h
    rfl

theorem orDefect_eq_error {α : Type} {x : Except Defect α} {d : Defect}
    (h : orDefect x = .error (.defect d)) : x = .error d := by
  cases x with
  | error d' =>
    cases h
    rfl
  | ok b => cases h

/-- A verified token has passed every stage. -/
theorem verify_eq_ok {token : Datum} (h : verify algorithm secret clock token = .ok v) :
    ∃ s opened key, token = .text s ∧ openFor algorithm s.toList = .ok opened ∧
      Key.accept secret = .ok key ∧ opened.signed algorithm key = true ∧
      v.header = opened.header ∧ Json.read opened.payload = .ok (.dict v.claims) ∧
      checkClaims clock v.claims = .ok () := by
  rcases token with - | b | n | x | s | l | l | l | bs | l
  case text =>
    rw [verify] at h
    split at h
    · cases h
    obtain ⟨opened, ho, h⟩ := bind_eq_ok.1 h
    split at h
    · cases h
    next key hk =>
    split at h
    · next hs =>
      obtain ⟨claims, hr, h⟩ := bind_eq_ok.1 (orDefect_eq_ok h)
      obtain ⟨⟨⟩, hc, h⟩ := bind_eq_ok.1 h
      cases h
      exact ⟨s, opened, key, rfl, orDefect_eq_ok ho, hk, hs, rfl, readClaims_eq_ok hr, hc⟩
    · cases h
  -- what is no text is malformed
  all_goals cases h

/-- A token that is reported for another reason than that it is malformed has a header that fits, and
its signature was compared. -/
theorem verify_eq_error {token : Datum} {d : Defect}
    (h : verify algorithm secret clock token = .error (.defect d)) (hd : d.kind ≠ .malformed) :
    ∃ s opened key, token = .text s ∧ openFor algorithm s.toList = .ok opened ∧
      Key.accept secret = .ok key ∧ (opened.signed algorithm key = true ∨ d = .signature) := by
  rcases token with - | b | n | x | s | l | l | l | bs | l
  case text =>
    rw [verify] at h
    split at h
    · cases h
      exact absurd rfl hd
    rcases bind_eq_error.1 h with ho | ⟨opened, ho, h⟩
    · exact absurd (openFor_malformed _ _ d (orDefect_eq_error ho)) hd
    split at h
    · cases h
    next key hk =>
    refine ⟨s, opened, key, rfl, orDefect_eq_ok ho, hk, ?_⟩
    -- past the signature any defect may be reported
    split at h
    · next hs => exact .inl hs
    · cases h
      exact .inr rfl
  all_goals
    cases h
    exact absurd rfl hd

/-- **Only signed tokens are verified**, for what stands in them and at their time, and only signed
tokens are reported as expired or premature. -/
theorem verify_authentic (algorithm : Algorithm) (secret : Datum) (clock : Number) (token : Datum) :
    (∀ v, verify algorithm secret clock token = .ok v →
      ∃ text s, token = .text text ∧ Signed algorithm secret text s v.header ∧
        Holds s.payload v.claims ∧
        Timely clock v.claims Claim.issuedAt (fun second now => second ≤ now) ∧
        Timely clock v.claims Claim.notBefore (fun second now => second ≤ now) ∧
        Timely clock v.claims Claim.expires (fun second now => now < second)) ∧
    ∀ d, verify algorithm secret clock token = .error (.defect d) →
      d.kind = .expired ∨ d.kind = .premature →
      ∃ text s header, token = .text text ∧ Signed algorithm secret text s header := by
  refine ⟨fun v h => ?_, fun d h hd => ?_⟩
  · obtain ⟨text, opened, key, rfl, ho, hk, hs, hheader, hread, hc⟩ := verify_eq_ok h
    obtain ⟨-, -, -, -, -, hpayload, -⟩ := openFor_eq_ok ho
    obtain ⟨⟨⟩, hi, hc⟩ := bind_eq_ok.1 hc
    obtain ⟨⟨⟩, hn, hc⟩ := bind_eq_ok.1 hc
    obtain ⟨⟨⟩, he, -⟩ := bind_eq_ok.1 hc
    exact ⟨text, opened.segments, rfl, hheader ▸ signed_of_signature ho hk hs,
      ⟨opened.payload, hpayload, hread⟩, timely_of_early (by decide) hi,
      timely_of_early (by decide) hn, timely_expires he⟩
  · -- the two kinds are neither those before the signature nor that of the signature
    have hmalformed : d.kind ≠ .malformed := by
      rcases hd with hd | hd <;> rw [hd] <;> decide
    obtain ⟨text, opened, key, rfl, ho, hk, hs | rfl⟩ := verify_eq_error h hmalformed
    · exact ⟨text, opened.segments, opened.header, rfl, signed_of_signature ho hk hs⟩
    · rcases hd with hd | hd <;> cases hd

/-- The payload of a token that expires at the fifth second. -/
def briefPayload : Record Datum := [(Claim.expires, .int 5)]

theorem sign_briefPayload : ∃ token, sign .hs256 (.text "k") briefPayload = .ok token := by
  have ho : (Datum.dict briefPayload).oversized = false := by
    refine Datum.oversized_dict_eq_false_iff.2 fun e he => ?_
    rw [List.mem_singleton.1 he]
    exact Datum.unprintable_of_lt (by decide)
  exact ⟨_, sign_of_fits rfl ho accept_letter⟩

/-- A token that is verified at the third second and reported as expired at the fifth. -/
theorem verify_authentic_briefPayload :
    ∃ token, (∃ v s, verify .hs256 (.text "k") (.int 3) (.text token) = .ok v ∧
        Signed .hs256 (.text "k") token s v.header ∧ Holds s.payload v.claims) ∧
      verify .hs256 (.text "k") (.int 5) (.text token) = .error (.defect .expired) ∧
      ∃ s header, Signed .hs256 (.text "k") token s header := by
  obtain ⟨token, ht⟩ := sign_briefPayload
  have hflat : ∀ e ∈ briefPayload, e.2.Flat := by
    intro e he
    rw [List.mem_singleton.1 he]
    exact .int 5
  have hverify := verify_sign (by decide) hflat ht
  have hthird := verify_authentic .hs256 (.text "k") (.int 3) (.text token)
  have hfifth := verify_authentic .hs256 (.text "k") (.int 5) (.text token)
  obtain ⟨text, s, he, hs, hp, -⟩ := hthird.1 _ (hverify _)
  obtain ⟨text', s', header, he', hs'⟩ := hfifth.2 _ (hverify _) (.inl rfl)
  cases he
  cases he'
  exact ⟨token, ⟨_, s, hverify _, hs, hp⟩, hverify _, s', header, hs'⟩

end TokenGate.Token
