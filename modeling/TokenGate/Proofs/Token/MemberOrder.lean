/-
The order of claims and the members of a token.

Nothing on the way to a token looks at the order of the claims but the writing of the token itself.  Two
sets with the same claims in different orders therefore end alike: building fails with the same failure,
or it gives two tokens whose payloads have the same members (`issue_sameMembers`), signed with the same
key; and either both take an id or none does.

What a policy asks for is written over any record in the same way (`exists_own`), and writing over two
records that differ in their order keeps this difference (`Record.overwrite_perm`).  Whether a payload
can be signed is a question about its values.
-/
import TokenGate.Proofs.Token.Id

namespace TokenGate

namespace Token

/-! ### Reserved claims -/

/-- What a duration is counted to does not depend on the record that it is written over. -/
theorem exists_time (move : Int → Number → Option Number) (name : String) (second : Int)
    (duration : Option Datum) : ∃ time? : Except Failure (Option Datum), ∀ r,
      setTime move name second duration r =
        time?.map fun time => Record.overwrite r (Record.given name time) := by
  unfold setTime
  rcases duration with - | d
  · exact ⟨.ok none, fun r => rfl⟩
  dsimp only
  rcases d.number? with - | x
  · exact ⟨.error (.durationOrder d.kind), fun r => rfl⟩
  dsimp only
  rcases move second x with - | time
  · exact ⟨.error .tooLarge, fun r => rfl⟩
  · exact ⟨.ok (some time.toDatum), fun r => rfl⟩

/-- **What a policy asks for does not depend on the record that it is written over.** -/
theorem exists_own (policy : Policy) (second : Int) (idNumber : Nat) :
    ∃ own? : Except Failure (Record Datum), ∀ r,
      stamp policy second idNumber r = own?.map r.overwrite := by
  obtain ⟨expires?, hexpires⟩ := exists_time Number.plus Claim.expires second policy.expiry
  obtain ⟨notBefore?, hnotBefore⟩ := exists_time Number.minus Claim.notBefore second policy.leeway
  rcases expires? with f | expires?
  · refine ⟨.error f, fun r => ?_⟩
    rw [stamp, hexpires]
    rfl
  rcases notBefore? with f | notBefore?
  · refine ⟨.error f, fun r => ?_⟩
    rw [stamp, hexpires]
    simp only [hnotBefore]
    rfl
  refine ⟨.ok (Claim.given (if policy.issuedAt then some (.int second) else none) expires? notBefore?
    (if policy.tokenId then some (.text (id idNumber)) else none)), fun r => ?_⟩
  rw [stamp, hexpires]
  simp only [hnotBefore, Except.map, ok_bind, set_asked, Claim.given, Record.overwrite_append]
  rfl

/-! ### Payloads -/

/-- Two attempts at a payload end alike: with the same failure, or with the same distinct members. -/
inductive SamePayload : Except Failure (Record Datum) → Except Failure (Record Datum) → Prop
  | failed (f : Failure) : SamePayload (.error f) (.error f)
  | made {p p' : Record Datum} (hn : p.names.Nodup) (h : p.Perm p') : SamePayload (.ok p) (.ok p')

variable {claims claims' : ClaimSet}

theorem contains_of_perm (h : claims.entries.Perm claims'.entries) (name : String) :
    claims.contains name = claims'.contains name := by
  rw [ClaimSet.contains, ClaimSet.contains, Record.contains, Record.contains,
    Record.get?_of_perm claims.distinct h]

theorem payload_samePayload (h : claims.entries.Perm claims'.entries) (policy : Policy)
    (clock : Number) (idNumber : Nat) :
    SamePayload (payload claims policy clock idNumber) (payload claims' policy clock idNumber) := by
  rw [payload, payload, contains_of_perm h, contains_of_perm h]
  split
  · rcases policy.validate with f | ⟨⟩
    · exact .failed f
    rcases second clock with f | n
    · exact .failed f
    obtain ⟨own?, hown⟩ := exists_own policy n idNumber
    simp only [ok_bind, hown]
    rcases own? with f | own
    · exact .failed f
    · have hn := claims.nodup_names_payload
      have hperm : claims.payload.Perm claims'.payload := h.map _
      exact .made (Record.nodup_names_overwrite hn own) (Record.overwrite_perm hn hperm own)
  · exact .failed .mandatoryClaims

/-! ### Tokens -/

/-- Two attempts at a token end alike: with the same failure, or with two tokens that are signed with
the same key and have the same distinct members. -/
inductive SameMembers (algorithm : Algorithm) :
    Except Failure String → Except Failure String → Prop
  | failed (f : Failure) : SameMembers algorithm (.error f) (.error f)
  | signed {key : List UInt8} {p p' : Record Datum} (hn : p.names.Nodup) (h : p.Perm p') :
      SameMembers algorithm (.ok (String.ofList (signedSegments algorithm key p).text))
        (.ok (String.ofList (signedSegments algorithm key p').text))

theorem issuerFits_of_perm {p p' : Record Datum} (hn : p.names.Nodup) (h : p.Perm p') :
    issuerFits p = issuerFits p' := by
  rw [issuerFits, issuerFits, Record.get?_of_perm hn h]

theorem oversized_of_perm {p p' : Record Datum} (h : p.Perm p') :
    (Datum.dict p).oversized = (Datum.dict p').oversized := by
  -- whether a value is too long does not depend on where it stands
  have hiff : (Datum.dict p).oversized = false ↔ (Datum.dict p').oversized = false := by
    rw [Datum.oversized_dict_eq_false_iff, Datum.oversized_dict_eq_false_iff]
    exact forall_congr' fun e => imp_congr_left h.mem_iff
  exact Bool.eq_iff_iff.2 (by simpa using not_congr hiff)

theorem sign_sameMembers {p p' : Record Datum} (hn : p.names.Nodup) (h : p.Perm p')
    (algorithm : Algorithm) (secret : Datum) :
    SameMembers algorithm (sign algorithm secret p) (sign algorithm secret p') := by
  rw [sign, sign, issuerFits_of_perm hn h, oversized_of_perm h]
  split
  · exact .failed .issuerKind
  split
  · exact .failed .unprintable
  rcases Key.accept secret with fault | key
  · exact .failed (.key fault)
  · exact .signed hn h

/-- **The order of the claims changes the order of a token's members and nothing else.** -/
theorem issue_sameMembers (h : claims.entries.Perm claims'.entries) (algorithm : Algorithm)
    (policy : Policy) (secret : Datum) (clock : Number) (nextId : Nat) :
    (issue algorithm claims policy secret clock nextId).nextId =
        (issue algorithm claims' policy secret clock nextId).nextId ∧
      SameMembers algorithm (issue algorithm claims policy secret clock nextId).outcome
        (issue algorithm claims' policy secret clock nextId).outcome := by
  have hsame := payload_samePayload h policy clock nextId
  rw [issue, issue]
  generalize payload claims policy clock nextId = payload? at hsame ⊢
  generalize payload claims' policy clock nextId = payload?' at hsame ⊢
  cases hsame with
  | failed f => exact ⟨rfl, .failed f⟩
  | made hn hp => exact ⟨rfl, sign_sameMembers hn hp algorithm secret⟩

end Token

end TokenGate
