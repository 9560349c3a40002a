/-
What a renewal signs.

Between a verified token and the renewed one stands a payload: the token's own claims, the identity
where they lack it, and the times and the id of a new issue.  `reissued` is this payload, or the
failure that keeps it from being made.

* `attemptRenewal_outcome` says that a renewal is the signing of it, so that the secret is used in
  the last step and nowhere before.
* `reissued_of_given` says what it is if the token carries its second of issue, and
  `reissued_of_not_given` that otherwise there is none.

Filling in the identity always works (`fillInIdentity_eq_ok`), which is why a renewal never lacks one
of the two claims that every token has to have.
-/
import TokenGate.Proofs.Gate.Renewal
import TokenGate.Proofs.Token.Checked

namespace TokenGate

open Token

/-! ### Filling in -/

namespace ClaimSet

/-- The set with a claim that it lacks. -/
def fill (s : ClaimSet) (name : String) (v : ClaimValue) (h : name ≠ "") : ClaimSet :=
  if s.contains name then s else s.write name v h

/-- The set with an identity under the usual names, where they are missing. -/
def identified (s : ClaimSet) (identity : Identity) : ClaimSet :=
  (s.fill Claim.userId (.text identity.userId) (by decide)).fill Claim.roles
    (.texts identity.roles) (by decide)

theorem contains_fill {s : ClaimSet} {name other : String} {v : ClaimValue} {h : name ≠ ""} :
    (s.fill name v h).contains other = true ↔ other = name ∨ s.contains other = true := by
  rw [fill]
  split
  · next hs =>
    refine ⟨.inr, ?_⟩
    rintro (rfl | ho)
    · exact hs
    · exact ho
  · rw [contains_iff, names, write, Record.mem_names_set, contains_iff, names]
    exact Or.comm

theorem contains_identified_userId (s : ClaimSet) (identity : Identity) :
    (s.identified identity).contains Claim.userId = true :=
  contains_fill.2 (.inr (contains_fill.2 (.inl rfl)))

theorem contains_identified_roles (s : ClaimSet) (identity : Identity) :
    (s.identified identity).contains Claim.roles = true :=
  contains_fill.2 (.inl rfl)

end ClaimSet

namespace Gate

variable {algorithm : Algorithm} {secret : Datum} {v : Verified} {identity : Identity}
  {clock : Number} {nextId : Nat} {b : Builder}

theorem fillIn_eq_ok {name : String} {value : Datum} {w : ClaimValue} (hne : name ≠ "")
    (hw : ClaimValue.ofDatum? value = some w) :
    fillIn name value b = .ok { b with claims := b.claims.fill name w hne } := by
  rw [fillIn, ClaimSet.fill]
  split
  · rfl
  · rw [Builder.putClaim, ClaimSet.step, ClaimSet.put, dif_neg hne, hw]
    rfl

/-- **Filling in the identity always works.** -/
theorem fillInIdentity_eq_ok (identity : Identity) (b : Builder) :
    fillInIdentity identity b = .ok { b with claims := b.claims.identified identity } := by
  have hroles : ClaimValue.ofDatum? (.tuple (identity.roles.map .text)) =
      some (.texts identity.roles) := by
    rw [ClaimValue.ofDatum?, ClaimValue.mapM_text?_texts]
    rfl
  rw [fillInIdentity, fillIn_eq_ok (by decide) rfl, ok_bind, fillIn_eq_ok (by decide) hroles]
  rfl

/-! ### The payload of a renewed token -/

/-- The payload that a renewal signs. -/
def reissued (v : Verified) (identity : Identity) (clock : Number) (nextId : Nat) :
    Except Failure (Record Datum) := do
  let (claims, policy) ← restore v
  payload (claims.identified identity) policy clock nextId

/-- A renewal restores the token and issues a new one; only issuing uses the secret. -/
theorem attemptRenewal_eq (hs : secret.truth = true) :
    attemptRenewal algorithm secret v identity clock nextId =
      match restore v with
      | .error f => ⟨.error f, [], nextId⟩
      | .ok (claims, policy) =>
        let issued := issue algorithm (claims.identified identity) policy secret clock nextId
        ⟨issued.outcome, [.rebuilt claims.size policy.tokenId], issued.nextId⟩ := by
  rw [attemptRenewal]
  rcases restore v with f | ⟨claims, policy⟩
  · rfl
  · simp only [Builder.make, if_pos hs, reissue, fillInIdentity_eq_ok, Builder.build]

/-- **A renewal is the signing of a payload that was fixed without the secret.** -/
theorem attemptRenewal_outcome (hs : secret.truth = true) :
    (attemptRenewal algorithm secret v identity clock nextId).outcome =
      reissued v identity clock nextId >>= sign algorithm secret := by
  rw [attemptRenewal_eq hs, reissued]
  rcases restore v with f | ⟨claims, policy⟩
  · rfl
  · dsimp only
    rw [ok_bind]
    dsimp only
    rw [issue]
    rcases payload (claims.identified identity) policy clock nextId with f | p
    · rfl
    · rfl

/-! ### What the payload is -/

variable {s : Schedule} {claims : ClaimSet} {d : Datum}

/-- Claims with an identity are issued on a schedule if it is valid and the clock has a second. -/
theorem payload_identified (hr : (claims.identified identity).payload.Unreserved) :
    payload (claims.identified identity) s.policy clock nextId = (do
      s.policy.validate
      let n ← second clock
      return (claims.identified identity).payload ++ s.claims n (id nextId)) := by
  rw [payload, claims.contains_identified_userId, claims.contains_identified_roles]
  simp only [Bool.and_self, if_true]
  congr 1
  funext
  congr 1
  funext n
  exact stamp_schedule hr n nextId

theorem reissued_of_not_given (hi : v.given? Claim.issuedAt = none) :
    reissued v identity clock nextId = .error .issuedAtMissing := by
  rw [reissued, restore, hi]
  rfl

section Given

variable (h : Checked clock v.claims) (hi : v.given? Claim.issuedAt = some d)

include h

/-- Nothing that was restored or filled in is one of the four claims that issuing writes. -/
theorem unreserved_identified
    (hc : ClaimSet.ofRecord (applicationClaims v.claims) = .ok claims) :
    (claims.identified identity).payload.Unreserved :=
  unreserved_of_filled (b := ⟨.hs256, .null, claims, {}⟩) h.plain hc rfl
    (fillInIdentity_eq_ok identity _)

theorem floatFree_identified (hc : ClaimSet.ofRecord (applicationClaims v.claims) = .ok claims)
    (hfloat : ∀ e ∈ applicationClaims v.claims, ∀ x, e.2 ≠ .float x) :
    (claims.identified identity).FloatFree :=
  floatFree_of_filled (b := ⟨.hs256, .null, claims, {}⟩) h.plain hc rfl
    (fillInIdentity_eq_ok identity _) hfloat

theorem subjectFits_identified (hc : ClaimSet.ofRecord (applicationClaims v.claims) = .ok claims)
    (hs : checkText v.claims Claim.subject .subjectShape = .ok ()) :
    SubjectFits (claims.identified identity) :=
  subjectFits_of_filled (b := ⟨.hs256, .null, claims, {}⟩) h.plain hc rfl
    (fillInIdentity_eq_ok identity _) hs

include hi

/-- **What a renewal signs**: the claims of the token, with the identity, on the token's schedule. -/
theorem reissued_of_given :
    reissued v identity clock nextId = (do
      let claims ← ClaimSet.ofRecord (applicationClaims v.claims)
      v.schedule.policy.validate
      let n ← second clock
      return (claims.identified identity).payload ++ v.schedule.claims n (id nextId)) := by
  rw [reissued, h.restore_of_given hi]
  rcases hc : ClaimSet.ofRecord (applicationClaims v.claims) with f | claims
  · rfl
  · exact payload_identified (unreserved_identified h hc)

end Given

end Gate

end TokenGate
