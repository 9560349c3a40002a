/-
The builder of a renewed token.

A gate that renews a token restores a builder from it, fills in the identity and builds.  `renewer?` is
that builder, for a request that comes so far.  `process_renewer` says that a request takes from the
supply of ids and sends back what this builder does when it is asked to build; a request without a
renewer takes nothing and sends nothing.
-/
import TokenGate.Proofs.Gate.Transparency
import TokenGate.Proofs.Token.Supply

namespace TokenGate.Gate

open Token

variable {α : Type} {g : Gate} {request : Request} {clock : Number} {nextId : Nat}
  {algorithm : Algorithm} {secret : Datum} {v : Verified} {identity : Identity} {b : Builder}

/-! ### The renewer of a token -/

/-- The builder that a verified token is renewed with. -/
def renewer (algorithm : Algorithm) (secret : Datum) (v : Verified) (identity : Identity) :
    Except Failure Builder := do
  fillInIdentity identity (← Builder.ofVerified algorithm v secret)

/-- A renewer has the token's claims and the identity, on the token's schedule. -/
theorem renewer_eq_ok (h : renewer algorithm secret v identity = .ok b) :
    ∃ claims, ClaimSet.ofRecord (applicationClaims v.claims) = .ok claims ∧
      b = ⟨algorithm, secret, claims.identified identity, v.schedule.policy⟩ := by
  obtain ⟨restored, hr, h⟩ := bind_eq_ok.1 h
  obtain ⟨claims, hc, rfl⟩ := ofVerified_eq_ok hr
  rw [fillInIdentity_eq_ok] at h
  exact ⟨claims, hc, (Except.ok.inj h).symm⟩

/-- A renewer asks for a new id exactly if the token has one. -/
theorem rebuilds_renewer {algorithm' : Algorithm} {secret' presented : Datum}
    (hv : verify algorithm secret clock presented = .ok v)
    (h : renewer algorithm' secret' v identity = .ok b) : b.Rebuilds v := by
  obtain ⟨hchecked, -⟩ := checked_of_verify hv
  obtain ⟨claims, hc, rfl⟩ := renewer_eq_ok h
  exact ⟨rfl, Builder.absent_of_unreserved (unreserved_identified hchecked hc)⟩

/-- The attempt to renew is the building of the renewer. -/
theorem attemptRenewal_renewer (algorithm : Algorithm) (secret : Datum) (v : Verified)
    (identity : Identity) (clock : Number) (nextId : Nat) :
    (attemptRenewal algorithm secret v identity clock nextId).outcome =
        (renewer algorithm secret v identity >>= fun b => (b.build clock nextId).outcome) ∧
      (attemptRenewal algorithm secret v identity clock nextId).nextId =
        (renewer algorithm secret v identity).toOption.elim nextId
          fun b => (b.build clock nextId).nextId := by
  -- as long as there is no builder, both sides have failed alike and nothing was taken
  rw [attemptRenewal, renewer, Builder.ofVerified]
  rcases restore v with f | ⟨claims, policy⟩
  · exact ⟨rfl, rfl⟩
  dsimp only
  rw [ok_bind]
  dsimp only
  rcases Builder.make algorithm secret claims policy with f | made
  · exact ⟨rfl, rfl⟩
  · dsimp only
    rw [ok_bind, reissue, fillInIdentity_eq_ok]
    exact ⟨rfl, rfl⟩

/-! ### The renewer of a request -/

/-- The builder that a gate renews the token of a request with, if it comes to that. -/
def renewer? (g : Gate) (request : Request) (clock : Number) : Option Builder :=
  if request.constrained && g.renew then do
    let presented ← (g.chain.search request).1
    let verdict ← (checkRaw g.algorithm g.secret clock presented).toOption
    let v ← verdict.toOption
    let identity ← (g.mapping.identity v.claims).toOption
    (renewer g.algorithm g.secret v identity).toOption
  else none

/-- What a renewer was made of. -/
theorem renewer?_eq_some (h : g.renewer? request clock = some b) :
    request.constrained = true ∧ g.renew = true ∧ ∃ presented looks v identity,
      g.chain.search request = (some (.text presented), looks) ∧
      check g.algorithm g.secret clock (.text presented) = .ok (.ok v) ∧
      g.mapping.identity v.claims = .ok identity ∧
      renewer g.algorithm g.secret v identity = .ok b := by
  rw [renewer?] at h
  split at h
  · next hon =>
    obtain ⟨hc, hr⟩ := Bool.and_eq_true_iff.1 hon
    obtain ⟨presented | torn, hs, h⟩ := Option.bind_eq_some_iff.1 h
    · obtain ⟨verdict, hverdict, h⟩ := Option.bind_eq_some_iff.1 h
      obtain ⟨v, hv, h⟩ := Option.bind_eq_some_iff.1 h
      obtain ⟨identity, hi, h⟩ := Option.bind_eq_some_iff.1 h
      rw [toOption_eq_some.1 hv] at hverdict
      exact ⟨hc, hr, presented, _, v, identity, Prod.ext hs rfl, toOption_eq_some.1 hverdict,
        toOption_eq_some.1 hi, toOption_eq_some.1 h⟩
    -- a torn text gets no verdict
    · cases h
  · cases h

/-- The renewer of a request rebuilds the token that is found in it. -/
theorem rebuilds_of_renewer? (h : g.renewer? request clock = some b) :
    ∃ presented looks v, g.chain.search request = (some (.text presented), looks) ∧
      verify g.algorithm g.secret clock (.text presented) = .ok v ∧ b.Rebuilds v := by
  obtain ⟨-, -, presented, looks, v, identity, hs, hv, -, hb⟩ := renewer?_eq_some h
  have hverify := verify_of_check hv
  exact ⟨presented, looks, v, hs, hverify, rebuilds_renewer hverify hb⟩

theorem renewer?_of_granted {presented : String} {looks : List Lookup}
    (hc : request.constrained = true) (hr : g.renew = true)
    (hs : g.chain.search request = (some (.text presented), looks))
    (hv : check g.algorithm g.secret clock (.text presented) = .ok (.ok v))
    (hi : g.mapping.identity v.claims = .ok identity) :
    g.renewer? request clock = (renewer g.algorithm g.secret v identity).toOption := by
  simp only [renewer?, hc, hr, hs, checkRaw, hv, hi, Bool.and_self, if_true, toOption_ok,
    Option.bind_eq_bind, Option.bind_some]

/-- The outcome takes ids and sends a token back just as a builder does when it builds, if there is
one. -/
structure Renewing (clock : Number) (nextId : Nat) (b? : Option Builder) (o : Outcome α) : Prop where
  renewedToken : o.renewedToken? = b?.bind fun b => (b.build clock nextId).outcome.toOption
  free : o.nextId = b?.elim nextId fun b => (b.build clock nextId).nextId

/-- What an attempt to renew leaves is what its renewer leaves. -/
theorem Renewing.of_attempt {o : Outcome α} {r : Renewal}
    (hr : attemptRenewal algorithm secret v identity clock nextId = r)
    (ht : o.renewedToken? = r.outcome.toOption) (hn : o.nextId = r.nextId) :
    Renewing clock nextId (renewer algorithm secret v identity).toOption o := by
  obtain ⟨houtcome, hnext⟩ := attemptRenewal_renewer algorithm secret v identity clock nextId
  rw [hr] at houtcome hnext
  exact ⟨by rw [ht, houtcome, toOption_bind], hn.trans hnext⟩

/-- **A request takes ids and sends a token back just as its renewer does.** -/
theorem process_renewer (g : Gate) (request : Request) (clock : Number) (nextId : Nat)
    (next : Option Identity → α) :
    Renewing clock nextId (g.renewer? request clock) (g.process request clock nextId next) := by
  obtain ⟨o, ho, hw⟩ := exists_way g request clock nextId next
  rw [ho]
  -- a request that is not granted has no renewer, and nor has one at a gate that does not renew
  have hidle : ∀ o : Outcome α, o.nextId = nextId → o.renewedToken? = none →
      (∀ b, g.renewer? request clock ≠ some b) →
      Renewing clock nextId (g.renewer? request clock) o := by
    intro o hn ht hnone
    rw [Option.eq_none_iff_forall_ne_some.2 hnone]
    exact ⟨ht, hn⟩
  cases hw with
  | free hc =>
    refine hidle _ rfl rfl fun b hb => ?_
    obtain ⟨hc', -⟩ := renewer?_eq_some hb
    cases hc.symm.trans hc'
  | missing hc hs =>
    refine hidle _ rfl rfl fun b hb => ?_
    obtain ⟨-, -, _, _, _, _, hs', -⟩ := renewer?_eq_some hb
    cases hs.symm.trans hs'
  | failed hc hs hv | defective hc hs hv =>
    refine hidle _ rfl rfl fun b hb => ?_
    obtain ⟨-, -, _, _, _, _, hs', hv', -⟩ := renewer?_eq_some hb
    cases hs.symm.trans hs'
    cases hv.symm.trans hv'
  | nameless hc hs hv hi | unmapped hc hs hv hi =>
    refine hidle _ rfl rfl fun b hb => ?_
    obtain ⟨-, -, _, _, _, _, hs', hv', hi', -⟩ := renewer?_eq_some hb
    cases hs.symm.trans hs'
    cases hv.symm.trans hv'
    cases hi.symm.trans hi'
  | granted hc hs hv hi hp =>
    cases hp with
    | unchanged hr =>
      refine hidle _ rfl rfl fun b hb => ?_
      obtain ⟨-, hr', -⟩ := renewer?_eq_some hb
      cases hr.symm.trans hr'
    | renewed hr ht | kept hr ht | broken hr ht =>
      rw [renewer?_of_granted hc hr hs hv hi]
      exact .of_attempt ht rfl rfl

end TokenGate.Gate
