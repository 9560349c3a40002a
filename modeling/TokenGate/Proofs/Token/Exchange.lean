/-
Builders survive their tokens.

A token is built, and a builder is made of it again: an exchange.  `exchange_restores` says that the
new builder is the old one, with the same claims in the same order and the same policy, whenever the
token was accepted; and so it is after any number of exchanges, at whatever clocks.

Nothing is asked of the clocks but that a token is built and accepted at them.  The builder has to
carry its second of issue, since its durations are counted from there, and its claims must hold no
floating-point number and none of the claims that its policy decides (`Restorable`).  Its texts are made
of characters; single halves of surrogate pairs do not stand in them (`Datum`).
-/
import TokenGate.Proofs.Token.Checked
import TokenGate.Token.Builder

namespace TokenGate

namespace Builder

open Token

/-! ### Builders that can be restored -/

/-- A builder whose tokens say all that it is made of. -/
structure Restorable (b : Builder) : Prop where
  issuedAt : b.policy.issuedAt = true
  expiry : ∀ d, b.policy.expiry = some d → ∃ n, d = .int n
  leeway : ∀ d, b.policy.leeway = some d → ∃ n, d = .int n
  floatFree : b.claims.FloatFree
  unreserved : b.claims.payload.Unreserved

theorem exists_int_of_forall {duration : Option Datum}
    (h : ∀ d, duration = some d → ∃ n, d = .int n) : ∃ n? : Option Int, duration = n?.map .int := by
  rcases duration with - | d
  · exact ⟨none, rfl⟩
  · obtain ⟨n, rfl⟩ := h d rfl
    exact ⟨some n, rfl⟩

/-- Such a builder is on a schedule with a second of issue. -/
theorem Restorable.exists_schedule {b : Builder} (h : b.Restorable) :
    ∃ s : Schedule, b.policy = s.policy ∧ s.issuedAt = true := by
  obtain ⟨expiry, he⟩ := exists_int_of_forall h.expiry
  obtain ⟨leeway, hl⟩ := exists_int_of_forall h.leeway
  refine ⟨⟨b.policy.issuedAt, expiry, leeway, b.policy.tokenId⟩, ?_, h.issuedAt⟩
  rw [Schedule.policy, ← he, ← hl]

/-! ### One exchange -/

/-- The clock and the id number that a token is built at, and the clock at which it is read. -/
structure Exchange where
  builtAt : Number
  idNumber : Nat
  readAt : Number

/-- The builder of the token of a builder. -/
def exchange (b : Builder) (e : Exchange) : Except Failure Builder := do
  let token ← (b.build e.builtAt e.idNumber).outcome
  ofToken (.text token) b.secret (.text b.algorithm.name) e.readAt

variable {b : Builder} {e : Exchange} {builtAt readAt : Number} {idNumber : Nat} {token : String}
  {v : Verified}

/-- Building a token takes a second of the clock. -/
theorem exists_second_of_build (h : (b.build builtAt idNumber).outcome = .ok token) :
    ∃ n, second builtAt = .ok n := by
  rw [build, issue] at h
  split at h
  · cases h
  next p hp =>
  obtain ⟨-, -, -, n, hn, -⟩ := payload_eq_ok hp
  exact ⟨n, hn⟩

/-- A secret that a token is verified with makes a builder. -/
theorem make_of_verify (h : verify b.algorithm b.secret readAt (.text token) = .ok v) :
    make b.algorithm b.secret b.claims b.policy = .ok b := by
  obtain ⟨-, key, hk⟩ := checked_of_verify h
  exact if_pos (Key.truth_of_accept hk)

/-- **A token leads back to its builder**, at any clock at which it is accepted. -/
theorem ofToken_build (h : b.Restorable) (hbuild : (b.build builtAt idNumber).outcome = .ok token)
    (hv : verify b.algorithm b.secret readAt (.text token) = .ok v) :
    ofToken (.text token) b.secret (.text b.algorithm.name) readAt = .ok b := by
  obtain ⟨s, hpolicy, hi⟩ := h.exists_schedule
  obtain ⟨n, hn⟩ := exists_second_of_build hbuild
  rw [build, hpolicy] at hbuild
  obtain ⟨-, -, -, hsign⟩ := issue_eq_ok hn h.unreserved hbuild
  -- what is verified is the payload that was signed, and restoring takes it apart
  have hverify := verify_sign (nodup_names_signed h.unreserved) (flat_signed h.floatFree _ _) hsign
    readAt
  obtain ⟨-, -, rfl⟩ := map_eq_ok.1 (hverify.symm.trans hv)
  have hrestore : restore ⟨b.claims.payload ++ s.claims n (Token.id idNumber),
      headerOf b.algorithm⟩ = .ok (b.claims, b.policy) := by
    rw [restore_signed h.unreserved hi, hpolicy]
  rw [ofToken, Algorithm.check_name, ok_bind, verifyRaw, hv, ok_bind, ofVerified, hrestore, ok_bind]
  exact make_of_verify hv

/-! ### Any number of exchanges -/

/-- At the clocks of an exchange, a token of the builder is built and accepted. -/
def Accepts (b : Builder) (e : Exchange) : Prop :=
  ∃ token v, (b.build e.builtAt e.idNumber).outcome = .ok token ∧
    verify b.algorithm b.secret e.readAt (.text token) = .ok v

/-- Each exchange is accepted by the builder that the ones before it have led to. -/
def AcceptsAll : Builder → List Exchange → Prop
  | _, [] => True
  | b, e :: rest => b.Accepts e ∧ ∀ b', b.exchange e = .ok b' → AcceptsAll b' rest

theorem exchange_eq (h : b.Restorable) (ha : b.Accepts e) : b.exchange e = .ok b := by
  obtain ⟨token, v, hbuild, hv⟩ := ha
  rw [exchange, hbuild, ok_bind]
  exact ofToken_build h hbuild hv

theorem foldlM_exchange {exchanges : List Exchange} (h : b.Restorable)
    (ha : b.AcceptsAll exchanges) : exchanges.foldlM exchange b = .ok b := by
  -- an exchange leaves the builder as it is, so the rest starts from the same one
  induction exchanges with
  | nil => rfl
  | cons e rest ih =>
    obtain ⟨hfirst, hrest⟩ := ha
    have hsame := exchange_eq h hfirst
    rw [List.foldlM_cons, hsame, ok_bind]
    exact ih (hrest b hsame)

/-- **Builders survive their tokens**: an accepted token leads back to the builder that it was built
by, and so do any number of exchanges, each of which is accepted. -/
theorem exchange_restores (h : b.Restorable) :
    (∀ builtAt idNumber token readAt v, (b.build builtAt idNumber).outcome = .ok token →
      verify b.algorithm b.secret readAt (.text token) = .ok v →
      ofToken (.text token) b.secret (.text b.algorithm.name) readAt = .ok b) ∧
    ∀ exchanges, b.AcceptsAll exchanges → exchanges.foldlM exchange b = .ok b := by
  constructor
  · intro builtAt idNumber token readAt v hbuild hv
    exact ofToken_build h hbuild hv
  · intro exchanges ha
    exact foldlM_exchange h ha

/-- The builder of the guest's tokens. -/
def guestBuilder : Builder := ⟨.hs256, .text "k", guestClaims, tenSeconds.policy⟩

theorem restorable_guestBuilder : guestBuilder.Restorable where
  issuedAt := rfl
  expiry := by
    rintro d ⟨⟩
    exact ⟨10, rfl⟩
  leeway := by
    rintro d ⟨⟩
  floatFree := floatFree_guestClaims
  unreserved := unreserved_guestClaims

/-- For ten seconds the guest's tokens are accepted. -/
theorem accepts_guestBuilder {n m : Int} (h0 : 0 ≤ n) (hn : n < 900) (hle : n ≤ m)
    (hlt : m < n + 10) : guestBuilder.Accepts ⟨.int n, 0, .int m⟩ := by
  obtain ⟨token, hsign⟩ := sign_guestClaims h0 hn (Token.id 0)
  have hstarted : tenSeconds.Started n (m : ℚ) := forward_tenSeconds.started (by exact_mod_cast hle)
  have hended : ¬tenSeconds.Ended n (m : ℚ) := by
    rintro ⟨e, ⟨⟩, he⟩
    exact absurd (by exact_mod_cast he : n + 10 ≤ m) (not_le.2 hlt)
  refine ⟨token, _, ?_, verify_open unreserved_guestClaims rfl floatFree_guestClaims
    subjectFits_guestClaims hsign hstarted hended⟩
  show (issue .hs256 guestClaims tenSeconds.policy (.text "k") (.int n) 0).outcome = .ok token
  exact issue_of_sign rfl unreserved_guestClaims rfl rfl forward_tenSeconds hsign

/-- The guest's builder comes back from two exchanges, each with a token that is accepted in time. -/
theorem exchange_restores_guestBuilder :
    let exchanges : List Exchange := [⟨.int 100, 0, .int 105⟩, ⟨.int 112, 0, .int 121⟩]
    guestBuilder.Restorable ∧ guestBuilder.AcceptsAll exchanges ∧
      exchanges.foldlM exchange guestBuilder = .ok guestBuilder := by
  have hfirst : guestBuilder.Accepts ⟨.int 100, 0, .int 105⟩ :=
    accepts_guestBuilder (by decide) (by decide) (by decide) (by decide)
  have hlast : guestBuilder.Accepts ⟨.int 112, 0, .int 121⟩ :=
    accepts_guestBuilder (by decide) (by decide) (by decide) (by decide)
  obtain ⟨hrestores, hall⟩ := exchange_restores restorable_guestBuilder
  have haccepts : guestBuilder.AcceptsAll [⟨.int 100, 0, .int 105⟩, ⟨.int 112, 0, .int 121⟩] := by
    refine ⟨hfirst, fun b hb => ?_⟩
    obtain rfl : guestBuilder = b :=
      Except.ok.inj ((exchange_eq restorable_guestBuilder hfirst).symm.trans hb)
    exact ⟨hlast, fun _ _ => trivial⟩
  exact ⟨restorable_guestBuilder, haccepts, hall _ haccepts⟩

end Builder

end TokenGate
