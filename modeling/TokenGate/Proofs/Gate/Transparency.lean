/-
Renewal is transparent.

A gate that renews tokens treats every request as one that does not: the same requests pass, for the
same identities and with the same answers, and the same requests are rejected, in the same words.
`process_transparent` compares the two outcomes of a request.  What renewal adds to a request that
passes is one header with the new token, and nothing else.

The reason is that a token which was verified can only fail to be renewed for an `Obstacle`
(`obstacle_of_attemptRenewal`), and that every obstacle is forgiven.  A missing claim and a secret that
is no key are not among them: the identity is filled in, and the secret has just verified the token.
A clock at plus infinity is left out: it has no second to issue a token at, and this is not forgiven.
-/
import TokenGate.Proofs.Gate.Reissue
import TokenGate.Proofs.Gate.Sliding

namespace TokenGate

open Token

/-! ### Failing to sign -/

theorem Token.sign_eq_error {algorithm : Algorithm} {secret : Datum} {payload : Record Datum}
    {f : Failure} (h : sign algorithm secret payload = .error f) :
    f = .issuerKind ∨ f = .unprintable ∨ ∃ fault, Key.accept secret = .error fault := by
  rw [sign] at h
  split at h
  · cases h
    exact .inl rfl
  split at h
  · cases h
    exact .inr (.inl rfl)
  split at h
  · next fault hk => exact .inr (.inr ⟨fault, hk⟩)
  · cases h

theorem Policy.checkDuration_eq_error {duration : Duration} {n? : Option Int} {f : Failure}
    (h : checkDuration duration (n?.map .int) = .error f) :
    f = .unprintable ∨ ∃ shown, f = .negativeDuration duration shown := by
  rcases n? with - | n
  · cases h
  · rw [Option.map_some, checkDuration, Datum.number?] at h
    dsimp only at h
    split at h
    · rw [Except.error.injEq] at h
      split at h
      · exact .inl h.symm
      · exact .inr ⟨_, h.symm⟩
    · cases h

theorem Schedule.validate_eq_error {s : Schedule} {f : Failure}
    (h : s.policy.validate = .error f) :
    f = .unprintable ∨ ∃ duration shown, f = .negativeDuration duration shown := by
  rw [Policy.validate] at h
  rcases he : Policy.checkDuration .expiry s.policy.expiry with f' | ⟨⟩
  · rw [he] at h
    cases h
    exact (Policy.checkDuration_eq_error he).imp_right (Exists.intro _)
  · rw [he] at h
    exact (Policy.checkDuration_eq_error h).imp_right (Exists.intro _)

namespace Gate

/-! ### Failing to renew -/

/-- Why a verified token is not renewed: it carries no second of issue, a claim without a name or with
a value that claims do not have, a first second after that of issue or an issuer that is no text, or
an integer is too long to be written, or the clock is no number. -/
inductive Obstacle : Failure → Prop
  | issuedAtMissing : Obstacle .issuedAtMissing
  | claimName : Obstacle .claimName
  | claimKind (name : String) (kind : Datum.Kind) : Obstacle (.claimKind name kind)
  | negativeDuration (duration : Duration) (shown : String) :
      Obstacle (.negativeDuration duration shown)
  | issuerKind : Obstacle .issuerKind
  | unprintable : Obstacle .unprintable
  | notANumber : Obstacle (.integer .notANumber)

/-- Every obstacle only costs the renewal. -/
theorem Obstacle.forgiven {f : Failure} (h : Obstacle f) : forgiven f = true := by
  cases h <;> rfl

variable {algorithm : Algorithm} {secret token : Datum} {v : Verified} {identity : Identity}
  {clock : Number} {nextId : Nat} {f : Failure}

theorem obstacle_of_reissued (h : Checked clock v.claims) (hc : clock ≠ .float (.infinite false))
    (hf : reissued v identity clock nextId = .error f) : Obstacle f := by
  rcases hi : v.given? Claim.issuedAt with - | d
  · rw [reissued_of_not_given hi] at hf
    cases hf
    exact .issuedAtMissing
  rw [reissued_of_given h hi] at hf
  -- a claim that cannot be written, a duration that is negative, a clock without a second
  rcases bind_eq_error.1 hf with hf | ⟨claims, -, hf⟩
  · rcases ClaimSet.ofRecord_eq_error hf with rfl | ⟨name, kind, rfl⟩
    · exact .claimName
    · exact .claimKind name kind
  rcases bind_eq_error.1 hf with hf | ⟨-, -, hf⟩
  · rcases Schedule.validate_eq_error hf with rfl | ⟨duration, shown, rfl⟩
    · exact .unprintable
    · exact .negativeDuration duration shown
  rcases bind_eq_error.1 hf with hf | ⟨n, -, hf⟩
  · rcases second_eq_error hf with rfl | ⟨- | -, hinf⟩
    · exact .notANumber
    · exact absurd hinf hc
    · exact absurd hinf (h.ne_infinite_of_given hi)
  · cases hf

/-- **A verified token fails to be renewed only for an obstacle.** -/
theorem obstacle_of_attemptRenewal (hv : verify algorithm secret clock token = .ok v)
    (hc : clock ≠ .float (.infinite false))
    (hf : (attemptRenewal algorithm secret v identity clock nextId).outcome = .error f) :
    Obstacle f := by
  obtain ⟨hchecked, key, hk⟩ := checked_of_verify hv
  rw [attemptRenewal_outcome (Key.truth_of_accept hk)] at hf
  rcases bind_eq_error.1 hf with hf | ⟨payload, -, hf⟩
  · exact obstacle_of_reissued hchecked hc hf
  · rcases sign_eq_error hf with rfl | rfl | ⟨fault, he⟩
    · exact .issuerKind
    · exact .unprintable
    · rw [hk] at he
      cases he

/-! ### With and without renewal -/

variable {α : Type}

/-- The gate with renewal switched on or off. -/
def renewing (g : Gate) (on : Bool) : Gate := { g with renew := on }

/-- The renewed token of an outcome. -/
def Outcome.renewedToken? (o : Outcome α) : Option String :=
  o.decision.toOption.bind Decision.renewedToken

/-- A decision as it is; or, for one to let a request pass, the same with a renewed token. -/
inductive Renews (d : Decision α) : Decision α → Prop
  | unchanged : Renews d d
  | renewed (token : String) (hs : d.state = .authenticated) :
      Renews d { d with state := .renewed, renewedToken := some token }

/-- How the outcome with renewal compares with the one without: it fails with the same failure, or its
decision is the same but for a renewed token; and its calls are the same but for the header that a
renewed token, and nothing else, is sent back in. -/
structure Transparent (headerName : Datum) (off on : Outcome α) : Prop where
  failure : ∀ f, on.decision = .error f ↔ off.decision = .error f
  decision : ∀ d d', off.decision = .ok d → on.decision = .ok d' → Renews d d'
  unrenewed : off.renewedToken? = none
  calls : on.calls.filter (·.header?.isNone) = off.calls
  headers : on.calls.filterMap Call.header? =
    on.renewedToken?.toList.map fun token => (headerName, token)
  attached : on.attached? = off.attached?

/-- An outcome that decides and does the same as one without headers differs in nothing. -/
theorem Transparent.of_eq {headerName : Datum} {off on : Outcome α}
    (hd : on.decision = off.decision) (hcalls : on.calls = off.calls)
    (hheader : ∀ call ∈ off.calls, call.header? = none) (hnone : off.renewedToken? = none) :
    Transparent headerName off on where
  failure f := by rw [hd]
  decision d d' h h' := by
    rw [hd, h] at h'
    cases h'
    exact .unchanged
  unrenewed := hnone
  calls := by
    rw [hcalls, List.filter_eq_self]
    intro call hcall
    rw [hheader call hcall]
    rfl
  headers := by
    have htoken : on.renewedToken? = none := by rwa [Outcome.renewedToken?, hd]
    rw [htoken, hcalls, List.filterMap_eq_nil_iff.2 hheader]
    rfl
  attached := by rw [Outcome.attached?, Outcome.attached?, hcalls]

theorem header?_of_mem_looks {looks : List Lookup} {call : Call} (h : call ∈ looks.map Call.look) :
    call.header? = none := by
  obtain ⟨look, -, rfl⟩ := List.mem_map.1 h
  rfl

theorem header?_of_mem_append {looks : List Lookup} {last call : Call} (hlast : last.header? = none)
    (h : call ∈ looks.map Call.look ++ [last]) : call.header? = none := by
  rcases List.mem_append.1 h with h | h
  · exact header?_of_mem_looks h
  · rw [List.mem_singleton.1 h, hlast]

variable {g : Gate} {request : Request} {next : Option Identity → α} {looks : List Lookup}
  {on : Outcome α}

/-- A request with a valid token passes as it would without renewal, if a failed renewal is always
forgiven. -/
theorem Passage.transparent (hr : g.renew = true)
    (hp : Passage g next v identity clock (looks.map .look) nextId on)
    (hforgiven : ∀ f,
      (attemptRenewal g.algorithm g.secret v identity clock nextId).outcome = .error f →
        forgiven f = true) (events : List Event) :
    Transparent g.headerName
      (pass next identity (looks.map .look ++ [.attach identity marker]) events nextId) on := by
  have hattached : ∀ call ∈ looks.map Call.look ++ [Call.attach identity marker],
      call.header? = none := fun call => header?_of_mem_append rfl
  cases hp with
  | unchanged hr' => cases hr.symm.trans hr'
  | broken hr' ht hf =>
    have htrue := hforgiven _ (congrArg Renewal.outcome ht)
    cases hf.symm.trans htrue
  | kept hr' ht hf =>
    refine .of_eq rfl rfl (fun call hcall => ?_) rfl
    rcases List.mem_append.1 hcall with hcall | hcall
    · exact hattached call hcall
    · rw [List.mem_singleton.1 hcall]
      rfl
  | @renewed token events' freeId hr' ht =>
    have hkept : ∀ call ∈ looks.map Call.look ++ [Call.attach identity marker],
        call.header?.isNone = true := fun call hcall => by rw [hattached call hcall]; rfl
    refine ⟨fun f => ⟨fun h => (nomatch h), fun h => (nomatch h)⟩, ?_, rfl, ?_, ?_, ?_⟩
    · rintro d d' ⟨⟩ ⟨⟩
      exact .renewed token rfl
    · rw [passRenewed, pass, List.filter_append, List.filter_eq_self.2 hkept]
      rfl
    · rw [passRenewed, List.filterMap_append, List.filterMap_eq_nil_iff.2 hattached]
      rfl
    · simp only [Outcome.attached?, passRenewed, pass, List.reverse_append]
      rfl

/-- **Renewal is transparent.**  With and without it a request ends with the same failure or with the
same decision and the same calls, but for a renewed token and the header that it is sent back in; and
whatever keeps a verified token from being renewed is forgiven, and is neither a missing claim nor the
secret.  No clock stands at plus infinity. -/
theorem process_transparent (g : Gate) (request : Request) (clock : Number) (nextId : Nat)
    (next : Option Identity → α) (hc : clock ≠ .float (.infinite false)) :
    Transparent g.headerName ((g.renewing false).process request clock nextId next)
        ((g.renewing true).process request clock nextId next) ∧
      ∀ token v identity f, verify g.algorithm g.secret clock token = .ok v →
        (attemptRenewal g.algorithm g.secret v identity clock nextId).outcome = .error f →
        Obstacle f ∧ forgiven f = true ∧ f ≠ .mandatoryClaims ∧ ∀ fault, f ≠ .key fault := by
  refine ⟨?_, fun token v identity f hv hf => ?_⟩
  · obtain ⟨off, hoff, hw⟩ := exists_way (g.renewing false) request clock nextId next
    rw [hoff]
    -- every way but the last is the same for both gates, and sets no header
    cases hw with
    | free hc =>
      rw [(Way.free (g := g.renewing true) hc).process_eq]
      refine .of_eq rfl rfl (fun call hcall => ?_) rfl
      rw [List.mem_singleton.1 hcall]
      rfl
    | missing hc hs =>
      rw [(Way.missing (g := g.renewing true) hc hs).process_eq]
      exact .of_eq rfl rfl (fun call => header?_of_mem_append rfl) rfl
    | failed hc hs hv =>
      rw [(Way.failed (g := g.renewing true) hc hs hv).process_eq]
      exact .of_eq rfl rfl (fun call => header?_of_mem_looks) rfl
    | defective hc hs hv =>
      rw [(Way.defective (g := g.renewing true) hc hs hv).process_eq]
      exact .of_eq rfl rfl (fun call => header?_of_mem_append rfl) rfl
    | nameless hc hs hv hi =>
      rw [(Way.nameless (g := g.renewing true) hc hs hv hi).process_eq]
      exact .of_eq rfl rfl (fun call => header?_of_mem_append rfl) rfl
    | unmapped hc hs hv hi hf =>
      rw [(Way.unmapped (g := g.renewing true) hc hs hv hi hf).process_eq]
      exact .of_eq rfl rfl (fun call => header?_of_mem_looks) rfl
    | @granted token looks v identity o hcon hs hv hi hp =>
      have hpassage := grant_passage (g.renewing true) next v identity clock
        (looks.map .look) nextId
      rw [(Way.granted (g := g.renewing true) hcon hs hv hi hpassage).process_eq]
      cases hp with
      | unchanged =>
        refine hpassage.transparent rfl (fun f hf => ?_) _
        exact (obstacle_of_attemptRenewal (verify_of_check hv) hc hf).forgiven
      | renewed hr | kept hr | broken hr => cases hr
  · have ho := obstacle_of_attemptRenewal hv hc hf
    refine ⟨ho, ho.forgiven, ?_, fun fault => ?_⟩
    · rintro rfl
      cases ho
    · rintro rfl
      cases ho

/-- The guest's request passes with and without renewal; with it, one header is set. -/
theorem process_transparent_guest : ∃ first token,
    let off := (usualGate.renewing false).process (carrying first) (.int 0) 0 fun _ => ()
    let on := (usualGate.renewing true).process (carrying first) (.int 0) 0 fun _ => ()
    Number.int 0 ≠ .float (.infinite false) ∧
      on.decision = .ok { state := .renewed, identity := some guest, renewedToken := some token,
                          result := some () } ∧
      on.calls.filterMap Call.header? = [(.text Source.defaultHeader, token)] ∧
      Transparent usualGate.headerName off on := by
  have hopen : ∀ n, tenSeconds.expiry = some n → 0 < n := by
    rintro n ⟨⟩
    decide
  obtain ⟨first, v, token, -, -, -, -, -, hd⟩ := exists_session (fun _ => .int 0) rfl
    forward_tenSeconds (printable_tenSeconds le_rfl (by decide)) hopen rfl
  change ((usualGate.renewing true).process (carrying first) (.int 0) 0 fun _ => ()).decision =
    .ok _ at hd
  have hclock : Number.int 0 ≠ .float (.infinite false) := by rintro ⟨⟩
  have ht := (process_transparent usualGate (carrying first) (.int 0) 0 (fun _ => ()) hclock).1
  refine ⟨first, token, hclock, hd, ?_, ht⟩
  have hheaders := ht.headers
  rwa [Outcome.renewedToken?, hd] at hheaders

end Gate

end TokenGate
