/-
Sliding sessions.

A client whose token was renewed sends the new token with its next request, in the header that it
came back in, and goes on like this.  `Visits` are such requests, each with its clock and the free id
number that the gate finds.  `session_slides` is the main result, for runs of any length: while each
request comes before the last token expires, every one of them is let through for the identity of the
first one, with a new token that has the same claims and the same durations, counted from the second
of the request; and a request that comes too late is rejected for an expired token.

There is one way out.  Seconds of more than 4300 digits cannot be written, and a gate whose clock
brings a token's times there lets the request through without a new token
(`session_slides` says so, and `session_stops_at_unprintable` has a run that ends in this way).

The step is `decision_of_open`: what becomes of one request with a renewed token.  The run is an
induction over the visits, with `Visits.Renews` as what each of them keeps up: the claims and the
schedule of the first renewed token never change.
-/
import TokenGate.Proofs.Gate.Renewal
import TokenGate.Proofs.Gate.Way
import TokenGate.Proofs.Source

namespace TokenGate

open Token

theorem Token.verify_of_check {algorithm : Algorithm} {secret : Datum} {clock : Number}
    {token : Datum} {v : Verified} (h : check algorithm secret clock token = .ok (.ok v)) :
    verify algorithm secret clock token = .ok v := by
  rw [check] at h
  split at h
  · next he =>
    cases h
    exact he
  · cases h
  · cases h

theorem PlaceName.toDatum_of_ofDatum {place : Place} {d : Datum} {name : PlaceName}
    (h : ofDatum place d = .ok name) : name.toDatum = d := by
  unfold ofDatum at h
  split at h
  · split at h
    · cases h
    · cases h
      rfl
  · split at h
    · cases h
    · cases h
      rfl
  · cases h

namespace Gate

variable {α : Type} {g : Gate} {request : Request} {clock : Number} {nextId : Nat}
  {next : Option Identity → α} {token presented : String} {looks : List Lookup} {v : Verified}
  {identity : Identity}

/-! ### One request -/

/-- A guarded request carries a token in the header that the gate sends tokens back in; the gate asks
for that header, and what it asks for before is not there. -/
structure Presents (g : Gate) (request : Request) (token : String) : Prop where
  constrained : request.constrained = true
  in_header : ∃ name before after, g.headerName = name.toDatum ∧
    g.chain.sources = before ++ .header name :: after ∧
    (∀ s ∈ before, s.read? request = none) ∧ request.value? ⟨.header, name⟩ = some (.text token)

theorem Presents.search (h : g.Presents request token) (hc : Source.clean? token = some token) :
    ∃ looks, g.chain.search request = (some (.text token), looks) := by
  obtain ⟨name, before, after, -, hsources, hbefore, hv⟩ := h.in_header
  refine ⟨(g.chain.search request).2, Prod.ext ?_ rfl⟩
  rw [Chain.search, hsources]
  exact Source.search_of_read? hbefore (Source.read?_header hv hc)

/-- A gate with the usual sources asks for its own header first, so that a token there is presented,
whatever else the request carries. -/
theorem presents_of_ofConfig {config : Config} {algorithm : Option Datum}
    (h : ofConfig config algorithm none = .ok g) :
    ∃ name, g.headerName = name.toDatum ∧ ∀ {request token}, request.constrained = true →
      request.value? ⟨.header, name⟩ = some (.text token) → g.Presents request token := by
  obtain ⟨checked, hconfig, h⟩ := bind_eq_ok.1 h
  obtain ⟨found, -, h⟩ := bind_eq_ok.1 h
  obtain ⟨chain, hchain, h⟩ := bind_eq_ok.1 h
  cases h
  obtain ⟨sources, hsources, hchain⟩ := bind_eq_ok.1 hchain
  rw [Option.getD_none, Chain.Names.sources, List.cons_append, List.mapM_cons] at hsources
  -- the configured header is the first of the usual sources
  obtain ⟨first, hfirst, hsources⟩ := bind_eq_ok.1 hsources
  obtain ⟨others, -, hsources⟩ := bind_eq_ok.1 hsources
  cases hsources
  obtain ⟨name, hname, rfl⟩ := map_eq_ok.1 hfirst
  rw [Chain.ofSources, dif_neg (List.cons_ne_nil _ _)] at hchain
  cases hchain
  have hdatum := (PlaceName.toDatum_of_ofDatum hname).symm
  exact ⟨name, hdatum, fun hc hv =>
    ⟨hc, name, [], others, hdatum, rfl, fun s hs => (nomatch hs), hv⟩⟩

/-- A token with a defect is answered as invalid. -/
theorem decision_of_defect {d : Defect} (hc : request.constrained = true)
    (hs : g.chain.search request = (some (.text token), looks))
    (hv : verify g.algorithm g.secret clock (.text token) = .error (.defect d)) :
    (g.process request clock nextId next).decision =
      .ok { state := .rejectedInvalid, refusal := some d.refusal } := by
  rw [process, if_pos hc, hs]
  simp only [judge, checkRaw, check, hv]
  rfl

/-- A request is granted if its token is verified and speaks for an identity. -/
theorem process_of_verify (hc : request.constrained = true)
    (hs : g.chain.search request = (some (.text token), looks))
    (hv : verify g.algorithm g.secret clock (.text token) = .ok v)
    (hi : g.mapping.identity v.claims = .ok identity) :
    g.process request clock nextId next =
      grant g next v identity clock (looks.map .look) nextId := by
  rw [process, if_pos hc, hs]
  simp only [judge, checkRaw, check, hv, hi]

/-- A renewal that works gives the decision its token. -/
theorem decision_of_renewed {r : String} {looks : List Call} (hr : g.renew = true)
    (h : (attemptRenewal g.algorithm g.secret v identity clock nextId).outcome = .ok r) :
    (grant g next v identity clock looks nextId).decision =
      .ok { state := .renewed, identity := some identity, renewedToken := some r,
            result := some (next (some identity)) } := by
  rw [grant, if_pos hr, passRenewing]
  simp only [h]
  rfl

/-- A renewal that fails for a reason of the token leaves the request as it is. -/
theorem decision_of_forgiven {f : Failure} {looks : List Call} (hr : g.renew = true)
    (h : (attemptRenewal g.algorithm g.secret v identity clock nextId).outcome = .error f)
    (hf : forgiven f = true) :
    (grant g next v identity clock looks nextId).decision =
      .ok { state := .authenticated, identity := some identity,
            result := some (next (some identity)) } := by
  rw [grant, if_pos hr, passRenewing]
  simp only [h, if_pos hf]
  rfl

/-- What is known of a request that ends with a renewed token. -/
theorem eq_of_renewed {d : Decision α}
    (hd : (g.process request clock nextId next).decision = .ok d) (hstate : d.state = .renewed) :
    g.renew = true ∧ ∃ presented looks v identity token,
      g.chain.search request = (some (.text presented), looks) ∧
      verify g.algorithm g.secret clock (.text presented) = .ok v ∧
      g.mapping.identity v.claims = .ok identity ∧
      (attemptRenewal g.algorithm g.secret v identity clock nextId).outcome = .ok token ∧
      d = { state := .renewed, identity := some identity, renewedToken := some token,
            result := some (next (some identity)) } := by
  obtain ⟨o, ho, hw⟩ := exists_way g request clock nextId next
  rw [ho] at hd
  -- only one way and one passage on it end with a renewed token
  cases hw with
  | free | missing | defective | nameless =>
    cases hd
    cases hstate
  | failed | unmapped => cases hd
  | @granted token looks v identity o hc hs hv hi hp =>
    cases hp with
    | renewed hr ht =>
      cases hd
      exact ⟨hr, token, looks, v, identity, _, hs, verify_of_check hv, hi,
        congrArg Renewal.outcome ht, rfl⟩
    | unchanged | kept =>
      cases hd
      cases hstate
    | broken => cases hd

/-! ### One step of a session -/

section Step

variable {claims : ClaimSet} {s : Schedule} {second : Int} {tokenId : String} {now : ℚ}
  (hs : Renewable g claims s identity)
  (hsign : sign g.algorithm g.secret (claims.payload ++ s.claims second tokenId) = .ok token)
  (hc : clock.rational? = some now)

include hs hsign hc

/-- A renewed token that is presented too late is expired. -/
theorem decision_of_ended (hp : g.Presents request token) (he : s.Ended second now) :
    (g.process request clock nextId next).decision =
      .ok { state := .rejectedInvalid, refusal := some Defect.expired.refusal } := by
  obtain ⟨looks, hsearch⟩ := hp.search (clean?_signed hsign)
  refine decision_of_defect hp.constrained hsearch ?_
  rw [verify_sign (nodup_names_signed hs.unreserved) (flat_signed hs.floatFree _ _) hsign,
    checkClaims_expired hs.unreserved hc (he.started hs.forward) he]
  rfl

/-- A renewed token that is found in time is taken back to what it was made of. -/
theorem process_of_open (hcon : request.constrained = true)
    (hsearch : g.chain.search request = (some (.text token), looks)) (hstarted : s.Started second now)
    (he : ¬s.Ended second now) : g.process request clock nextId next =
      grant g next ⟨claims.payload ++ s.claims second tokenId, headerOf g.algorithm⟩ identity clock
        (looks.map .look) nextId := by
  have hverify := verify_open hs.unreserved hc hs.floatFree hs.subject hsign hstarted he
  exact process_of_verify hcon hsearch hverify (hs.identity second tokenId)

/-- **One step of a session**: a renewed token that is found in time is renewed again, for the same
identity, if the new times can be written, and otherwise serves as it is. -/
theorem decision_of_open (hcon : request.constrained = true)
    (hsearch : g.chain.search request = (some (.text token), looks)) (hr : g.renew = true)
    (hle : (second : ℚ) ≤ now) (h0 : 0 ≤ now) (he : ¬s.Ended second now) (nextId : Nat)
    (next : Option Identity → α) :
    (s.Printable ⌊now⌋ → ∃ renewed,
      sign g.algorithm g.secret (claims.payload ++ s.claims ⌊now⌋ (id nextId)) = .ok renewed ∧
      (g.process request clock nextId next).decision =
        .ok { state := .renewed, identity := some identity, renewedToken := some renewed,
              result := some (next (some identity)) }) ∧
    (¬s.Printable ⌊now⌋ →
      (g.process request clock nextId next).decision =
        .ok { state := .authenticated, identity := some identity,
              result := some (next (some identity)) }) := by
  have hattempt := hs.attemptRenewal_signed second tokenId (headerOf g.algorithm) hc h0 nextId
  rw [process_of_open hs hsign hc hcon hsearch (hs.forward.started hle) he]
  refine ⟨fun hw => ?_, fun hw => ?_⟩
  · obtain ⟨renewed, hrenewed⟩ := hs.sign_of_printable (id nextId) hw
    exact ⟨renewed, hrenewed, decision_of_renewed hr (hattempt.trans hrenewed)⟩
  · have hfails := hs.sign_of_not_printable (id nextId) hw
    exact decision_of_forgiven hr (hattempt.trans hfails) rfl

end Step

/-! ### Sessions -/

/-- Requests to a gate, one after the other: what each carries, the clock and the free id number that
the gate finds, and the next stage. -/
structure Visits (α : Type) where
  request : ℕ → Request
  clock : ℕ → Number
  idNumber : ℕ → ℕ
  next : ℕ → Option Identity → α

namespace Visits

/-- The decision on a visit. -/
def decision (run : Visits α) (g : Gate) (j : ℕ) : Except Failure (Decision α) :=
  (g.process (run.request j) (run.clock j) (run.idNumber j) (run.next j)).decision

/-- Up to the last visit, each one after the first presents the token that the one before was given.
-/
def Follows (run : Visits α) (g : Gate) (last : ℕ) : Prop :=
  ∀ j < last, ∀ d token, run.decision g j = .ok d → d.renewedToken = some token →
    g.Presents (run.request (j + 1)) token

/-- Up to the last visit, the clocks stand at the given times, which start from zero on and do not
decrease. -/
structure Times (run : Visits α) (time : ℕ → ℚ) (last : ℕ) : Prop where
  clock : ∀ j ≤ last, (run.clock j).rational? = some (time j)
  start : 0 ≤ time 0
  mono : ∀ j < last, time j ≤ time (j + 1)

theorem Times.nonneg {run : Visits α} {time : ℕ → ℚ} {last : ℕ} (h : run.Times time last) {j : ℕ}
    (hj : j ≤ last) : 0 ≤ time j := by
  induction j with
  | zero => exact h.start
  | succ j ih => exact le_trans (ih (Nat.le_of_succ_le hj)) (h.mono j hj)

theorem Times.floor_le {run : Visits α} {time : ℕ → ℚ} {last : ℕ} (h : run.Times time last) {j : ℕ}
    (hj : j < last) : (⌊time j⌋ : ℚ) ≤ time (j + 1) :=
  le_trans (Int.floor_le _) (h.mono j hj)

end Visits

/-- The next visit comes before a token expires that was renewed on this one with the lifetime of the
given token. -/
def InTime (v : Verified) (time : ℕ → ℚ) (j : ℕ) : Prop :=
  ∀ n, v.lifetime? = some n → time (j + 1) < ((⌊time j⌋ + n : Int) : ℚ)

/-- The seconds of a token can be written that is renewed on this visit with the durations of the
given token. -/
def Writable (v : Verified) (time : ℕ → ℚ) (j : ℕ) : Prop := v.schedule.Printable ⌊time j⌋

/-- The request passes with a renewed token, which carries the given claims and the durations of the
given token, counted from a second. -/
def RenewedWith (decision : Except Failure (Decision α)) (identity : Identity)
    (application : Record Datum) (v : Verified) (second : Int) : Prop :=
  ∃ d token claims, decision = .ok d ∧ d.state = .renewed ∧ d.identity = some identity ∧
    d.renewedToken = some token ∧ Carries token claims ∧
    applicationClaims claims = application ∧
    claims.get? Claim.issuedAt = some (.int second) ∧
    claims.get? Claim.expires = v.lifetime?.map (fun n => .int (second + n)) ∧
    claims.get? Claim.notBefore = v.leeway?.map (fun n => .int (second - n))

theorem not_ended_of_inTime {time : ℕ → ℚ} {j : ℕ} (h : InTime v time j) :
    ¬v.schedule.Ended ⌊time j⌋ (time (j + 1)) := by
  rintro ⟨n, hn, hle⟩
  exact absurd (h n hn) (not_lt.2 hle)

theorem ended_of_not_inTime {time : ℕ → ℚ} {j : ℕ} (h : ¬InTime v time j) :
    v.schedule.Ended ⌊time j⌋ (time (j + 1)) := by
  obtain ⟨n, hn⟩ := Classical.not_forall.1 h
  obtain ⟨hlife, hlt⟩ := Classical.not_imp.1 hn
  exact ⟨n, hlife, not_lt.1 hlt⟩

/-- The visit ends with a token that has these claims and is on this schedule, from the second of the
visit: what every visit of a session keeps up. -/
def Visits.Renews (run : Visits α) (g : Gate) (claims : ClaimSet) (s : Schedule)
    (identity : Identity) (time : ℕ → ℚ) (j : ℕ) : Prop :=
  ∃ token,
    sign g.algorithm g.secret (claims.payload ++ s.claims ⌊time j⌋ (id (run.idNumber j))) =
      .ok token ∧
    run.decision g j =
      .ok { state := .renewed, identity := some identity, renewedToken := some token,
            result := some (run.next j (some identity)) }

section Run

variable {run : Visits α} {time : ℕ → ℚ} {last : ℕ} {claims : ClaimSet} {j : ℕ}
  (hs : Renewable g claims v.schedule identity)

include hs

/-- What the token of such a visit carries. -/
theorem Visits.Renews.renewedWith (h : run.Renews g claims v.schedule identity time j) :
    RenewedWith (run.decision g j) identity claims.payload v ⌊time j⌋ := by
  obtain ⟨token, hsign, hd⟩ := h
  refine ⟨_, token, _, hd, rfl, rfl, rfl,
    carries_sign (nodup_names_signed hs.unreserved) (flat_signed hs.floatFree _ _) hsign,
    applicationClaims_signed hs.unreserved, ?_, ?_, ?_⟩
  · rw [get?_signed hs.unreserved (by decide), Schedule.get?_claims_issuedAt, hs.issuedAt]
    rfl
  · rw [get?_signed hs.unreserved (by decide), Schedule.get?_claims_expires]
    rfl
  · rw [get?_signed hs.unreserved (by decide), Schedule.get?_claims_notBefore]
    rfl

variable (htimes : run.Times time last) (hfollows : run.Follows g last) (hj : j < last)
  (h : run.Renews g claims v.schedule identity time j)

include htimes hfollows hj h

/-- **A session ends** with a visit that is too late. -/
theorem Visits.Renews.rejected (hlate : ¬InTime v time j) :
    run.decision g (j + 1) =
      .ok { state := .rejectedInvalid, refusal := some Defect.expired.refusal } := by
  obtain ⟨token, hsign, hd⟩ := h
  have hpresents := hfollows j hj _ token hd rfl
  exact decision_of_ended hs hsign (htimes.clock (j + 1) hj) hpresents (ended_of_not_inTime hlate)

variable (hr : g.renew = true) (hin : InTime v time j)

include hr hin

/-- **A session goes on** with a visit that is in time, if its seconds can be written; otherwise the
visit passes without a new token. -/
theorem Visits.Renews.step :
    (Writable v time (j + 1) → run.Renews g claims v.schedule identity time (j + 1)) ∧
    (¬Writable v time (j + 1) →
      run.decision g (j + 1) =
        .ok { state := .authenticated, identity := some identity,
              result := some (run.next (j + 1) (some identity)) }) := by
  obtain ⟨token, hsign, hd⟩ := h
  have hpresents := hfollows j hj _ token hd rfl
  have hopen := not_ended_of_inTime hin
  obtain ⟨looks, hsearch⟩ := hpresents.search (clean?_signed hsign)
  exact decision_of_open hs hsign (htimes.clock (j + 1) hj) hpresents.constrained hsearch hr
    (htimes.floor_le hj) (htimes.nonneg hj) hopen _ _

omit hj h hin

/-- A whole session, while every visit is in time and its seconds can be written. -/
theorem renews_of_inTime (h : run.Renews g claims v.schedule identity time 0) (hj : j ≤ last)
    (hin : ∀ l < j, InTime v time l) (hw : ∀ l ≤ j, Writable v time l) :
    run.Renews g claims v.schedule identity time j := by
  induction j with
  | zero => exact h
  | succ j ih =>
    have hbefore : run.Renews g claims v.schedule identity time j := by
      apply ih (Nat.le_of_succ_le hj)
      · intro l hl
        exact hin l (Nat.lt_succ_of_lt hl)
      · intro l hl
        exact hw l (Nat.le_succ_of_le hl)
    have hstep := hbefore.step hs htimes hfollows hj hr (hin j (Nat.lt_succ_self j))
    exact hstep.1 (hw (j + 1) le_rfl)

end Run

/-- **Sessions slide.**  After a visit that ends with a renewed token, every visit that is in time is
renewed for the same identity, with the same claims in the same order and the same durations from its
own second, as long as that second and those of its token can be written; where they cannot, the
visit passes without a new token.  The first visit that is too late is rejected for an expired token.
-/
theorem session_slides {run : Visits α} {time : ℕ → ℚ} {last : ℕ} {d : Decision α}
    (hm : g.mapping.Steady) (htimes : run.Times time last) (hfirst : run.decision g 0 = .ok d)
    (hrenewed : d.state = .renewed) (hidentity : d.identity = some identity)
    (hpresented : (g.chain.search (run.request 0)).1 = some (.text presented))
    (hv : verify g.algorithm g.secret (run.clock 0) (.text presented) = .ok v)
    (hfloat : ∀ e ∈ applicationClaims v.claims, ∀ x, e.2 ≠ .float x)
    (hfollows : run.Follows g last) :
    Writable v time 0 ∧ ∃ application, ∀ j ≤ last,
      (∀ l < j, InTime v time l) → (∀ l < j, Writable v time l) →
        (Writable v time j →
          RenewedWith (run.decision g j) identity application v ⌊time j⌋) ∧
        (¬Writable v time j → ∃ d, run.decision g j = .ok d ∧ d.state = .authenticated ∧
          d.identity = some identity) ∧
        (Writable v time j → j < last → ¬InTime v time j →
          ∃ d r, run.decision g (j + 1) = .ok d ∧ d.state = .rejectedInvalid ∧
            d.refusal = some r ∧ r.kind = .expired) := by
  obtain ⟨hr, presented', looks, v', identity', token, hsearch, hv', hi, hattempt, rfl⟩ :=
    eq_of_renewed hfirst hrenewed
  obtain rfl : presented' = presented := by
    rw [hsearch] at hpresented
    exact RawText.text.inj (Option.some.inj hpresented)
  obtain rfl : v' = v := Except.ok.inj (hv'.symm.trans hv)
  obtain rfl : identity' = identity := Option.some.inj hidentity
  -- the first visit gives the claims, and the schedule is that of the token presented there
  obtain ⟨claims, hs, hsign⟩ := renewable_of_renewed hv hm hi hfloat
    (htimes.clock 0 (Nat.zero_le last)) htimes.start hattempt
  have hwritable : Writable v' time 0 := by
    obtain ⟨-, ho, -⟩ := sign_eq_ok hsign
    rw [Datum.oversized_dict_eq_false_iff] at ho
    exact Schedule.printable_iff.1 fun e he => ho e (List.mem_append_right _ he)
  have hzero : run.Renews g claims v'.schedule identity' time 0 := ⟨token, hsign, hfirst⟩
  refine ⟨hwritable, claims.payload, fun j hj hin hw => ?_⟩
  have hrenews : Writable v' time j → run.Renews g claims v'.schedule identity' time j := by
    intro hwj
    apply renews_of_inTime hs htimes hfollows hr hzero hj hin
    intro l hl
    rcases Nat.lt_or_eq_of_le hl with hl | rfl
    · exact hw l hl
    · exact hwj
  refine ⟨fun hwj => (hrenews hwj).renewedWith hs, fun hwj => ?_, fun hwj hj hlate => ?_⟩
  -- the first visit can be written, so it is a later one that cannot
  · rcases j with - | j
    · exact absurd hwritable hwj
    · have hbefore : run.Renews g claims v'.schedule identity' time j := by
        apply renews_of_inTime hs htimes hfollows hr hzero (Nat.le_of_succ_le hj)
        · intro l hl
          exact hin l (Nat.lt_succ_of_lt hl)
        · intro l hl
          exact hw l (Nat.lt_succ_of_le hl)
      have hstep := hbefore.step hs htimes hfollows hj hr (hin j (Nat.lt_succ_self j))
      exact ⟨_, hstep.2 hwj, rfl, rfl⟩
  · exact ⟨_, _, (hrenews hwj).rejected hs htimes hfollows hj hlate, rfl, rfl, rfl⟩

/-! ### A client that sends back what it is given -/

/-- A guarded request with a token in the usual header. -/
def carrying (token : String) : Request :=
  ⟨true, fun l => if l = ⟨.header, .text Source.defaultHeader⟩ then some token else none⟩

/-- A gate that renews tokens, with the first two of the usual sources. -/
def usualGate : Gate where
  secret := .text "k"
  algorithm := .hs256
  renew := true
  mapping := {}
  headerName := .text Source.defaultHeader
  chain := ⟨[.header (.text Source.defaultHeader), .bearer], List.cons_ne_nil _ _⟩

/-- The token that the client holds before each visit. -/
def held (first : String) (clock : ℕ → Number) : ℕ → String
  | 0 => first
  | j + 1 =>
    match (usualGate.process (carrying (held first clock j)) (clock j) 0 fun _ => ()).decision with
    | .ok d => d.renewedToken.getD ""
    | .error _ => ""

/-- The client's visits. -/
def visits (first : String) (clock : ℕ → Number) : Visits Unit where
  request j := carrying (held first clock j)
  clock := clock
  idNumber _ := 0
  next _ _ := ()

theorem presents_carrying (token : String) : usualGate.Presents (carrying token) token :=
  ⟨rfl, .text Source.defaultHeader, [], [.bearer], rfl, rfl, fun _ hs => (nomatch hs), rfl⟩

theorem follows_visits (first : String) (clock : ℕ → Number) (last : ℕ) :
    (visits first clock).Follows usualGate last := by
  intro j hj d token hd ht
  have hheld : held first clock (j + 1) = token := by
    change (usualGate.process (carrying (held first clock j)) (clock j) 0 fun _ => ()).decision =
      .ok d at hd
    rw [held, hd]
    dsimp only
    rw [ht, Option.getD_some]
  change usualGate.Presents (carrying (held first clock (j + 1))) token
  rw [hheld]
  exact presents_carrying token

theorem steady_default : Identity.Mapping.Steady {} := by
  refine ⟨?_, ?_, fun h => absurd (Datum.text.inj h) (by decide)⟩
  · rintro name hname ⟨⟩
    exact absurd hname (by decide)
  · rintro name hname ⟨⟩
    exact absurd hname (by decide)

/-- Whom the guest's claims speak for. -/
def guest : Identity := ⟨"guest", ["reader"]⟩

/-- The guest's claims can be renewed on any schedule. -/
theorem renewable_guestClaims {s : Schedule} (hi : s.issuedAt = true) (hs : s.Forward) :
    Renewable usualGate guestClaims s guest where
  issuedAt := hi
  forward := hs
  floatFree := floatFree_guestClaims
  unreserved := unreserved_guestClaims
  subject := subjectFits_guestClaims
  userId := rfl
  roles := rfl
  issuer := rfl
  printable := List.forall_mem_cons.2 ⟨rfl, List.forall_mem_singleton.2 rfl⟩
  key := ⟨_, accept_letter⟩
  secret := rfl
  identity := fun _ _ => rfl

/-- A client that comes at second zero with a token of that second starts a session. -/
theorem exists_session {s : Schedule} (clock : ℕ → Number) (hi : s.issuedAt = true)
    (hs : s.Forward) (hw : s.Printable 0) (hopen : ∀ n, s.expiry = some n → 0 < n)
    (h0 : clock 0 = .int 0) : ∃ first v token,
      v.schedule = s ∧ (usualGate.chain.search (carrying first)).1 = some (.text first) ∧
      verify usualGate.algorithm usualGate.secret (clock 0) (.text first) = .ok v ∧
      (∀ e ∈ applicationClaims v.claims, ∀ x, e.2 ≠ .float x) ∧
      sign usualGate.algorithm usualGate.secret (guestClaims.payload ++ s.claims 0 (id 0)) =
        .ok token ∧
      (visits first clock).decision usualGate 0 =
        .ok { state := .renewed, identity := some guest, renewedToken := some token,
              result := some () } := by
  have hrenewable := renewable_guestClaims hi hs
  obtain ⟨first, hsign⟩ := hrenewable.sign_of_printable (id 0) hw
  have hnow : (clock 0).rational? = some ((0 : Int) : ℚ) := by
    rw [h0]
    rfl
  have hended : ¬s.Ended 0 ((0 : Int) : ℚ) := by
    rintro ⟨n, hn, hle⟩
    have hn0 := hopen n hn
    have hle' : 0 + n ≤ 0 := by exact_mod_cast hle
    omega
  have hverify : verify usualGate.algorithm usualGate.secret (clock 0) (.text first) =
      .ok ⟨guestClaims.payload ++ s.claims 0 (id 0), headerOf .hs256⟩ :=
    verify_open unreserved_guestClaims hnow floatFree_guestClaims subjectFits_guestClaims hsign
      (hs.started le_rfl) hended
  have hfloat : ∀ e ∈ applicationClaims (guestClaims.payload ++ s.claims 0 (id 0)), ∀ x,
      e.2 ≠ .float x := by
    rw [applicationClaims_signed unreserved_guestClaims]
    refine List.forall_mem_cons.2 ⟨?_, List.forall_mem_singleton.2 ?_⟩ <;> rintro x ⟨⟩
  obtain ⟨looks, hsearch⟩ := (presents_carrying first).search (clean?_signed hsign)
  have hfloor : ⌊((0 : Int) : ℚ)⌋ = 0 := Int.floor_intCast 0
  obtain ⟨token, htoken, hd⟩ := (decision_of_open hrenewable hsign hnow rfl hsearch rfl le_rfl
    (by norm_num) hended 0 fun _ => ()).1 (by rw [hfloor]; exact hw)
  rw [hfloor] at htoken
  exact ⟨first, _, token, schedule_signed unreserved_guestClaims hi, congrArg Prod.fst hsearch,
    hverify, hfloat, htoken, hd⟩

theorem times_visits {first : String} {clock : ℕ → Number} {second : ℕ → Int} {last : ℕ}
    (hc : ∀ j, clock j = .int (second j)) (h0 : 0 ≤ second 0)
    (hmono : ∀ j, second j ≤ second (j + 1)) :
    (visits first clock).Times (fun j => (second j : ℚ)) last where
  clock j _ := congrArg Number.rational? (hc j)
  start := by exact_mod_cast h0
  mono j _ := by exact_mod_cast hmono j

/-- Four visits, a second apart, and one that is late. -/
def lateSecond (j : ℕ) : Int := if j < 4 then j else 20

theorem lateSecond_mono (j : ℕ) : lateSecond j ≤ lateSecond (j + 1) := by
  unfold lateSecond
  split <;> split <;> omega

theorem printable_tenSeconds {second : Int} (h0 : 0 ≤ second) (h : second ≤ 20) :
    tenSeconds.Printable second := by
  refine ⟨fun _ => ?_, ?_, ?_⟩
  · exact Datum.unprintable_of_lt (by omega)
  · rintro n ⟨⟩
    exact Datum.unprintable_of_lt (by omega)
  · rintro n ⟨⟩

/-- With tokens for ten seconds, the first four visits are renewed and the late one is rejected. -/
theorem session_slides_guest : ∃ first v application,
    (∀ j < 4, RenewedWith ((visits first fun j => .int (lateSecond j)).decision usualGate j) guest
      application v j) ∧
    ∃ d r, (visits first fun j => .int (lateSecond j)).decision usualGate 4 = .ok d ∧
      d.state = .rejectedInvalid ∧ d.refusal = some r ∧ r.kind = .expired := by
  have hsecond : ∀ j < 4, lateSecond j = j := fun j hj => if_pos hj
  have hprintable : ∀ j < 4, tenSeconds.Printable (lateSecond j) := fun j hj => by
    rw [hsecond j hj]
    exact printable_tenSeconds (by omega) (by omega)
  have hopen : ∀ n, tenSeconds.expiry = some n → 0 < n := by
    rintro n ⟨⟩
    decide
  obtain ⟨first, v, token, hv, hsearch, hverify, hfloat, -, hd⟩ :=
    exists_session (fun j => .int (lateSecond j)) rfl forward_tenSeconds
      (hprintable 0 (by decide)) hopen rfl
  have hlife : v.lifetime? = some 10 := congrArg Schedule.expiry hv
  obtain ⟨-, application, hslides⟩ := session_slides steady_default
    (times_visits (fun _ => rfl) (by decide) lateSecond_mono) hd rfl rfl hsearch hverify hfloat
    (follows_visits first _ 4)
  have hwritable : ∀ j < 4, Writable v (fun j => (lateSecond j : ℚ)) j := by
    intro j hj
    rw [Writable, hv, Int.floor_intCast]
    exact hprintable j hj
  have hin : ∀ j < 3, InTime v (fun j => (lateSecond j : ℚ)) j := by
    intro j hj n hn
    rw [hlife] at hn
    cases hn
    rw [Int.floor_intCast]
    have hlt : lateSecond (j + 1) < lateSecond j + 10 := by
      rw [hsecond j (by omega), hsecond (j + 1) (by omega)]
      omega
    exact Int.cast_lt.2 hlt
  have hlate : ¬InTime v (fun j => (lateSecond j : ℚ)) 3 := by
    intro h
    have hlt := h 10 hlife
    rw [Int.floor_intCast] at hlt
    exact absurd (Int.cast_lt.1 hlt) (by decide)
  refine ⟨first, v, application, fun j hj => ?_, ?_⟩
  · have hstep := hslides j (Nat.le_of_lt hj) (fun l hl => hin l (by omega))
      (fun l hl => hwritable l (by omega))
    have hrenewed := hstep.1 (hwritable j hj)
    rwa [Int.floor_intCast, hsecond j hj] at hrenewed
  · have hstep := hslides 3 (by decide) (fun l hl => hin l hl) (fun l hl => hwritable l (by omega))
    exact hstep.2.2 (hwritable 3 (by decide)) (by decide) hlate

/-! ### Where a session stops -/

/-- The least number that is too long to be written. -/
@[irreducible] def tooLong : ℕ := Nat.pow 10 Datum.digitLimit

theorem ten_le_tooLong : 10 ≤ tooLong := by
  have hlimit : Datum.digitLimit ≠ 0 := by decide
  unfold tooLong
  generalize Datum.digitLimit = limit at hlimit
  exact Nat.le_self_pow hlimit 10

theorem unprintable_eq_false_iff {n : Int} : Datum.unprintable n = false ↔ n.natAbs < tooLong := by
  unfold Datum.unprintable tooLong
  generalize Nat.pow 10 Datum.digitLimit = limit
  rw [decide_eq_false_iff_not, Nat.not_le]

/-- The longest lifetime that can be written from second zero on. -/
def longest : Schedule := ⟨true, some (tooLong - 1), none, false⟩

theorem forward_longest : longest.Forward := by
  have hlong := ten_le_tooLong
  refine ⟨?_, ?_⟩ <;> rintro n ⟨⟩
  omega

theorem printable_longest : longest.Printable 0 := by
  have hlong := ten_le_tooLong
  refine ⟨fun _ => ?_, ?_, ?_⟩
  · rw [unprintable_eq_false_iff]
    omega
  · rintro n ⟨⟩
    rw [unprintable_eq_false_iff]
    omega
  · rintro n ⟨⟩

theorem not_printable_longest : ¬longest.Printable 1 := by
  intro h
  have hexpiry := h.2.1 _ rfl
  rw [unprintable_eq_false_iff] at hexpiry
  omega

/-- **A session can stop before its time is over**: a second after the longest lifetime that could be
written, the expiry of the next token has a digit too many, and the visit passes without one. -/
theorem session_stops_at_unprintable : ∃ first d v,
    usualGate.mapping.Steady ∧ (visits first fun j => .int j).Times (fun j => ((j : Int) : ℚ)) 1 ∧
      (visits first fun j => .int j).decision usualGate 0 = .ok d ∧ d.state = .renewed ∧
      d.identity = some guest ∧ (usualGate.chain.search (carrying first)).1 = some (.text first) ∧
      verify usualGate.algorithm usualGate.secret (.int 0) (.text first) = .ok v ∧
      (∀ e ∈ applicationClaims v.claims, ∀ x, e.2 ≠ .float x) ∧
      (visits first fun j => .int j).Follows usualGate 1 ∧
      InTime v (fun j => ((j : Int) : ℚ)) 0 ∧
      ∃ d, (visits first fun j => .int j).decision usualGate 1 = .ok d ∧
        d.state = .authenticated := by
  have hlong := ten_le_tooLong
  have hopen : ∀ n, longest.expiry = some n → 0 < n := by
    rintro n ⟨⟩
    omega
  obtain ⟨first, v, token, hv, hsearch, hverify, hfloat, hsign, hd⟩ :=
    exists_session (fun j => .int j) rfl forward_longest printable_longest hopen rfl
  have hin : InTime v (fun j => ((j : Int) : ℚ)) 0 := by
    intro n hn
    have hn' : longest.expiry = some n := (congrArg Schedule.expiry hv).symm.trans hn
    cases hn'
    have hlt : (1 : Int) < 0 + (tooLong - 1) := by omega
    rw [Int.floor_intCast]
    exact Int.cast_lt.2 hlt
  have hnot : ¬Writable v (fun j => ((j : Int) : ℚ)) 1 := by
    rw [Writable, hv, Int.floor_intCast]
    exact not_printable_longest
  have hs : Renewable usualGate guestClaims v.schedule guest := by
    rw [hv]
    exact renewable_guestClaims rfl forward_longest
  have htimes : (visits first fun j => .int j).Times (fun j => ((j : Int) : ℚ)) 1 :=
    times_visits (fun _ => rfl) le_rfl fun j => by omega
  have hrenews : (visits first fun j => .int j).Renews usualGate guestClaims v.schedule guest
      (fun j => ((j : Int) : ℚ)) 0 := by
    refine ⟨token, ?_, hd⟩
    rw [hv, Int.floor_intCast]
    exact hsign
  have hstep := hrenews.step hs htimes (follows_visits first _ 1) Nat.zero_lt_one rfl hin
  exact ⟨first, _, v, steady_default, htimes, hd, rfl, rfl, hsearch, hverify, hfloat,
    follows_visits first _ 1, hin, _, hstep.2 hnot, rfl⟩

end Gate

end TokenGate
