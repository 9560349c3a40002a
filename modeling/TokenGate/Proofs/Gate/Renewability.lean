/-
Which tokens are renewed.

A gate that renews tokens does so for every verified token that is `Reissuable`, and for no other.
The conditions are those of the claims alone: a second of issue, claims that can be written again, an
issuer that is a text, a first second that does not come after that of issue, and times that are not
too long to be written.  `process_renewed_iff` is the main result.  It says what a request passes with
whose token is renewed (`Gate.PassesRenewed`), and that every other one passes as if renewal had not been
tried, but for one warning (`Gate.PassesUnrenewed`).

* `exists_attemptRenewal_iff` puts the conditions of the stages together: making up the claims
  (`ClaimSet.exists_ofRecord_iff`), using the schedule (`validate_schedule`) and signing
  (`exists_sign_iff`).
* `Verified.reissuable_iff_anonymous` says that the identity plays no part in it.  What the token has
  of it has to be writable like every other claim, and what it lacks is filled in.

The expiry needs no condition, as a verified token expires after it was issued.
-/
import TokenGate.Proofs.Gate.Transparency

namespace TokenGate

open Token

/-! ### Values that can be written again -/

namespace Datum

/-- Of the values of documents, claims have these. -/
theorem simple_iff {d : Datum} (h : Json.Plain d) :
    d.Simple ↔ ∃ w, ClaimValue.ofDatum? d = some w := by
  constructor
  · rintro ((b | n | s | ss) | ⟨x, rfl⟩)
    · exact ⟨_, rfl⟩
    · exact ⟨_, rfl⟩
    · exact ⟨_, rfl⟩
    · exact ⟨.texts ss, by rw [ClaimValue.ofDatum?, ClaimValue.mapM_text?_texts]; rfl⟩
    · exact ⟨_, rfl⟩
  · rintro ⟨w, hw⟩
    cases h with
    | null => cases hw
    | bool b => exact .inl (.bool b)
    | int n => exact .inl (.int n)
    | float x => exact .inr ⟨x, rfl⟩
    | text s => exact .inl (.text s)
    | list hitems =>
      obtain ⟨ss, hss, -⟩ := Option.map_eq_some_iff.1 hw
      rw [ClaimValue.map_text_of_mapM hss]
      exact .inl (.texts ss)
    | dict => cases hw

end Datum

/-! ### Signing -/

namespace Token

variable {algorithm : Algorithm} {secret : Datum} {payload : Record Datum} {key : List UInt8}

/-- Under a key, a payload can be signed if its issuer is a text and its integers can be written. -/
theorem exists_sign_iff (hk : Key.accept secret = .ok key) :
    (∃ token, sign algorithm secret payload = .ok token) ↔
      issuerFits payload = true ∧ ∀ e ∈ payload, e.2.oversized = false := by
  rw [← Datum.oversized_dict_eq_false_iff]
  constructor
  · rintro ⟨token, h⟩
    obtain ⟨hi, ho, -⟩ := sign_eq_ok h
    exact ⟨hi, ho⟩
  · rintro ⟨hi, ho⟩
    exact ⟨_, sign_of_fits hi ho hk⟩

end Token

/-! ### Tokens that can be issued again -/

namespace Verified

/-- A token that can be issued again at a second. -/
structure Reissuable (v : Verified) (second : Int) : Prop where
  issuedAt : ∃ d, v.given? Claim.issuedAt = some d
  claims : ∀ e ∈ v.claims, e.1 ∉ Claim.reserved → e.2 ≠ .null → e.1 ≠ "" ∧ e.2.Simple
  issuer : ∀ d, v.given? Claim.issuer = some d → ∃ text, d = .text text
  order : ∀ start issued, v.second? Claim.notBefore = some start →
    v.second? Claim.issuedAt = some issued → start ≤ issued
  expiry : ∀ n, v.lifetime? = some n → Datum.unprintable (second + n) = false
  leeway : ∀ n, v.leeway? = some n → Datum.unprintable (second - n) = false

variable {v : Verified} {second : Int}

/-- The order of the two seconds is that the leeway is not negative. -/
theorem order_iff : (∀ start issued, v.second? Claim.notBefore = some start →
      v.second? Claim.issuedAt = some issued → start ≤ issued) ↔
    ∀ n, v.leeway? = some n → 0 ≤ n := by
  constructor
  · intro h n hn
    obtain ⟨issued, hi, hn⟩ := Option.bind_eq_some_iff.1 hn
    obtain ⟨start, hs, rfl⟩ := Option.map_eq_some_iff.1 hn
    have hle := h start issued hs hi
    omega
  · intro h start issued hs hi
    have hleeway : v.leeway? = some (issued - start) := by rw [leeway?, hi, hs]; rfl
    have hnonneg := h _ hleeway
    omega

theorem mem_applicationClaims {r : Record Datum} {e : String × Datum} :
    e ∈ applicationClaims r ↔ e ∈ r ∧ e.1 ∉ Claim.reserved := by
  rw [applicationClaims, List.mem_filter, Bool.not_eq_true', List.contains_eq_mem,
    decide_eq_false_iff_not]

/-! ### The identity plays no part -/

/-- The names under which a token usually carries an identity. -/
def identityNames : List String := [Claim.userId, Claim.roles]

/-- The token without an identity under the usual names. -/
def anonymous (v : Verified) : Verified :=
  { v with claims := v.claims.filter fun e => !identityNames.contains e.1 }

theorem get?_anonymous {name : String} (h : name ∉ identityNames) :
    v.anonymous.claims.get? name = v.claims.get? name := by
  have hfilter := Record.get?_filter (fun name => !identityNames.contains name) v.claims name
  rwa [if_pos (by simpa using h)] at hfilter

theorem given?_anonymous {name : String} (h : name ∉ identityNames) :
    v.anonymous.given? name = v.given? name := by
  rw [given?, given?, get?_anonymous h]

theorem second?_anonymous {name : String} (h : name ∉ identityNames) :
    v.anonymous.second? name = v.second? name := by
  rw [second?, second?, get?_anonymous h]

theorem lifetime?_anonymous : v.anonymous.lifetime? = v.lifetime? := by
  rw [lifetime?, lifetime?, second?_anonymous (by decide), second?_anonymous (by decide)]

theorem leeway?_anonymous : v.anonymous.leeway? = v.leeway? := by
  rw [leeway?, leeway?, second?_anonymous (by decide), second?_anonymous (by decide)]

/-- **An identity that a token carries plays no part in whether it can be issued again**, but for
being simple like every other claim. -/
theorem reissuable_iff_anonymous : v.Reissuable second ↔ v.anonymous.Reissuable second ∧
    ∀ e ∈ v.claims, e.1 ∈ identityNames → e.2 ≠ .null → e.2.Simple := by
  have hnames : ∀ name ∈ identityNames, name ∉ Claim.reserved ∧ name ≠ "" := by decide
  constructor
  · rintro ⟨hi, hclaims, hissuer, horder, hexpiry, hleeway⟩
    refine ⟨⟨?_, fun e he => hclaims e (List.mem_filter.1 he).1, ?_, ?_, ?_, ?_⟩,
      fun e he hname hne => (hclaims e he (hnames _ hname).1 hne).2⟩
    · rwa [given?_anonymous (by decide)]
    · rwa [given?_anonymous (by decide)]
    · rwa [second?_anonymous (by decide), second?_anonymous (by decide)]
    · rwa [lifetime?_anonymous]
    · rwa [leeway?_anonymous]
  · rintro ⟨⟨hi, hclaims, hissuer, horder, hexpiry, hleeway⟩, hidentity⟩
    rw [given?_anonymous (by decide)] at hi hissuer
    rw [second?_anonymous (by decide), second?_anonymous (by decide)] at horder
    rw [lifetime?_anonymous] at hexpiry
    rw [leeway?_anonymous] at hleeway
    refine ⟨hi, fun e he hname hne => ?_, hissuer, horder, hexpiry, hleeway⟩
    by_cases hmem : e.1 ∈ identityNames
    · exact ⟨(hnames _ hmem).2, hidentity e he hmem hne⟩
    · exact hclaims e (List.mem_filter.2 ⟨he, by simpa using hmem⟩) hname hne

end Verified

namespace Gate

/-! ### Renewals that work -/

variable {algorithm : Algorithm} {secret token : Datum} {v : Verified} {identity : Identity}
  {clock : Number} {nextId : Nat} {second : Int} {d : Datum} {claims : ClaimSet}

section Checked

variable (h : Checked clock v.claims)

include h

/-- The claims of a checked token make up a set exactly if each of them can be written again. -/
theorem exists_claims_iff : (∃ claims, ClaimSet.ofRecord (applicationClaims v.claims) = .ok claims) ↔
    ∀ e ∈ v.claims, e.1 ∉ Claim.reserved → e.2 ≠ .null → e.1 ≠ "" ∧ e.2.Simple := by
  rw [ClaimSet.exists_ofRecord_iff]
  constructor
  · intro hall e he hname hne
    obtain ⟨hempty, hvalue⟩ := hall e (Verified.mem_applicationClaims.2 ⟨he, hname⟩) hne
    exact ⟨hempty, (Datum.simple_iff (h.plain_of_mem e he)).2 hvalue⟩
  · intro hall e he hne
    obtain ⟨he, hname⟩ := Verified.mem_applicationClaims.1 he
    obtain ⟨hempty, hvalue⟩ := hall e he hname hne
    exact ⟨hempty, (Datum.simple_iff (h.plain_of_mem e he)).1 hvalue⟩

variable (hc : ClaimSet.ofRecord (applicationClaims v.claims) = .ok claims)

include hc

/-- The issuer of the claims that are signed is that of the token. -/
theorem get?_identified_issuer :
    (claims.identified identity).payload.get? Claim.issuer = v.given? Claim.issuer := by
  have hfill := fillInIdentity_eq_ok identity ⟨.hs256, .null, claims, {}⟩
  rcases hi : v.given? Claim.issuer with - | d
  · refine (get?_filled_of_absent h.plain hc rfl hfill (by decide) fun d hd => ?_).trans rfl
    by_contra hne
    cases hi.symm.trans (Verified.given?_of_get? hd hne)
  · refine get?_filled_of_given h.plain hc rfl hfill (by decide) (Verified.get?_of_given hi) ?_
    rintro rfl
    rw [Verified.given?, Verified.get?_of_given hi] at hi
    cases hi

/-- No integer among the claims that are signed is too long to be written. -/
theorem printable_identified : ∀ e ∈ (claims.identified identity).payload, e.2.oversized = false := by
  have hfill := fillInIdentity_eq_ok identity ⟨.hs256, .null, claims, {}⟩
  intro e he
  obtain ⟨⟨name, value⟩, hentry, rfl⟩ := List.mem_map.1 he
  have hget : (claims.identified identity).get? name = some value :=
    (Record.get?_eq_some_iff (claims.identified identity).distinct).2 hentry
  -- a claim of the token was read from it, and what is filled in is made of texts
  rcases given_of_filled h.plain hc rfl hfill hget with ⟨d, hd, hv⟩ | ⟨-, rfl⟩ | ⟨-, rfl⟩
  · obtain ⟨hmem, -⟩ := Verified.mem_applicationClaims.1 (Record.mem_of_get? hd)
    change value.payload.oversized = false
    rw [ClaimValue.payload_of_ofDatum? (h.plain_of_mem _ hmem) hv]
    exact h.printable _ hmem
  · rfl
  · refine Datum.oversized_list_eq_false_iff.2 fun d hd => ?_
    obtain ⟨role, -, rfl⟩ := List.mem_map.1 hd
    rfl

end Checked

/-- A renewed token has the claims of the one that was renewed, with the identity, on its schedule from
the second of the clock on. -/
theorem signed_of_attemptRenewal (hv : verify algorithm secret clock token = .ok v)
    (hs : Token.second clock = .ok second) {renewed : String}
    (ht : (attemptRenewal algorithm secret v identity clock nextId).outcome = .ok renewed) :
    (∃ d, v.given? Claim.issuedAt = some d) ∧ v.schedule.policy.validate = .ok () ∧
      ∃ claims, ClaimSet.ofRecord (applicationClaims v.claims) = .ok claims ∧
        sign algorithm secret
          ((claims.identified identity).payload ++ v.schedule.claims second (id nextId)) =
            .ok renewed := by
  obtain ⟨h, key, hk⟩ := checked_of_verify hv
  rw [attemptRenewal_outcome (Key.truth_of_accept hk)] at ht
  rcases hi : v.given? Claim.issuedAt with - | d
  · rw [reissued_of_not_given hi] at ht
    cases ht
  rw [reissued_of_given h hi, hs] at ht
  obtain ⟨payload, hpayload, hsign⟩ := bind_eq_ok.1 ht
  obtain ⟨claims, hc, hpayload⟩ := bind_eq_ok.1 hpayload
  obtain ⟨⟨⟩, hvalid, hpayload⟩ := bind_eq_ok.1 hpayload
  cases hpayload
  exact ⟨⟨d, rfl⟩, hvalid, claims, hc, hsign⟩

/-- **A renewal works exactly for tokens that can be issued again.** -/
theorem exists_attemptRenewal_iff (hv : verify algorithm secret clock token = .ok v)
    (hs : Token.second clock = .ok second) (hp : Datum.unprintable second = false)
    (identity : Identity) (nextId : Nat) :
    (∃ renewed, (attemptRenewal algorithm secret v identity clock nextId).outcome = .ok renewed) ↔
      v.Reissuable second := by
  obtain ⟨h, key, hk⟩ := checked_of_verify hv
  constructor
  · rintro ⟨renewed, hok⟩
    obtain ⟨hi, hvalid, claims, hc, hsign⟩ := signed_of_attemptRenewal hv hs hok
    obtain ⟨hissuer, hprintable⟩ := (exists_sign_iff hk).1 ⟨renewed, hsign⟩
    obtain ⟨-, hexpiry, hleeway⟩ := Schedule.printable_iff.1 fun e he =>
      hprintable e (List.mem_append_right _ he)
    refine ⟨hi, (exists_claims_iff h).1 ⟨claims, hc⟩, ?_,
      Verified.order_iff.2 (validate_schedule.1 hvalid).2, hexpiry, hleeway⟩
    rw [issuerFits_signed, issuerFits_iff, get?_identified_issuer h hc] at hissuer
    exact hissuer
  · rintro ⟨⟨d, hi⟩, hclaims, hissuer, horder, hexpiry, hleeway⟩
    rw [attemptRenewal_outcome (Key.truth_of_accept hk), reissued_of_given h hi, hs]
    obtain ⟨claims, hc⟩ := (exists_claims_iff h).2 hclaims
    -- the clock has come to the second of issue and not to the expiry
    obtain ⟨now, hnow⟩ := exists_rational_of_second hs
    have hforward : v.schedule.Forward :=
      ⟨fun n hn => Int.le_of_lt (h.lifetime_pos hnow hn), Verified.order_iff.1 horder⟩
    rw [hc, ok_bind, validate_schedule.2 hforward]
    refine (exists_sign_iff hk).2 ⟨?_, fun e he => ?_⟩
    · rw [issuerFits_signed, issuerFits_iff, get?_identified_issuer h hc]
      exact hissuer
    · rcases List.mem_append.1 he with he | he
      · exact printable_identified h hc e he
      · exact Schedule.printable_iff.2 ⟨fun _ => hp, hexpiry, hleeway⟩ e he

/-- All that a renewal notes is that the token was restored. -/
theorem attemptRenewal_events (algorithm : Algorithm) (secret : Datum) (v : Verified)
    (identity : Identity) (clock : Number) (nextId : Nat) :
    ∀ e ∈ (attemptRenewal algorithm secret v identity clock nextId).events,
      ∃ claims newId, e = .rebuilt claims newId := by
  rw [attemptRenewal]
  rcases restore v with f | ⟨claims, policy⟩
  · exact List.forall_mem_nil _
  · exact List.forall_mem_singleton.2 ⟨_, _, rfl⟩

/-! ### Requests that are renewed -/

variable {α : Type} {g : Gate} {request : Request} {next : Option Identity → α} {looks : List Lookup}
  {text : String}

/-- An event that is noted as a warning. -/
def Event.warns (e : Event) : Bool := e.entry.level == .warning

/-- A request passes with a renewed token.  The token has the claims of the one that was found, with the
identity, on its schedule from the second of the clock on; it goes into the header of the gate before the
next stage runs; and nothing is noted as a warning. -/
structure PassesRenewed (g : Gate) (next : Option Identity → α) (v : Verified) (identity : Identity)
    (looks : List Lookup) (second : Int) (nextId : Nat) (token : String) (o : Outcome α) : Prop where
  signed : ∃ claims, ClaimSet.ofRecord (applicationClaims v.claims) = .ok claims ∧
    sign g.algorithm g.secret
      ((claims.identified identity).payload ++ v.schedule.claims second (id nextId)) = .ok token
  decision : o.decision = .ok { state := .renewed, identity := some identity,
                                renewedToken := some token, result := some (next (some identity)) }
  calls : o.calls = looks.map .look ++
    [.attach identity marker, .setHeader g.headerName token, .next]
  quiet : o.events.filter Event.warns = []

/-- A request passes as it does without renewal: no header is set, the next stage runs, and the one
warning says why the token was not renewed. -/
structure PassesUnrenewed (next : Option Identity → α) (identity : Identity) (looks : List Lookup)
    (o : Outcome α) : Prop where
  decision : o.decision = .ok { state := .authenticated, identity := some identity,
                                result := some (next (some identity)) }
  calls : o.calls = looks.map .look ++ [.attach identity marker, .next]
  warning : ∃ f, Obstacle f ∧
    o.events.filter Event.warns = [.renewalFailed f.message identity.userId]

section Renewed

variable (hr : g.renew = true) (hv : verify g.algorithm g.secret clock (.text text) = .ok v)
  (hs : Token.second clock = .ok second) (hp : Datum.unprintable second = false)

include hr hv hs hp

/-- Where a request with a valid token goes, if tokens are renewed. -/
theorem Passage.renewed_iff {o : Outcome α}
    (hpassage : Passage g next v identity clock (looks.map .look) nextId o) :
    (∃ d, o.decision = .ok d ∧ (d.state = .renewed ↔ v.Reissuable second)) ∧
      (v.Reissuable second →
        ∃ token, PassesRenewed g next v identity looks second nextId token o) ∧
      (¬v.Reissuable second → PassesUnrenewed next identity looks o) := by
  have hiff := exists_attemptRenewal_iff hv hs hp identity nextId
  have hobstacle : ∀ f, (attemptRenewal g.algorithm g.secret v identity clock nextId).outcome =
      .error f → Obstacle f := by
    refine fun f hf => obstacle_of_attemptRenewal hv ?_ hf
    rintro rfl
    cases hs
  have hquiet : ∀ e ∈ (attemptRenewal g.algorithm g.secret v identity clock nextId).events,
      ¬e.warns = true := by
    intro e he
    obtain ⟨claims, newId, rfl⟩ := attemptRenewal_events _ _ _ _ _ _ e he
    exact Bool.false_ne_true
  cases hpassage with
  | unchanged hr' => cases hr.symm.trans hr'
  | @renewed renewed events freeId hr' ht =>
    have houtcome := congrArg Renewal.outcome ht
    have hworks := hiff.1 ⟨_, houtcome⟩
    obtain ⟨-, -, hsigned⟩ := signed_of_attemptRenewal hv hs houtcome
    rw [ht] at hquiet
    refine ⟨⟨_, rfl, fun _ => hworks, fun _ => rfl⟩, fun _ => ⟨renewed, hsigned, rfl, ?_, ?_⟩,
      fun hnot => absurd hworks hnot⟩
    · rw [passRenewed, List.append_assoc]
      rfl
    · rw [passRenewed, List.filter_append, List.filter_cons_of_neg Bool.false_ne_true,
        List.filter_eq_nil_iff.2 hquiet]
      rfl
  | broken hr' ht hf =>
    have ho := hobstacle _ (congrArg Renewal.outcome ht)
    cases hf.symm.trans ho.forgiven
  | @kept f events freeId hr' ht hf =>
    have hfails : ¬v.Reissuable second := by
      intro hworks
      obtain ⟨renewed, hrenewed⟩ := hiff.2 hworks
      cases (congrArg Renewal.outcome ht).symm.trans hrenewed
    rw [ht] at hquiet
    refine ⟨⟨_, rfl, fun he => (by cases he), fun hworks => absurd hworks hfails⟩,
      fun hworks => absurd hworks hfails,
      fun _ => ⟨rfl, ?_, f, hobstacle f (congrArg Renewal.outcome ht), ?_⟩⟩
    · rw [pass, List.append_assoc]
      rfl
    · rw [pass, List.filter_append, List.filter_cons_of_neg Bool.false_ne_true,
        List.filter_eq_nil_iff.2 hquiet]
      rfl

/-- **A token is renewed exactly if it can be issued again**, and then the request passes with the new
token; otherwise it passes unrenewed.  The restored expiry is never negative, and the identity of the token plays no part.  The
clock stands at a second, and one that can be written. -/
theorem process_renewed_iff (hcon : request.constrained = true)
    (hsearch : g.chain.search request = (some (.text text), looks))
    (hi : g.mapping.identity v.claims = .ok identity) (nextId : Nat)
    (next : Option Identity → α) :
    ((∃ d, (g.process request clock nextId next).decision = .ok d ∧
        (d.state = .renewed ↔ v.Reissuable second)) ∧
      (v.Reissuable second → ∃ token, PassesRenewed g next v identity looks second nextId token
        (g.process request clock nextId next)) ∧
      (¬v.Reissuable second →
        PassesUnrenewed next identity looks (g.process request clock nextId next))) ∧
    (∀ claims policy d, restore v = .ok (claims, policy) → policy.expiry = some d →
      ∃ n : Int, d = .int n ∧ 0 < n) ∧
    (v.Reissuable second ↔ v.anonymous.Reissuable second ∧
      ∀ e ∈ v.claims, e.1 ∈ Verified.identityNames → e.2 ≠ .null → e.2.Simple) := by
  refine ⟨?_, fun claims policy d hrestore hd => ?_, Verified.reissuable_iff_anonymous⟩
  · rw [process_of_verify hcon hsearch hv hi]
    exact (grant_passage g next v identity clock _ nextId).renewed_iff hr hv hs hp
  · obtain ⟨hchecked, -⟩ := checked_of_verify hv
    obtain ⟨now, hnow⟩ := exists_rational_of_second hs
    obtain ⟨rfl, -⟩ := restore_eq_ok hrestore
    obtain ⟨n, hn, rfl⟩ := Option.map_eq_some_iff.1 hd
    exact ⟨n, rfl, hchecked.lifetime_pos hnow hn⟩

end Renewed

/-- The guest's token can be issued again at the second it was issued at, and is renewed. -/
theorem process_renewed_iff_guest : ∃ first v looks d,
    usualGate.renew = true ∧ (carrying first).constrained = true ∧
      usualGate.chain.search (carrying first) = (some (.text first), looks) ∧
      verify usualGate.algorithm usualGate.secret (.int 0) (.text first) = .ok v ∧
      usualGate.mapping.identity v.claims = .ok guest ∧ Token.second (.int 0) = .ok 0 ∧
      Datum.unprintable 0 = false ∧
      (usualGate.process (carrying first) (.int 0) 0 fun _ => ()).decision = .ok d ∧
      d.state = .renewed ∧ v.Reissuable 0 := by
  have hopen : ∀ n, tenSeconds.expiry = some n → 0 < n := by
    rintro n ⟨⟩
    decide
  obtain ⟨first, v, token, -, hfound, hv, -, -, hd⟩ := exists_session (fun _ => .int 0) rfl
    forward_tenSeconds (printable_tenSeconds le_rfl (by decide)) hopen rfl
  change (usualGate.process (carrying first) (.int 0) 0 fun _ => ()).decision = .ok _ at hd
  obtain ⟨hr, presented, looks, v', identity, renewed, hs, hv', hi, -, he⟩ := eq_of_renewed hd rfl
  obtain rfl : presented = first := by
    rw [hs] at hfound
    exact RawText.text.inj (Option.some.inj hfound)
  cases hv.symm.trans hv'
  cases he
  have hp : Datum.unprintable 0 = false := Datum.unprintable_of_lt (by decide)
  obtain ⟨⟨⟨d, hd', hiff⟩, -⟩, -⟩ := process_renewed_iff hr hv rfl hp rfl hs hi 0 fun _ => ()
  cases hd.symm.trans hd'
  exact ⟨presented, v, looks, _, hr, rfl, hs, hv, hi, rfl, hp, hd, rfl, hiff.1 rfl⟩

end Gate

end TokenGate
