/-
Renewed tokens are live.

A client that is sent a new token can use it at once, and is never worse off than with the old one.
`renewed_live` is the main result: at the very clock at which a gate renewed a token, the new one is
verified; it lasts as long as the old one did, counted from a later second, so that it does not expire
before the old one; and it is valid from its second of issue on, or from before.

All of this rests on how the old token was verified.  The clock had come to its second of issue, and
had not come to its expiry; so its lifetime is at least one second, although the clock may stand
between two seconds and both times may be written as numbers with a fraction or as texts.
-/
import TokenGate.Proofs.Gate.Reissue
import TokenGate.Proofs.Gate.Sliding

namespace TokenGate

open Token

namespace Gate

variable {α : Type} {g : Gate} {request : Request} {clock : Number} {nextId : Nat}
  {next : Option Identity → α} {presented : Datum} {token : String} {looks : List Lookup}
  {v : Verified} {identity : Identity} {now : ℚ}

/-- What a renewal signs for a token that was verified. -/
theorem sign_of_renewed (hv : verify g.algorithm g.secret clock presented = .ok v)
    (hfloat : ∀ e ∈ applicationClaims v.claims, ∀ x, e.2 ≠ .float x)
    (hc : clock.rational? = some now) (h0 : 0 ≤ now)
    (h : (attemptRenewal g.algorithm g.secret v identity clock nextId).outcome = .ok token) :
    ∃ claims : ClaimSet, claims.FloatFree ∧ claims.payload.Unreserved ∧ SubjectFits claims ∧
      v.schedule.Forward ∧ (∃ issuedAt, v.given? Claim.issuedAt = some issuedAt) ∧
      sign g.algorithm g.secret (claims.payload ++ v.schedule.claims ⌊now⌋ (id nextId)) =
        .ok token := by
  obtain ⟨hchecked, key, hk⟩ := checked_of_verify hv
  rw [attemptRenewal_outcome (Key.truth_of_accept hk)] at h
  obtain ⟨p, hp, hsign⟩ := bind_eq_ok.1 h
  rcases hi : v.given? Claim.issuedAt with - | issuedAt
  · rw [reissued_of_not_given hi] at hp
    cases hp
  rw [reissued_of_given hchecked hi] at hp
  obtain ⟨claims, hof, hp⟩ := bind_eq_ok.1 hp
  obtain ⟨⟨⟩, hvalid, hp⟩ := bind_eq_ok.1 hp
  obtain ⟨second, hsecond, hp⟩ := bind_eq_ok.1 hp
  cases hp
  cases (second_of_rational hc h0).symm.trans hsecond
  exact ⟨_, floatFree_identified hchecked hof hfloat, unreserved_identified hchecked hof,
    subjectFits_identified hchecked hof (checkText_subject_of_verify hv),
    validate_schedule.1 hvalid, ⟨issuedAt, rfl⟩, hsign⟩

/-- **A renewed token is live at once and never shortens the session.**  It is verified at the clock
at which it was renewed.  The lifetime of the token that was presented is at least one second, and the
renewed token has the same one, counted from the second of the clock; it expires if and only if the
other one does, and not before it.  It is valid from its second of issue on, or from before. -/
theorem renewed_live {d : Decision α} {presented : String}
    (hd : (g.process request clock nextId next).decision = .ok d) (hstate : d.state = .renewed)
    (hc : clock.rational? = some now) (h0 : 0 ≤ now)
    (hsearch : g.chain.search request = (some (.text presented), looks))
    (hv : verify g.algorithm g.secret clock (.text presented) = .ok v)
    (hfloat : ∀ e ∈ applicationClaims v.claims, ∀ x, e.2 ≠ .float x) :
    ∃ token w issued, d.renewedToken = some token ∧
      verify g.algorithm g.secret clock (.text token) = .ok w ∧
      v.second? Claim.issuedAt = some issued ∧
      w.claims.get? Claim.issuedAt = some (.int ⌊now⌋) ∧
      w.claims.contains Claim.expires = v.claims.contains Claim.expires ∧
      (∀ last, v.second? Claim.expires = some last →
        1 ≤ last - issued ∧ last ≤ ⌊now⌋ + (last - issued) ∧
        w.claims.get? Claim.expires = some (.int (⌊now⌋ + (last - issued)))) ∧
      ∀ d, w.claims.get? Claim.notBefore = some d → ∃ first, d = .int first ∧ first ≤ ⌊now⌋ := by
  obtain ⟨-, presented', looks', v', identity, token, hsearch', hv', -, hattempt, rfl⟩ :=
    eq_of_renewed hd hstate
  obtain rfl : presented' = presented := by
    rw [hsearch] at hsearch'
    exact (RawText.text.inj (Option.some.inj (congrArg Prod.fst hsearch'))).symm
  obtain rfl : v' = v := Except.ok.inj (hv'.symm.trans hv)
  obtain ⟨claims, hf, hr, hsub, hforward, ⟨d, hi⟩, hsign⟩ :=
    sign_of_renewed hv hfloat hc h0 hattempt
  obtain ⟨hchecked, -⟩ := checked_of_verify hv
  obtain ⟨issued, hissued⟩ : ∃ issued, v'.second? Claim.issuedAt = some issued := by
    obtain ⟨n, -, hn⟩ := hchecked.exists_wholeSecond .issuedAt hi
    exact ⟨n, hn⟩
  have hpos : ∀ n, v'.lifetime? = some n → 1 ≤ n := fun n hn => hchecked.lifetime_pos hc hn
  -- less than a second has gone by since the second of issue, and the lifetime is no less than one
  have hended : ¬v'.schedule.Ended ⌊now⌋ now := by
    rintro ⟨n, hn, hle⟩
    have hone : ((⌊now⌋ + 1 : Int) : ℚ) ≤ now :=
      le_trans (by exact_mod_cast Int.add_le_add_left (hpos n hn) _) hle
    push_cast at hone
    exact absurd (Int.lt_floor_add_one now) (not_lt.2 hone)
  have hverify := verify_open hr hc hf hsub hsign (hforward.started (Int.floor_le now)) hended
  have hlifetime : v'.lifetime? = (v'.second? Claim.expires).map (· - issued) := by
    rw [Verified.lifetime?, hissued, Option.bind_some]
  have hexpires : Record.get? (claims.payload ++ v'.schedule.claims ⌊now⌋ (id nextId))
      Claim.expires = (v'.lifetime?.map (⌊now⌋ + ·)).map .int :=
    get?_signed_expires hr v'.schedule _ _
  rw [hlifetime] at hexpires
  refine ⟨token, _, issued, rfl, hverify, hissued, get?_signed_issuedAt hr _ _ _, ?_,
    fun last hlast => ?_, fun d hd => ?_⟩
  · have hpresent := hchecked.isSome_second? .expires
    rw [Record.contains, Record.contains, hexpires, Option.isSome_map, Option.isSome_map,
      Option.isSome_map]
    exact hpresent
  · rw [hlast] at hlifetime hexpires
    have hle : issued ≤ ⌊now⌋ := Int.le_floor.2 (hchecked.issuedAt_le hc hissued)
    exact ⟨hpos _ hlifetime, by omega, hexpires⟩
  · rw [get?_signed_notBefore hr] at hd
    obtain ⟨first, hfirst, rfl⟩ := Option.map_eq_some_iff.1 hd
    obtain ⟨n, hn, rfl⟩ := Option.map_eq_some_iff.1 hfirst
    have hn0 := hforward.2 n hn
    exact ⟨_, rfl, by omega⟩

/-- The guest's token is renewed at the second it was issued at, and the new one is accepted there. -/
theorem renewed_live_guest : ∃ first v looks d token w,
    (usualGate.process (carrying first) (.int 0) 0 fun _ => ()).decision = .ok d ∧
      d.state = .renewed ∧ (Number.int 0).rational? = some ((0 : Int) : ℚ) ∧
      usualGate.chain.search (carrying first) = (some (.text first), looks) ∧
      verify usualGate.algorithm usualGate.secret (.int 0) (.text first) = .ok v ∧
      (∀ e ∈ applicationClaims v.claims, ∀ x, e.2 ≠ .float x) ∧ d.renewedToken = some token ∧
      verify usualGate.algorithm usualGate.secret (.int 0) (.text token) = .ok w ∧
      w.claims.get? Claim.issuedAt = some (.int 0) := by
  have hopen : ∀ n, tenSeconds.expiry = some n → 0 < n := by
    rintro n ⟨⟩
    decide
  obtain ⟨first, v, renewed, -, hfound, hv, hfloat, -, hd⟩ := exists_session (fun _ => .int 0) rfl
    forward_tenSeconds (printable_tenSeconds le_rfl (by decide)) hopen rfl
  change (usualGate.process (carrying first) (.int 0) 0 fun _ => ()).decision = .ok _ at hd
  have hsearch : usualGate.chain.search (carrying first) =
      (some (.text first), (usualGate.chain.search (carrying first)).2) := Prod.ext hfound rfl
  have hc : (Number.int 0).rational? = some ((0 : Int) : ℚ) := rfl
  obtain ⟨token, w, issued, ht, hw, -, hissued, -⟩ :=
    renewed_live hd rfl hc (by norm_num) hsearch hv hfloat
  rw [Int.floor_intCast] at hissued
  exact ⟨first, v, _, _, token, w, hd, rfl, hc, hsearch, hv, hfloat, ht, hw, hissued⟩

end Gate

end TokenGate
