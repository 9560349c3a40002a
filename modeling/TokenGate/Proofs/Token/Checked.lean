/-
What verification has established.

`Checked` is what is known of the claims of a verified token: they are those of a document, and they
have passed the checks against the clock.  Whatever is done with the claims afterwards relies on it:

* their times can be read, so that restoring fails only where the second of issue is missing or a
  claim cannot be written again (`Checked.restore_of_given`, `Checked.restore_eq_error`);
* a token that was issued and expires does not expire before it was issued (`Checked.lifetime_pos`).

The last part needs a clock that stands at some time.  A clock that is no number is before and after
nothing, and lets any two times pass.
-/
import TokenGate.Proofs.Token.Authenticity
import TokenGate.Proofs.Token.Restore

namespace TokenGate

/-- A secret that serves as a key counts as set. -/
theorem Key.truth_of_accept {secret : Datum} {key : List UInt8} (h : accept secret = .ok key) :
    secret.truth = true := by
  rcases secret with - | b | n | x | s | l | l | l | bs | l
  case text =>
    rw [Datum.truth, Bool.not_eq_true']
    by_contra hs
    obtain rfl := String.isEmpty_iff.1 (Bool.not_eq_false _ ▸ hs)
    cases h
  case bytes =>
    rw [Datum.truth, Bool.not_eq_true']
    rcases bs with - | ⟨b, bs⟩
    · cases h
    · rfl
  all_goals cases h

namespace Token

open Verified

variable {algorithm : Algorithm} {secret : Datum} {clock : Number} {token d : Datum} {v : Verified}
  {f : Failure} {n : Int} {now : ℚ}

/-! ### Passing the checks -/

/-- The claims of a document that have passed the checks against the clock. -/
structure Checked (clock : Number) (claims : Record Datum) : Prop where
  plain : Json.Plain (.dict claims)
  printable : ∀ e ∈ claims, e.2.oversized = false
  time : ∀ claim, checkTime clock claims claim = .ok ()

/-- **A verified token has claims that were checked, and its secret serves as a key.** -/
theorem checked_of_verify (h : verify algorithm secret clock token = .ok v) :
    Checked clock v.claims ∧ ∃ key, Key.accept secret = .ok key := by
  obtain ⟨-, opened, key, -, -, hk, -, -, hread, hc⟩ := verify_eq_ok h
  obtain ⟨⟨⟩, hi, hc⟩ := bind_eq_ok.1 hc
  obtain ⟨⟨⟩, hn, hc⟩ := bind_eq_ok.1 hc
  obtain ⟨⟨⟩, he, -⟩ := bind_eq_ok.1 hc
  refine ⟨⟨Json.plain_of_read hread, ?_, ?_⟩, key, hk⟩
  · exact Datum.oversized_dict_eq_false_iff.1 (Json.printable_of_read hread)
  · rintro (- | - | -)
    · exact hi
    · exact hn
    · exact he

namespace Checked

variable (h : Checked clock v.claims)

include h

theorem nodup_names : v.claims.names.Nodup := by
  cases h.plain with
  | dict hn _ => exact hn

theorem plain_of_mem : ∀ e ∈ v.claims, Json.Plain e.2 := by
  cases h.plain with
  | dict _ hplain => exact hplain

/-! ### Times -/

/-- A time that is there has been read and compared with the clock. -/
theorem checkSecond_of_second? (claim : TimeClaim) (hn : v.second? claim.name = some n) :
    checkSecond clock claim n = .ok () := by
  obtain ⟨d, hd, hn⟩ := Option.bind_eq_some_iff.1 hn
  obtain ⟨m, hm, hc⟩ := checkTime_eq_ok (h.time claim) hd
  rw [hm] at hn
  cases hn
  exact hc

/-- A time is there exactly if it can be read. -/
theorem isSome_second? (claim : TimeClaim) :
    (v.second? claim.name).isSome = (v.claims.get? claim.name).isSome := by
  rw [second?]
  rcases hd : v.claims.get? claim.name with - | d
  · rfl
  · obtain ⟨n, hn, -⟩ := checkTime_eq_ok (h.time claim) hd
    rw [Option.bind_some, hn]
    rfl

/-- A time that is given can be read. -/
theorem exists_wholeSecond (claim : TimeClaim) (hd : v.given? claim.name = some d) :
    ∃ n, wholeSecond d = .ok n ∧ v.second? claim.name = some n := by
  obtain ⟨n, hn, -⟩ := checkTime_eq_ok (h.time claim) (get?_of_given hd)
  have hwhole : wholeSecond d = .ok n := by rw [wholeSecond, hn]
  exact ⟨n, hwhole, second?_of_wholeSecond hd hwhole⟩

theorem exists_restoreExpiry (hi : v.given? Claim.issuedAt = some d) :
    ∃ expiry, restoreExpiry d (v.given? Claim.expires) = .ok expiry := by
  obtain ⟨first, hfirst, -⟩ := h.exists_wholeSecond .issuedAt hi
  rcases he : v.given? Claim.expires with - | e
  · exact ⟨none, rfl⟩
  · obtain ⟨last, hlast, -⟩ := h.exists_wholeSecond .expires he
    refine ⟨some (.int (last - first)), ?_⟩
    rw [restoreExpiry, hlast, ok_bind, hfirst, ok_bind]
    rfl

theorem exists_restoreLeeway (hi : v.given? Claim.issuedAt = some d) :
    ∃ leeway, restoreLeeway d (v.given? Claim.notBefore) = .ok leeway := by
  obtain ⟨first, hfirst, -⟩ := h.exists_wholeSecond .issuedAt hi
  rcases hn : v.given? Claim.notBefore with - | b
  · exact ⟨none, rfl⟩
  · obtain ⟨start, hstart, -⟩ := h.exists_wholeSecond .notBefore hn
    refine ⟨some (.int (first - start)), ?_⟩
    rw [restoreLeeway, hfirst, ok_bind, hstart, ok_bind]
    rfl

/-! ### Restoring -/

/-- **With a second of issue, only a claim that cannot be written keeps a token from being
restored.** -/
theorem restore_of_given (hi : v.given? Claim.issuedAt = some d) :
    restore v =
      (ClaimSet.ofRecord (applicationClaims v.claims)).map fun claims =>
        (claims, v.schedule.policy) := by
  obtain ⟨expiry, he⟩ := h.exists_restoreExpiry hi
  obtain ⟨leeway, hl⟩ := h.exists_restoreLeeway hi
  rw [restore, hi]
  dsimp only
  rw [he, ok_bind, hl, ok_bind, restoreExpiry_eq_ok hi he, restoreLeeway_eq_ok hi hl]
  rcases ClaimSet.ofRecord (applicationClaims v.claims) with f | claims
  · rfl
  · rfl

theorem restore_eq_error (hr : restore v = .error f) :
    f = .issuedAtMissing ∨ f = .claimName ∨ ∃ name kind, f = .claimKind name kind := by
  rcases hi : v.given? Claim.issuedAt with - | d
  · rw [restore, hi] at hr
    exact .inl (Except.error.inj hr).symm
  · rw [h.restore_of_given hi] at hr
    rcases hc : ClaimSet.ofRecord (applicationClaims v.claims) with f' | claims
    · rw [hc] at hr
      cases hr
      exact .inr (ClaimSet.ofRecord_eq_error hc)
    · rw [hc] at hr
      cases hr

/-- The clock has come to the second of issue. -/
theorem issuedAt_le (hc : clock.rational? = some now) (hn : v.second? Claim.issuedAt = some n) :
    (n : ℚ) ≤ now := by
  have hcame := h.checkSecond_of_second? .issuedAt hn
  rw [checkSecond] at hcame
  · split at hcame
    · cases hcame
    · next hb => exact not_lt.1 fun hlt => hb ((Number.isBefore_iff_lt hc n).2 hlt)
  · rintro ⟨⟩

/-- The clock has not come to the expiry. -/
theorem lt_expires (hc : clock.rational? = some now) (hn : v.second? Claim.expires = some n) :
    now < n := by
  have hleft := h.checkSecond_of_second? .expires hn
  rw [checkSecond] at hleft
  split at hleft
  · cases hleft
  · next hr => exact not_le.1 fun hle => hr ((Number.reached_iff_le hc n).2 hle)

/-- **A token does not expire before it was issued**: the clock has come to the second of issue, and
not to the expiry. -/
theorem lifetime_pos (hc : clock.rational? = some now) (hn : v.lifetime? = some n) : 0 < n := by
  obtain ⟨issued, hi, hn⟩ := Option.bind_eq_some_iff.1 hn
  obtain ⟨expires, he, rfl⟩ := Option.map_eq_some_iff.1 hn
  have hless : issued < expires := by
    exact_mod_cast lt_of_le_of_lt (h.issuedAt_le hc hi) (h.lt_expires hc he)
  omega

/-- A token that was issued is early before all times. -/
theorem ne_infinite_of_given (hi : v.given? Claim.issuedAt = some d) :
    clock ≠ .float (.infinite true) := by
  rintro rfl
  obtain ⟨n, -, hn⟩ := h.exists_wholeSecond .issuedAt hi
  cases h.checkSecond_of_second? _ hn

end Checked

/-! ### The second of a clock -/

/-- Only a clock that stands at no time has no second. -/
theorem second_eq_error (h : second clock = .error f) :
    f = .integer .notANumber ∨ ∃ negative, clock = .float (.infinite negative) := by
  rcases clock with m | (- | negative | ⟨negative, m, e⟩)
  · cases h
  · exact .inl (Except.error.inj h).symm
  · exact .inr ⟨negative, rfl⟩
  · cases h

/-- A clock with a second stands at some time. -/
theorem exists_rational_of_second (h : second clock = .ok n) : ∃ now, clock.rational? = some now := by
  rcases clock with m | (- | negative | ⟨negative, m, e⟩)
  · exact ⟨m, rfl⟩
  · cases h
  · cases h
  · exact ⟨_, rfl⟩

end Token

end TokenGate
