/-
Rebuilding from any verified token.

A verified token may come from anywhere, also from a caller who has made it by hand, so that nothing
is known of its claims but that each name stands once.  `restore_builds` is the main result.  It says
of all such tokens what restoring takes over and what it does not: the token's own claims, in their
order, and durations in place of times; and what a builder made of them signs at any clock
afterwards, with times counted from that clock.  A claim that cannot be held is never dropped: it
keeps the token from being restored.

Lists and sets of texts come out as tuples, the one form in which a claim set keeps several texts, and
stand as lists in the payload.
-/
import TokenGate.Proofs.Token.Exchange

namespace TokenGate

/-- The claims that a verified token has of its own: not null, and none that a policy decides. -/
def Verified.own (v : Verified) : Record Datum := (Token.applicationClaims v.claims).nonNull

namespace Token

open Verified

variable {v : Verified} {claims : ClaimSet} {policy : Policy} {issuedAt : Datum} {f : Failure}

/-! ### Restoring -/

/-- A failure with a duration is one of its integers. -/
theorem wholeSecond_eq_error {d : Datum} (h : wholeSecond d = .error f) :
    ∃ fault, f = .integer fault := by
  rw [wholeSecond] at h
  split at h
  · cases h
  · next fault _ =>
    cases h
    exact ⟨fault, rfl⟩

theorem restoreExpiry_eq_error {expires : Option Datum}
    (h : restoreExpiry issuedAt expires = .error f) : ∃ fault, f = .integer fault := by
  rcases expires with - | d
  · cases h
  rcases bind_eq_error.1 h with h | ⟨last, -, h⟩
  · exact wholeSecond_eq_error h
  rcases bind_eq_error.1 h with h | ⟨first, -, h⟩
  · exact wholeSecond_eq_error h
  · cases h

theorem restoreLeeway_eq_error {notBefore : Option Datum}
    (h : restoreLeeway issuedAt notBefore = .error f) : ∃ fault, f = .integer fault := by
  rcases notBefore with - | d
  · cases h
  rcases bind_eq_error.1 h with h | ⟨first, -, h⟩
  · exact wholeSecond_eq_error h
  rcases bind_eq_error.1 h with h | ⟨start, -, h⟩
  · exact wholeSecond_eq_error h
  · cases h

theorem isSome_restoreExpiry {expires expiry : Option Datum}
    (h : restoreExpiry issuedAt expires = .ok expiry) : expiry.isSome = expires.isSome := by
  rcases expires with - | d
  · cases h
    rfl
  · obtain ⟨last, -, h⟩ := bind_eq_ok.1 h
    obtain ⟨first, -, h⟩ := bind_eq_ok.1 h
    cases h
    rfl

theorem isSome_restoreLeeway {notBefore leeway : Option Datum}
    (h : restoreLeeway issuedAt notBefore = .ok leeway) : leeway.isSome = notBefore.isSome := by
  rcases notBefore with - | d
  · cases h
    rfl
  · obtain ⟨first, -, h⟩ := bind_eq_ok.1 h
    obtain ⟨start, -, h⟩ := bind_eq_ok.1 h
    cases h
    rfl

/-- **Only a missing second of issue is reported as such**, and it is reported before all else. -/
theorem restore_eq_issuedAtMissing_iff :
    restore v = .error .issuedAtMissing ↔ v.given? Claim.issuedAt = none := by
  rcases hi : v.given? Claim.issuedAt with - | issuedAt
  · rw [restore, hi]
    exact ⟨fun _ => rfl, fun _ => rfl⟩
  · refine ⟨fun h => ?_, fun h => absurd h (Option.some_ne_none issuedAt)⟩
    rw [restore, hi] at h
    -- each later step has failures of its own
    rcases bind_eq_error.1 h with h | ⟨expiry, -, h⟩
    · obtain ⟨fault, he⟩ := restoreExpiry_eq_error h
      cases he
    rcases bind_eq_error.1 h with h | ⟨leeway, -, h⟩
    · obtain ⟨fault, he⟩ := restoreLeeway_eq_error h
      cases he
    rcases bind_eq_error.1 h with h | ⟨claims, -, h⟩
    · rcases ClaimSet.ofRecord_eq_error h with he | ⟨name, kind, he⟩
      · cases he
      · cases he
    · cases h

/-- A duration is restored exactly if the claim is given that it leads to. -/
theorem isSome_durations (h : restore v = .ok (claims, policy)) :
    v.lifetime?.isSome = (v.given? Claim.expires).isSome ∧
      v.leeway?.isSome = (v.given? Claim.notBefore).isSome := by
  rw [restore] at h
  split at h
  · cases h
  next issuedAt hi =>
  obtain ⟨expiry, he, h⟩ := bind_eq_ok.1 h
  obtain ⟨leeway, hl, -⟩ := bind_eq_ok.1 h
  constructor
  · rw [← isSome_restoreExpiry he, restoreExpiry_eq_ok hi he, Option.isSome_map]
  · rw [← isSome_restoreLeeway hl, restoreLeeway_eq_ok hi hl, Option.isSome_map]

/-- A set that was restored carries the token's own claims. -/
theorem payload_ofRecord (hn : v.claims.names.Nodup)
    (h : ClaimSet.ofRecord (applicationClaims v.claims) = .ok claims) :
    claims.payload = v.own.map fun e => (e.1, e.2.carried) :=
  ClaimSet.map_ofRecord (fun _ _ hv => (ClaimValue.forms_of_ofDatum? hv).2)
    (nodup_names_applicationClaims hn) h

/-- None of them is a claim that a policy decides. -/
theorem unreserved_ofRecord (hn : v.claims.names.Nodup)
    (h : ClaimSet.ofRecord (applicationClaims v.claims) = .ok claims) :
    claims.payload.Unreserved := by
  intro name hname hm
  rw [payload_ofRecord hn h, Record.names_mapValues] at hm
  exact unreserved_applicationClaims v.claims name hname
    ((List.filter_sublist.map Prod.fst).subset hm)

/-! ### Building -/

/-- A restored builder has the token's claims and its schedule. -/
theorem ofVerified_eq_ok {algorithm : Algorithm} {secret : Datum} {b : Builder}
    (h : Builder.ofVerified algorithm v secret = .ok b) :
    ∃ claims, ClaimSet.ofRecord (applicationClaims v.claims) = .ok claims ∧
      b = ⟨algorithm, secret, claims, v.schedule.policy⟩ := by
  obtain ⟨⟨claims, policy⟩, hr, h⟩ := bind_eq_ok.1 h
  obtain ⟨rfl, hc⟩ := restore_eq_ok hr
  dsimp only at h
  rw [Builder.make] at h
  split at h
  · cases h
    exact ⟨claims, hc, rfl⟩
  · cases h

/-- **A restored builder signs the token's own claims, with times that are counted anew.** -/
theorem sign_of_restored {algorithm : Algorithm} {secret : Datum} {b : Builder} {clock : Number}
    {nextId : Nat} {token : String} (hn : v.claims.names.Nodup)
    (hb : Builder.ofVerified algorithm v secret = .ok b)
    (h : (b.build clock nextId).outcome = .ok token) :
    ∃ second, Token.second clock = .ok second ∧
      sign algorithm secret ((v.own.map fun e => (e.1, e.2.carried)) ++
        v.schedule.claims second (id nextId)) = .ok token := by
  obtain ⟨claims, hc, rfl⟩ := ofVerified_eq_ok hb
  obtain ⟨n, hsecond⟩ := Builder.exists_second_of_build h
  obtain ⟨-, -, -, hsign⟩ := issue_eq_ok hsecond (unreserved_ofRecord hn hc) h
  rw [payload_ofRecord hn hc] at hsign
  exact ⟨n, hsecond, hsign⟩

/-! ### Any verified token -/

/-- **Restoring and building, for every verified token.**  A claim has to stand once; nothing else is
asked of the token. -/
theorem restore_builds (hn : v.claims.names.Nodup) :
    (restore v = .error .issuedAtMissing ↔ v.given? Claim.issuedAt = none) ∧
    (∀ claims policy, restore v = .ok (claims, policy) →
      claims.entries.map (fun e => (e.1, e.2.toDatum)) = v.own.map (fun e => (e.1, e.2.kept)) ∧
      policy = v.schedule.policy ∧
      v.lifetime?.isSome = (v.given? Claim.expires).isSome ∧
      v.leeway?.isSome = (v.given? Claim.notBefore).isSome) ∧
    (∀ algorithm secret b, Builder.ofVerified algorithm v secret = .ok b →
      ∀ clock nextId token, (b.build clock nextId).outcome = .ok token →
        ∃ second, Token.second clock = .ok second ∧
          sign algorithm secret ((v.own.map fun e => (e.1, e.2.carried)) ++
            v.schedule.claims second (id nextId)) = .ok token) ∧
    ∀ e ∈ v.own, ¬ClaimSet.Enterable e →
      ∃ f, restore v = .error f ∧
        ∀ algorithm secret, Builder.ofVerified algorithm v secret = .error f := by
  refine ⟨restore_eq_issuedAtMissing_iff, fun claims policy h => ?_,
    fun algorithm secret b hb clock nextId token h => sign_of_restored hn hb h,
    fun e he hnot => ?_⟩
  · obtain ⟨hpolicy, hc⟩ := restore_eq_ok h
    obtain ⟨hexpiry, hleeway⟩ := isSome_durations h
    exact ⟨ClaimSet.map_ofRecord (fun _ _ hv => (ClaimValue.forms_of_ofDatum? hv).1)
      (nodup_names_applicationClaims hn) hc, hpolicy, hexpiry, hleeway⟩
  · obtain ⟨hmem, hnull⟩ := List.mem_filter.1 he
    rcases hr : restore v with f | ⟨claims, policy⟩
    · refine ⟨f, rfl, fun algorithm secret => ?_⟩
      rw [Builder.ofVerified, hr, error_bind]
    · -- the claim would have entered the set
      have hall := ClaimSet.exists_ofRecord_iff.1 ⟨claims, (restore_eq_ok hr).2⟩
      refine absurd (hall e hmem ?_) hnot
      intro hd
      rw [hd] at hnull
      cases hnull

/-- A token that no gate has issued: its second of issue has a fraction, and two claims are null. -/
def handMade : Verified where
  claims := [(Claim.issuedAt, .float (.finite false 201 (-1))), (Claim.userId, .text "guest"),
    ("note", .null), (Claim.roles, .tuple [.text "reader"]), (Claim.expires, .int 110),
    (Claim.tokenId, .null)]
  header := []

/-- It is restored to the guest's claims for ten seconds, and a new token of them is issued at the two
hundredth second. -/
theorem restore_builds_handMade :
    handMade.claims.names.Nodup ∧ restore handMade = .ok (guestClaims, tenSeconds.policy) ∧
      handMade.lifetime? = some 10 ∧
      Builder.ofVerified .hs256 handMade (.text "k") = .ok Builder.guestBuilder ∧
      ∃ token, (Builder.guestBuilder.build (.int 200) 7).outcome = .ok token ∧
        sign .hs256 (.text "k") [(Claim.userId, .text "guest"), (Claim.roles, .list [.text "reader"]),
          (Claim.issuedAt, .int 200), (Claim.expires, .int 210)] = .ok token := by
  have hn : handMade.claims.names.Nodup := by decide
  have hr : restore handMade = .ok (guestClaims, tenSeconds.policy) := rfl
  have hb : Builder.ofVerified .hs256 handMade (.text "k") = .ok Builder.guestBuilder := rfl
  obtain ⟨token, hsign⟩ := sign_guestClaims (show (0 : Int) ≤ 200 by decide) (by decide) (id 7)
  have htoken : (Builder.guestBuilder.build (.int 200) 7).outcome = .ok token :=
    issue_of_sign rfl unreserved_guestClaims rfl rfl forward_tenSeconds hsign
  obtain ⟨-, -, hbuilds, -⟩ := restore_builds hn
  obtain ⟨second, hsecond, hagain⟩ := hbuilds _ _ _ hb _ _ _ htoken
  cases hsecond
  exact ⟨hn, hr, rfl, hb, token, htoken, hagain⟩

/-- A token with a set of texts among its claims. -/
def grouped : Verified where
  claims := [(Claim.issuedAt, .int 1), ("groups", .set [.text "a"])]
  header := []

/-- **Not every value but a list is unchanged**: a set of texts comes out as a tuple. -/
theorem restore_changes_sets :
    ("groups", .set [.text "a"]) ∈ grouped.own ∧ ∃ claims policy,
      restore grouped = .ok (claims, policy) ∧
      ∀ d, ("groups", d) ∈ claims.entries.map (fun e => (e.1, e.2.toDatum)) →
        d = .tuple [.text "a"] ∧ d ≠ .set [.text "a"] := by
  refine ⟨List.mem_singleton.2 rfl, ⟨[("groups", .texts ["a"])], by decide, by decide⟩, _, rfl, ?_⟩
  intro d hd
  cases List.mem_singleton.1 hd
  exact ⟨rfl, by rintro ⟨⟩⟩

end Token

end TokenGate
