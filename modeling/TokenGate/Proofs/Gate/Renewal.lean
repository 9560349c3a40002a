/-
Renewing a token once.

A gate renews a token from two kinds of start.  The first token of a session may have been made by
anyone, with claims and times of any kind that the verification lets through; the later ones are
those that the gate has renewed.  `Renewable` is what holds from the first renewal on: the claims and
the schedule of every later token, and the identity that they speak for.

* `renewable_of_renewed` says that the first renewal leads there.
* `attemptRenewal_signed` says what a later one does: it signs the same claims on the same schedule,
  from the second of the clock.
* `sign_of_printable` says when that works: if the new times are not too long to be written.
-/
import TokenGate.Gate
import TokenGate.Proofs.Identity
import TokenGate.Proofs.Token.Authenticity
import TokenGate.Proofs.Token.Restore

namespace TokenGate

open Token

/-! ### Times that can be written -/

/-- No second of a token that is issued on the schedule is too long to be written. -/
def Schedule.Printable (s : Schedule) (second : Int) : Prop :=
  (s.issuedAt = true → Datum.unprintable second = false) ∧
    (∀ n, s.expiry = some n → Datum.unprintable (second + n) = false) ∧
    ∀ n, s.leeway = some n → Datum.unprintable (second - n) = false

theorem Schedule.printable_iff {s : Schedule} {second : Int} {id : String} :
    (∀ e ∈ s.claims second id, e.2.oversized = false) ↔ s.Printable second := by
  obtain ⟨issuedAt, expiry, leeway, tokenId⟩ := s
  cases issuedAt <;> cases expiry <;> cases leeway <;> cases tokenId <;>
    simp [Schedule.claims, Record.given, Schedule.Printable, Datum.oversized]

namespace Gate

/-! ### Filling in the identity -/

variable {b b' : Builder} {name : String} {value : Datum} {identity : Identity}

theorem putClaim_eq_none (h : b.putClaim name value = (b', none)) :
    ∃ claims, b.claims.put name value = .ok claims ∧ { b with claims } = b' := by
  rw [Builder.putClaim, ClaimSet.step] at h
  rcases hp : b.claims.put name value with f | claims
  · rw [hp] at h
    cases h
  · rw [hp] at h
    exact ⟨claims, rfl, congrArg Prod.fst h⟩

/-- Filling in a claim changes no other claim, and not that one if it is there. -/
theorem get?_fillIn (h : fillIn name value b = .ok b') (other : String) :
    b'.claims.get? other =
      (b.claims.get? other).or (if other = name then ClaimValue.ofDatum? value else none) := by
  rw [fillIn] at h
  split at h
  · next hc =>
    cases h
    split
    · next he =>
      subst he
      obtain ⟨v, hv⟩ := Option.isSome_iff_exists.1 hc
      change b.claims.get? other = some v at hv
      rw [hv, Option.some_or]
    · rw [Option.or_none]
  · next hc =>
    obtain ⟨claims, hp, rfl⟩ := putClaim_eq_none (unlessFailed_eq_ok.1 h)
    obtain ⟨v, hv, he⟩ := ClaimSet.put_eq_ok hp
    have hnone : b.claims.get? name = none := Option.not_isSome_iff_eq_none.1 hc
    rw [ClaimSet.get?, he]
    split
    · next heq =>
      subst heq
      rw [Record.get?_set_self, hnone, Option.none_or, hv]
    · next hne =>
      rw [Record.get?_set_of_ne _ _ (Ne.symm hne), Option.or_none]
      rfl

theorem fillIn_eq (h : fillIn name value b = .ok b') : b' = { b with claims := b'.claims } := by
  rw [fillIn] at h
  split at h
  · cases h
    rfl
  · obtain ⟨claims, -, rfl⟩ := putClaim_eq_none (unlessFailed_eq_ok.1 h)
    rfl

/-- The identity is written under the two usual names where they are missing. -/
theorem get?_fillInIdentity (h : fillInIdentity identity b = .ok b') (other : String) :
    b'.claims.get? other =
      ((b.claims.get? other).or
        (if other = Claim.userId then some (.text identity.userId) else none)).or
        (if other = Claim.roles then some (.texts identity.roles) else none) := by
  obtain ⟨c, hc, h⟩ := bind_eq_ok.1 h
  rw [get?_fillIn h, get?_fillIn hc, ClaimValue.ofDatum?, ClaimValue.ofDatum?,
    ClaimValue.mapM_text?_texts]
  rfl

theorem fillInIdentity_eq (h : fillInIdentity identity b = .ok b') :
    b' = { b with claims := b'.claims } := by
  obtain ⟨c, hc, h⟩ := bind_eq_ok.1 h
  rw [fillIn_eq h, fillIn_eq hc]

/-- Nothing is filled in where nothing is missing. -/
theorem fillInIdentity_of_contains (hu : b.claims.contains Claim.userId = true)
    (hr : b.claims.contains Claim.roles = true) : fillInIdentity identity b = .ok b := by
  rw [fillInIdentity, fillIn, if_pos hu, ok_bind, fillIn, if_pos hr]

/-! ### Renewing -/

variable {algorithm : Algorithm} {secret : Datum} {v : Verified} {clock : Number} {nextId : Nat}
  {r : Renewal} {token : String}

/-- A renewal that works has restored the token, filled in the identity and issued a new one. -/
theorem attemptRenewal_eq_ok
    (h : (attemptRenewal algorithm secret v identity clock nextId).outcome = .ok token) :
    ∃ claims policy b, restore v = .ok (claims, policy) ∧ secret.truth = true ∧
      fillInIdentity identity ⟨algorithm, secret, claims, policy⟩ = .ok b ∧
      (b.build clock nextId).outcome = .ok token := by
  rw [attemptRenewal] at h
  split at h
  · cases h
  next claims policy hr =>
  dsimp only at h
  split at h
  · cases h
  next b hb =>
  rw [Builder.make] at hb
  split at hb
  · next ht =>
    cases hb
    rw [reissue] at h
    split at h
    · cases h
    · next b hf => exact ⟨claims, policy, b, hr, ht, hf, h⟩
  · cases hb

/-- From the first renewal on: claims and a schedule that can be signed again and again, and that
speak for one identity at any second. -/
structure Renewable (g : Gate) (claims : ClaimSet) (s : Schedule) (identity : Identity) : Prop where
  issuedAt : s.issuedAt = true
  forward : s.Forward
  floatFree : claims.FloatFree
  unreserved : claims.payload.Unreserved
  subject : SubjectFits claims
  userId : claims.contains Claim.userId = true
  roles : claims.contains Claim.roles = true
  issuer : issuerFits claims.payload = true
  printable : ∀ e ∈ claims.payload, e.2.oversized = false
  key : ∃ key, Key.accept g.secret = .ok key
  secret : g.secret.truth = true
  identity : ∀ second id, g.mapping.identity (claims.payload ++ s.claims second id) = .ok identity

/-! ### The first renewal -/

theorem checkText_eq_ok {r : Record Datum} {defect : Defect}
    (h : checkText r name defect = .ok ()) {d : Datum} (hd : r.get? name = some d) :
    ∃ text, d = .text text := by
  rw [checkText, hd] at h
  split at h
  · next he => cases he
  · next text he => exact ⟨text, Option.some.inj he⟩
  · cases h

/-- A token that is verified has no subject, or a text. -/
theorem checkText_subject_of_verify {presented : Datum}
    (h : verify algorithm secret clock presented = .ok v) :
    checkText v.claims Claim.subject .subjectShape = .ok () := by
  obtain ⟨-, opened, -, -, -, -, -, -, -, hchecked⟩ := verify_eq_ok h
  -- the subject is checked fourth, after the three times
  obtain ⟨⟨⟩, -, hchecked⟩ := bind_eq_ok.1 hchecked
  obtain ⟨⟨⟩, -, hchecked⟩ := bind_eq_ok.1 hchecked
  obtain ⟨⟨⟩, -, hchecked⟩ := bind_eq_ok.1 hchecked
  obtain ⟨⟨⟩, hsubject, -⟩ := bind_eq_ok.1 hchecked
  exact hsubject

section First

variable {claims : ClaimSet}
  (hp : Json.Plain (.dict v.claims))
  (hc : ClaimSet.ofRecord (applicationClaims v.claims) = .ok claims)
  (hb : b.claims = claims) (hf : fillInIdentity identity b = .ok b')

include hp

theorem nodup_names_of_plain : (applicationClaims v.claims).names.Nodup := by
  cases hp with
  | dict hn _ => exact nodup_names_applicationClaims hn

include hc hb hf

/-- What is known of claims that were restored and filled in: each was given, or it is one of the two
that are filled in. -/
theorem given_of_filled {name : String} {value : ClaimValue}
    (h : b'.claims.get? name = some value) :
    (∃ d, (applicationClaims v.claims).get? name = some d ∧ ClaimValue.ofDatum? d = some value) ∨
      name = Claim.userId ∧ value = .text identity.userId ∨
      name = Claim.roles ∧ value = .texts identity.roles := by
  rw [get?_fillInIdentity hf, hb] at h
  -- restored, or filled in for the user, or filled in for the roles
  rcases Option.or_eq_some_iff.1 h with h | ⟨-, h⟩
  · rcases Option.or_eq_some_iff.1 h with h | ⟨-, h⟩
    · exact .inl (ClaimSet.given_of_ofRecord hc (nodup_names_of_plain hp) h)
    · split at h
      · next he => exact .inr (.inl ⟨he, (Option.some.inj h).symm⟩)
      · cases h
  · split at h
    · next he => exact .inr (.inr ⟨he, (Option.some.inj h).symm⟩)
    · cases h

theorem floatFree_of_filled (hfloat : ∀ e ∈ applicationClaims v.claims, ∀ x, e.2 ≠ .float x) :
    b'.claims.FloatFree := by
  intro e he x hx
  have hget : b'.claims.get? e.1 = some e.2 := (Record.get?_eq_some_iff b'.claims.distinct).2 he
  rw [hx] at hget
  rcases given_of_filled hp hc hb hf hget with ⟨d, hd, hv⟩ | ⟨-, he⟩ | ⟨-, he⟩
  · exact hfloat _ (Record.mem_of_get? hd) x (ClaimValue.eq_float_of_ofDatum? hv)
  · cases he
  · cases he

theorem unreserved_of_filled : b'.claims.payload.Unreserved := by
  intro name hname hm
  rw [ClaimSet.names_payload, ← Record.contains_iff] at hm
  obtain ⟨value, hget⟩ := Option.isSome_iff_exists.1 hm
  rcases given_of_filled hp hc hb hf hget with ⟨d, hd, -⟩ | ⟨rfl, -⟩ | ⟨rfl, -⟩
  · exact unreserved_applicationClaims v.claims name hname
      (Record.mem_names_of_mem (Record.mem_of_get? hd))
  · exact absurd hname (by decide)
  · exact absurd hname (by decide)

theorem subjectFits_of_filled (hs : checkText v.claims Claim.subject .subjectShape = .ok ()) :
    SubjectFits b'.claims := by
  intro value hget
  rcases given_of_filled hp hc hb hf hget with ⟨d, hd, hv⟩ | ⟨he, -⟩ | ⟨he, -⟩
  · rw [get?_applicationClaims (by decide)] at hd
    obtain ⟨text, rfl⟩ := checkText_eq_ok hs hd
    exact ⟨text, (Option.some.inj hv).symm⟩
  · exact absurd he (by decide)
  · exact absurd he (by decide)

theorem get?_filled_of_given {d : Datum} (hname : name ∉ Claim.reserved)
    (hd : v.claims.get? name = some d) (hne : d ≠ .null) : b'.claims.payload.get? name = some d := by
  have happ := (get?_applicationClaims (r := v.claims) hname).trans hd
  obtain ⟨value, hv, hget⟩ :=
    ClaimSet.get?_ofRecord_of_given hc (nodup_names_of_plain hp) happ hne
  have hplain : Json.Plain d := by
    cases hp with
    | dict _ h => exact h _ (Record.mem_of_get? hd)
  rw [ClaimSet.get?_payload, get?_fillInIdentity hf, hb, hget, Option.some_or, Option.some_or,
    Option.map_some, ClaimValue.payload_of_ofDatum? hplain hv]

theorem get?_filled_of_absent (hname : name ∉ Claim.reserved)
    (hd : ∀ d, v.claims.get? name = some d → d = .null) : b'.claims.payload.get? name =
      (if name = Claim.userId then some (.text identity.userId) else none).or
        (if name = Claim.roles then some (.list (identity.roles.map .text)) else none) := by
  have hnone : claims.get? name = none := by
    refine ClaimSet.get?_ofRecord_of_absent hc (nodup_names_of_plain hp) ?_
    rwa [get?_applicationClaims hname]
  rw [ClaimSet.get?_payload, get?_fillInIdentity hf, hb, hnone, Option.none_or]
  split <;> split <;> rfl

/-- Where the token that was presented had no roles, a renewed one has at most those that were filled
in, and these are none. -/
theorem rolesIn_filled_of_absent (hname : name ∉ Claim.reserved) (hne : name ≠ Claim.userId)
    (hd : ∀ d, v.claims.get? name = some d → d = .null) (hnone : identity.roles = [])
    (s : Schedule) (second : Int) (id : String) :
    Identity.rolesIn (b'.claims.payload ++ s.claims second id) name = [] := by
  rw [Identity.rolesIn, get?_signed_of_notMem hname, get?_filled_of_absent hp hc hb hf hname hd,
    if_neg hne, Option.none_or, hnone]
  split
  · rfl
  · rfl

/-- **A renewed token speaks for the identity of the token that was presented**, whatever its times
and its id. -/
theorem identity_of_filled {m : Identity.Mapping} (hm : m.Steady)
    (hi : m.identity v.claims = .ok identity) (s : Schedule) (second : Int) (id : String) :
    m.identity (b'.claims.payload ++ s.claims second id) = .ok identity := by
  obtain ⟨huser, hroles⟩ := Identity.Mapping.identity_eq_ok.1 hi
  apply Identity.Mapping.identity_congr hi
  · intro name user hname hget
    have hnot : name ∉ Claim.reserved := fun hmem => hm.userId_unreserved name hmem hname
    rw [get?_signed_of_notMem hnot, get?_filled_of_given hp hc hb hf hnot hget (by rintro ⟨⟩)]
  · intro name hname
    have hnot : name ∉ Claim.reserved := fun hmem => hm.roles_unreserved name hmem hname
    by_cases habsent : ∀ d, v.claims.get? name = some d → d = .null
    · -- The roles are not looked for where the user is filled in: the user's own claim is there.
      have hne : name ≠ Claim.userId := by
        rintro rfl
        obtain ⟨-, other, hother, hget⟩ := Identity.Mapping.userId_eq_ok huser
        rw [hm.roles_of_userId hname] at hother
        cases hother
        cases habsent _ hget
      have hempty := Identity.rolesIn_of_absent habsent
      rw [Identity.Mapping.roles_of_text hname, hempty, Except.ok.injEq] at hroles
      rw [hempty, rolesIn_filled_of_absent hp hc hb hf hnot hne habsent hroles.symm]
    · obtain ⟨d, hd⟩ := Classical.not_forall.1 habsent
      obtain ⟨hget, hne⟩ := Classical.not_imp.1 hd
      rw [Identity.rolesIn, Identity.rolesIn, get?_signed_of_notMem hnot,
        get?_filled_of_given hp hc hb hf hnot hget hne, hget]

end First

theorem issuerFits_signed (claims : ClaimSet) (s : Schedule) (second : Int) (id : String) :
    issuerFits (claims.payload ++ s.claims second id) = issuerFits claims.payload := by
  rw [issuerFits, issuerFits, get?_signed_of_notMem (by decide)]

variable {g : Gate} {issued : ℚ}

/-- **The first renewal of a session** signs claims on the schedule of the token that was presented,
and they can be renewed from then on. -/
theorem renewable_of_renewed {presented : Datum}
    (hv : verify g.algorithm g.secret clock presented = .ok v)
    (hm : g.mapping.Steady) (hi : g.mapping.identity v.claims = .ok identity)
    (hfloat : ∀ e ∈ applicationClaims v.claims, ∀ x, e.2 ≠ .float x)
    (hc : clock.rational? = some issued) (h0 : 0 ≤ issued)
    (h : (attemptRenewal g.algorithm g.secret v identity clock nextId).outcome = .ok token) :
    ∃ claims, Renewable g claims v.schedule identity ∧
      sign g.algorithm g.secret (claims.payload ++ v.schedule.claims ⌊issued⌋ (id nextId)) =
        .ok token := by
  obtain ⟨-, opened, -, -, -, -, -, -, hread, -⟩ := verify_eq_ok hv
  have hp : Json.Plain (.dict v.claims) := Json.plain_of_read hread
  obtain ⟨claims, policy, b, hr, hsecret, hf, hbuild⟩ := attemptRenewal_eq_ok h
  obtain ⟨rfl, hof⟩ := restore_eq_ok hr
  -- nothing that was restored or filled in is one of the four claims that issuing writes
  have hunreserved := unreserved_of_filled hp hof rfl hf
  rw [fillInIdentity_eq hf] at hbuild
  obtain ⟨hu, hroles, hforward, hsign⟩ :=
    issue_eq_ok (second_of_rational hc h0) hunreserved hbuild
  obtain ⟨hissuer, ho, key, hk, -⟩ := sign_eq_ok hsign
  rw [Datum.oversized_dict_eq_false_iff] at ho
  refine ⟨b.claims, ?_, hsign⟩
  exact
    { issuedAt := rfl
      forward := hforward
      floatFree := floatFree_of_filled hp hof rfl hf hfloat
      unreserved := hunreserved
      subject := subjectFits_of_filled hp hof rfl hf (checkText_subject_of_verify hv)
      userId := hu
      roles := hroles
      issuer := (issuerFits_signed _ _ _ _).symm.trans hissuer
      printable := fun e he => ho e (List.mem_append_left _ he)
      key := ⟨key, hk⟩
      secret := hsecret
      identity := identity_of_filled hp hof rfl hf hm hi v.schedule }

/-! ### Later renewals -/

namespace Renewable

variable {claims : ClaimSet} {s : Schedule} (hs : Renewable g claims s identity)

include hs

/-- **A later renewal** signs the same claims on the same schedule. -/
theorem attemptRenewal_signed (second : Int) (tokenId : String) (header : Record Datum)
    (hc : clock.rational? = some issued) (h0 : 0 ≤ issued) (nextId : Nat) :
    (attemptRenewal g.algorithm g.secret ⟨claims.payload ++ s.claims second tokenId, header⟩
        identity clock nextId).outcome =
      sign g.algorithm g.secret (claims.payload ++ s.claims ⌊issued⌋ (id nextId)) := by
  rw [attemptRenewal, restore_signed hs.unreserved hs.issuedAt]
  dsimp only
  rw [Builder.make, if_pos hs.secret]
  dsimp only
  rw [reissue, fillInIdentity_of_contains hs.userId hs.roles]
  dsimp only
  rw [Builder.build, issue_schedule (second_of_rational hc h0) hs.unreserved hs.userId hs.roles
    hs.forward]

/-- Signing works if the times can be written. -/
theorem sign_of_printable {second : Int} (tokenId : String) (h : s.Printable second) :
    ∃ token, sign g.algorithm g.secret (claims.payload ++ s.claims second tokenId) = .ok token := by
  obtain ⟨key, hk⟩ := hs.key
  refine ⟨_, sign_of_fits ((issuerFits_signed _ _ _ _).trans hs.issuer) ?_ hk⟩
  refine Datum.oversized_dict_eq_false_iff.2 fun e he => ?_
  rcases List.mem_append.1 he with he | he
  · exact hs.printable e he
  · exact Schedule.printable_iff.2 h e he

theorem sign_of_not_printable {second : Int} (tokenId : String) (h : ¬s.Printable second) :
    sign g.algorithm g.secret (claims.payload ++ s.claims second tokenId) = .error .unprintable := by
  have ho : (Datum.dict (claims.payload ++ s.claims second tokenId)).oversized = true := by
    by_contra ho
    rw [Bool.not_eq_true, Datum.oversized_dict_eq_false_iff] at ho
    exact h (Schedule.printable_iff.1 fun e he => ho e (List.mem_append_right _ he))
  have hissuer := (issuerFits_signed claims s second tokenId).trans hs.issuer
  rw [sign, hissuer, Bool.not_true, if_neg Bool.false_ne_true, if_pos ho]

end Renewable

end Gate

end TokenGate
