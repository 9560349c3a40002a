/-
Who decides the reserved claims.

A payload is the claims of an application with the reserved claims of a policy written over them
(`stamp_eq_ok`).  What the policy asks for is therefore always its own, whatever the application has
put under that name.  What it does not ask for is another matter: nothing takes an application's
claim of that name out, so that it stays, and verification reads it as if it had been asked for.

`payload_reserved` is the main result.  It holds for every valid policy, also for one whose durations
were set past the setters and have a fraction: a payload has exactly the reserved claims of its policy
if and only if the application leaves those names alone that the policy does not ask for, and all such
payloads are valid at the same clocks.  `payload_forged_expiry` is a token that expires though its
policy sets no expiry.
-/
import TokenGate.Proofs.Token.Window

namespace TokenGate

/-! ### What a policy asks for -/

/-- A duration is counted from a second: there is a time exactly if there is a duration. -/
inductive Counted (move : Int → Number → Option Number) (second : Int) :
    Option Datum → Option Datum → Prop
  | unset : Counted move second none none
  | set {d : Datum} {x time : Number} (hd : d.number? = some x) (ht : move second x = some time) :
      Counted move second (some d) (some time.toDatum)

/-- The record has the reserved claims that a policy asks for at a second, and no other reserved
claims. -/
structure Policy.Decides (policy : Policy) (second : Int) (idNumber : Nat) (r : Record Datum) :
    Prop where
  issuedAt : r.get? Claim.issuedAt = if policy.issuedAt then some (.int second) else none
  expires : Counted Number.plus second policy.expiry (r.get? Claim.expires)
  notBefore : Counted Number.minus second policy.leeway (r.get? Claim.notBefore)
  tokenId : r.get? Claim.tokenId =
    if policy.tokenId then some (.text (Token.id idNumber)) else none

/-- The reserved claims that a policy asks for. -/
def Policy.asked (policy : Policy) : List String :=
  (if policy.issuedAt then [Claim.issuedAt] else []) ++
    (if policy.expiry.isSome then [Claim.expires] else []) ++
    (if policy.leeway.isSome then [Claim.notBefore] else []) ++
    (if policy.tokenId then [Claim.tokenId] else [])

theorem Policy.asked_sublist (policy : Policy) : policy.asked.Sublist Claim.reserved := by
  have hone : ∀ (asked : Bool) (name : String),
      (if asked then [name] else []).Sublist [name] := by
    rintro (- | -) name
    · exact List.nil_sublist _
    · exact List.Sublist.refl _
  exact (((hone _ _).append (hone _ _)).append (hone _ _)).append (hone _ _)

section Counting

variable {move : Int → Number → Option Number} {second : Int} {duration time time' : Option Datum}

theorem Counted.unique (h : Counted move second duration time)
    (h' : Counted move second duration time') : time = time' := by
  cases h with
  | unset =>
    cases h'
    rfl
  | set hd ht =>
    cases h' with
    | set hd' ht' =>
      cases hd.symm.trans hd'
      cases ht.symm.trans ht'
      rfl

/-- Only a time can be counted that belongs to a duration. -/
theorem Counted.isSome_eq (h : Counted move second duration time) :
    time.isSome = duration.isSome := by
  cases h with
  | unset => rfl
  | set => rfl

end Counting

namespace Policy.Decides

variable {policy : Policy} {second : Int} {idNumber idNumber' : Nat} {r r' : Record Datum}

/-- The times do not depend on what else there is. -/
theorem get?_time (h : policy.Decides second idNumber r) (h' : policy.Decides second idNumber' r')
    (claim : TimeClaim) : r.get? claim.name = r'.get? claim.name := by
  cases claim with
  | issuedAt => exact h.issuedAt.trans h'.issuedAt.symm
  | notBefore => exact h.notBefore.unique h'.notBefore
  | expires => exact h.expires.unique h'.expires

/-- Only the reserved names matter. -/
theorem congr (h : policy.Decides second idNumber r)
    (hr : ∀ name ∈ Claim.reserved, r'.get? name = r.get? name) :
    policy.Decides second idNumber r' where
  issuedAt := (hr _ (by decide)).trans h.issuedAt
  expires := by
    rw [hr _ (by decide)]
    exact h.expires
  notBefore := by
    rw [hr _ (by decide)]
    exact h.notBefore
  tokenId := (hr _ (by decide)).trans h.tokenId

/-- What is asked for is there, and no other reserved claim. -/
theorem isSome_get?_iff (h : policy.Decides second idNumber r) {name : String}
    (hname : name ∈ Claim.reserved) : (r.get? name).isSome = true ↔ name ∈ policy.asked := by
  simp only [Claim.reserved, List.mem_cons, List.not_mem_nil, or_false] at hname
  rcases hname with rfl | rfl | rfl | rfl
  · rw [h.issuedAt, Policy.asked]
    cases policy.issuedAt <;> simp [Claim.issuedAt, Claim.expires, Claim.notBefore, Claim.tokenId]
  · rw [h.expires.isSome_eq, Policy.asked]
    cases policy.expiry <;> simp [Claim.issuedAt, Claim.expires, Claim.notBefore, Claim.tokenId]
  · rw [h.notBefore.isSome_eq, Policy.asked]
    cases policy.leeway <;> simp [Claim.issuedAt, Claim.expires, Claim.notBefore, Claim.tokenId]
  · rw [h.tokenId, Policy.asked]
    cases policy.tokenId <;> simp [Claim.issuedAt, Claim.expires, Claim.notBefore, Claim.tokenId]

end Policy.Decides

namespace Token

variable {policy : Policy} {claims : ClaimSet} {clock : Number} {second : Int} {nextId : Nat}
  {r p : Record Datum}

/-! ### Writing it -/

theorem setTime_eq_ok {move : Int → Number → Option Number} {name : String}
    {duration : Option Datum} (h : setTime move name second duration r = .ok p) :
    ∃ time?, Counted move second duration time? ∧ p = r.overwrite (Record.given name time?) := by
  unfold setTime at h
  split at h
  · cases h
    exact ⟨none, .unset, rfl⟩
  split at h
  · cases h
  next x hx =>
  split at h
  · next time ht =>
    cases h
    exact ⟨some time.toDatum, .set hx ht, rfl⟩
  · cases h

/-- **What a policy asks for is written over what is there.** -/
theorem stamp_eq_ok (h : stamp policy second nextId r = .ok p) :
    ∃ own, policy.Decides second nextId own ∧ own.names.Sublist Claim.reserved ∧
      p = r.overwrite own := by
  obtain ⟨expiring, he, h⟩ := bind_eq_ok.1 h
  obtain ⟨delayed, hn, h⟩ := bind_eq_ok.1 h
  obtain ⟨expires?, hexpires, rfl⟩ := setTime_eq_ok he
  obtain ⟨notBefore?, hnotBefore, rfl⟩ := setTime_eq_ok hn
  refine ⟨Claim.given _ expires? notBefore? _, ⟨Claim.get?_given_issuedAt _ _ _ _, ?_, ?_,
    Claim.get?_given_tokenId _ _ _ _⟩, Claim.names_given_sublist _ _ _ _, ?_⟩
  · rwa [Claim.get?_given_expires]
  · rwa [Claim.get?_given_notBefore]
  · rw [← Except.ok.inj h, set_asked, set_asked, Claim.given, Record.overwrite_append,
      Record.overwrite_append, Record.overwrite_append]

/-! ### Payloads -/

variable {algorithm : Algorithm} {secret : Datum}

theorem issue_of_payload (h : payload claims policy clock nextId = .ok p) :
    (issue algorithm claims policy secret clock nextId).outcome = sign algorithm secret p := by
  rw [issue, h]

/-- A duration that is not negative is counted, unless it has a fraction and the second is beyond the
range of such numbers. -/
theorem exists_setTime {move : Int → Number → Option Number} {duration : Option Datum}
    {which : Duration} (hmove : ∀ n, ∃ time, move second (.int n) = some time)
    (hd : Policy.checkDuration which duration = .ok ()) (name : String) (r : Record Datum) :
    (∃ p, setTime move name second duration r = .ok p) ∨
      setTime move name second duration r = .error .tooLarge ∧ ∃ x, duration = some (.float x) := by
  rcases duration with - | d
  · exact .inl ⟨r, rfl⟩
  unfold Policy.checkDuration at hd
  unfold setTime
  dsimp only at hd ⊢
  rcases hx : d.number? with - | x
  · rw [hx] at hd
    cases hd
  dsimp only
  rcases ht : move second x with - | time
  · refine .inr ⟨rfl, ?_⟩
    rcases x with n | x
    · obtain ⟨time, htime⟩ := hmove n
      cases ht.symm.trans htime
    · cases d with
      | float y => exact ⟨y, rfl⟩
      | _ => cases hx
  · exact .inl ⟨_, rfl⟩

theorem validate_eq_ok (hv : policy.validate = .ok ()) :
    Policy.checkDuration .expiry policy.expiry = .ok () ∧
      Policy.checkDuration .leeway policy.leeway = .ok () := by
  rw [Policy.validate] at hv
  split at hv
  · cases hv
  · next he => exact ⟨he, hv⟩

theorem exists_stamp (hv : policy.validate = .ok ()) (second : Int) (nextId : Nat)
    (r : Record Datum) :
    (∃ p, stamp policy second nextId r = .ok p) ∨
      stamp policy second nextId r = .error .tooLarge ∧
        ∃ x, policy.expiry = some (.float x) ∨ policy.leeway = some (.float x) := by
  obtain ⟨hexpiry, hleeway⟩ := validate_eq_ok hv
  rw [stamp]
  have hplus : ∀ n, ∃ time, Number.plus second (.int n) = some time := fun n => ⟨_, rfl⟩
  have hminus : ∀ n, ∃ time, Number.minus second (.int n) = some time := fun n => ⟨_, rfl⟩
  rcases exists_setTime hplus hexpiry Claim.expires
    (if policy.issuedAt then r.set Claim.issuedAt (.int second) else r)
    with ⟨expiring, he⟩ | ⟨he, x, hx⟩
  · rw [he, ok_bind]
    rcases exists_setTime hminus hleeway Claim.notBefore expiring
      with ⟨delayed, hd⟩ | ⟨hd, x, hx⟩
    · rw [hd, ok_bind]
      exact .inl ⟨_, rfl⟩
    · rw [hd, error_bind]
      exact .inr ⟨rfl, x, .inr hx⟩
  · rw [he, error_bind]
    exact .inr ⟨rfl, x, .inl hx⟩

theorem checkTime_congr {t : Number} {claim : TimeClaim}
    (h : r.get? claim.name = p.get? claim.name) : checkTime t r claim = checkTime t p claim := by
  rw [checkTime, checkTime, h]

/-- **A payload has the reserved claims of its policy exactly if the application leaves alone what the
policy does not ask for.**  What the policy asks for is its own in any case, no other claim is touched,
and payloads with the reserved claims of one policy stand alike to every clock. -/
theorem payload_reserved (hu : claims.contains Claim.userId = true)
    (hr : claims.contains Claim.roles = true) (hv : policy.validate = .ok ())
    (hc : Token.second clock = .ok second) (nextId : Nat) :
    ((∃ p, payload claims policy clock nextId = .ok p) ∨
      payload claims policy clock nextId = .error .tooLarge ∧
        ∃ x, policy.expiry = some (.float x) ∨ policy.leeway = some (.float x)) ∧
    ∀ p, payload claims policy clock nextId = .ok p →
      (∀ name ∉ Claim.reserved, p.get? name = claims.payload.get? name) ∧
      (∃ own, policy.Decides second nextId own ∧
        ∀ name ∈ policy.asked, p.get? name = own.get? name) ∧
      (policy.Decides second nextId p ↔
        ∀ name ∈ Claim.reserved, claims.contains name = true → name ∈ policy.asked) ∧
      (policy.Decides second nextId p →
        ∀ claims' nextId' p', payload claims' policy clock nextId' = .ok p' →
          policy.Decides second nextId' p' →
          ∀ t claim, checkTime t p' claim = checkTime t p claim) := by
  rw [payload_eq_stamp hu hr hv hc]
  refine ⟨exists_stamp hv second nextId _, fun p hp => ?_⟩
  obtain ⟨own, hown, hnames, rfl⟩ := stamp_eq_ok hp
  have hget := Record.get?_overwrite claims.payload (hnames.nodup (by decide))
  have habsent : ∀ name ∉ Claim.reserved, own.get? name = none := fun name hname =>
    Record.get?_eq_none_iff.2 fun hm => hname (hnames.subset hm)
  have hasked : ∀ name ∈ Claim.reserved, name ∈ policy.asked →
      (claims.payload.overwrite own).get? name = own.get? name := by
    intro name hname hmem
    obtain ⟨d, hd⟩ := Option.isSome_iff_exists.1 ((hown.isSome_get?_iff hname).2 hmem)
    rw [hget, hd, Option.some_or]
  refine ⟨fun name hname => ?_, ⟨own, hown, fun name hname => ?_⟩, ⟨fun hp name hname hin => ?_,
    fun hleft => hown.congr fun name hname => ?_⟩, fun hp _ _ _ _ hp' t claim => ?_⟩
  · rw [hget, habsent name hname, Option.none_or]
  · exact hasked name (policy.asked_sublist.subset hname) hname
  · -- the application's claim is there, so the policy has asked for it
    refine (hp.isSome_get?_iff hname).1 ?_
    rw [hget, Option.isSome_or, ClaimSet.get?_payload, Option.isSome_map]
    exact Bool.or_eq_true_iff.2 (.inr hin)
  · by_cases hin : claims.contains name = true
    · exact hasked name hname (hleft name hname hin)
    · have hnone : claims.get? name = none := Option.not_isSome_iff_eq_none.1 hin
      rw [hget, ClaimSet.get?_payload, hnone, Option.map_none, Option.or_none]
  · exact checkTime_congr (hp'.get?_time hp claim)

/-- The guest's claims are none of the reserved ones, so that the policy decides them all. -/
theorem payload_reserved_tenSeconds :
    guestClaims.contains Claim.userId = true ∧ guestClaims.contains Claim.roles = true ∧
      tenSeconds.policy.validate = .ok () ∧ Token.second (.int 100) = .ok 100 ∧
      ∃ p, payload guestClaims tenSeconds.policy (.int 100) 0 = .ok p ∧
        tenSeconds.policy.Decides 100 0 p := by
  have hu : guestClaims.contains Claim.userId = true := rfl
  have hr : guestClaims.contains Claim.roles = true := rfl
  have hv := validate_schedule.2 forward_tenSeconds
  have hc : Token.second (.int 100) = .ok 100 := rfl
  obtain ⟨hmade, hthen⟩ := payload_reserved hu hr hv hc 0
  refine ⟨hu, hr, hv, hc, ?_⟩
  rcases hmade with ⟨p, hp⟩ | ⟨-, x, hx | hx⟩
  · obtain ⟨-, -, hdecides, -⟩ := hthen p hp
    refine ⟨p, hp, hdecides.2 fun name hname hin => ?_⟩
    exact absurd (ClaimSet.names_payload _ ▸ ClaimSet.contains_iff.1 hin)
      (unreserved_guestClaims name hname)
  · cases hx
  · cases hx

/-! ### A claim that was not asked for -/

/-- Claims with an expiry of their own. -/
def expiringClaims : ClaimSet where
  entries := [(Claim.userId, .text "guest"), (Claim.roles, .texts ["reader"]),
    (Claim.expires, .int 5)]
  distinct := by decide
  named := by decide

/-- What is signed for them if the policy sets no expiry. -/
def expiringPayload : Record Datum := expiringClaims.payload ++ [(Claim.issuedAt, .int 0)]

/-- No expiry. -/
def unending : Schedule := ⟨true, none, none, false⟩

theorem sign_expiringPayload : ∃ token, sign .hs256 (.text "k") expiringPayload = .ok token := by
  have ho : (Datum.dict expiringPayload).oversized = false := by
    refine Datum.oversized_dict_eq_false_iff.2 ?_
    refine List.forall_mem_cons.2 ⟨rfl, List.forall_mem_cons.2 ⟨rfl, ?_⟩⟩
    exact List.forall_mem_cons.2 ⟨Datum.unprintable_of_lt (by decide),
      List.forall_mem_singleton.2 (Datum.unprintable_of_lt (by decide))⟩
  exact ⟨_, sign_of_fits rfl ho accept_letter⟩

theorem flat_expiringPayload : ∀ e ∈ expiringPayload, e.2.Flat :=
  List.forall_mem_cons.2 ⟨.text _, List.forall_mem_cons.2 ⟨.texts ["reader"],
    List.forall_mem_cons.2 ⟨.int _, List.forall_mem_singleton.2 (.int _)⟩⟩⟩

/-- Without an expiry the guest's tokens are accepted from the second of issue on. -/
theorem verify_unending {second : Int} {tokenId token : String} (hle : 0 ≤ second)
    (h : sign .hs256 (.text "k") (guestClaims.payload ++ unending.claims 0 tokenId) = .ok token) :
    ∃ v, verify .hs256 (.text "k") (.int second) (.text token) = .ok v := by
  have hforward : unending.Forward := by
    refine ⟨?_, ?_⟩ <;> rintro n ⟨⟩
  have hended : ¬unending.Ended 0 (second : ℚ) := by
    rintro ⟨n, ⟨⟩, -⟩
  exact ⟨_, verify_open unreserved_guestClaims rfl floatFree_guestClaims subjectFits_guestClaims h
    (hforward.started (by exact_mod_cast hle)) hended⟩

/-- **An application can forge an expiry.**  The usual policy sets none, and the guest's tokens do not
expire; but with a claim of that name they do. -/
theorem payload_forged_expiry :
    expiringClaims.contains Claim.userId = true ∧ expiringClaims.contains Claim.roles = true ∧
      Policy.validate {} = .ok () ∧
      (∃ p, payload expiringClaims {} (.int 0) 1 = .ok p ∧
        p.get? Claim.expires = some (.int 5) ∧ ¬Policy.Decides {} 0 1 p) ∧
      (∃ token, (issue .hs256 expiringClaims {} (.text "k") (.int 0) 1).outcome = .ok token ∧
        verify .hs256 (.text "k") (.int 5) (.text token) = .error (.defect .expired)) ∧
      ∃ token v, (issue .hs256 guestClaims {} (.text "k") (.int 0) 1).outcome = .ok token ∧
        verify .hs256 (.text "k") (.int 5) (.text token) = .ok v := by
  refine ⟨rfl, rfl, rfl, ⟨expiringPayload, rfl, rfl, fun h => ?_⟩, ?_, ?_⟩
  · -- a policy without an expiry decides that there is none
    have hcounted : Counted Number.plus 0 none (some (.int 5)) := h.expires
    cases hcounted
  · obtain ⟨token, hsign⟩ := sign_expiringPayload
    refine ⟨token, (issue_of_payload (p := expiringPayload) rfl).trans hsign, ?_⟩
    rw [verify_sign (by decide) flat_expiringPayload hsign]
    rfl
  · have ho : (Datum.dict (guestClaims.payload ++ unending.claims 0 (id 1))).oversized = false := by
      refine Datum.oversized_dict_eq_false_iff.2 ?_
      refine List.forall_mem_cons.2 ⟨rfl, List.forall_mem_cons.2 ⟨rfl, ?_⟩⟩
      exact List.forall_mem_singleton.2 (Datum.unprintable_of_lt (by decide))
    have hsign : ∃ token,
        sign .hs256 (.text "k") (guestClaims.payload ++ unending.claims 0 (id 1)) = .ok token :=
      ⟨_, sign_of_fits rfl ho accept_letter⟩
    obtain ⟨token, hsign⟩ := hsign
    obtain ⟨v, hv⟩ := verify_unending (show (0 : Int) ≤ 5 by decide) hsign
    have hpayload : payload guestClaims {} (.int 0) 1 =
        .ok (guestClaims.payload ++ unending.claims 0 (id 1)) := rfl
    exact ⟨token, v, (issue_of_payload hpayload).trans hsign, hv⟩

end Token

end TokenGate
