/-
Taking a token back to what it was made of.

`Verified.schedule` counts the durations of a verified token from its second of issue, whatever the
kinds of its claims are.  `restore_eq_ok` says that restoring finds this schedule and the token's own
claims, and `restore_signed` that it undoes issuing: a token that was issued on a schedule, with its
second of issue, is taken back to the same claims and the same schedule.
-/
import TokenGate.Proofs.Token.Window
import TokenGate.Token.Restore

namespace TokenGate

/-! ### Durations -/

namespace Verified

/-- A claim as an integer. -/
def second? (v : Verified) (name : String) : Option Int :=
  (v.claims.get? name).bind fun d => d.toInteger.toOption

/-- The seconds from issue to expiry. -/
def lifetime? (v : Verified) : Option Int :=
  (v.second? Claim.issuedAt).bind fun issued =>
    (v.second? Claim.expires).map fun expires => expires - issued

/-- The seconds from the first valid one to issue. -/
def leeway? (v : Verified) : Option Int :=
  (v.second? Claim.issuedAt).bind fun issued =>
    (v.second? Claim.notBefore).map fun start => issued - start

/-- The schedule that a token with a second of issue is on. -/
def schedule (v : Verified) : Schedule :=
  ⟨true, v.lifetime?, v.leeway?, (v.given? Claim.tokenId).isSome⟩

variable {v : Verified} {name : String} {d : Datum}

/-- A null is no integer, so that it does not matter whether it counts as given. -/
theorem second?_of_given_none (h : v.given? name = none) : v.second? name = none := by
  rw [given?] at h
  split at h
  · next hn => rw [second?, hn, Option.bind_none]
  · next hn =>
    rw [second?, hn, Option.bind_some]
    rfl
  · cases h

theorem get?_of_given (h : v.given? name = some d) : v.claims.get? name = some d := by
  rw [given?] at h
  split at h
  · cases h
  · cases h
  · next hd =>
    cases h
    exact hd

theorem given?_of_get? (h : v.claims.get? name = some d) (hd : d ≠ .null) :
    v.given? name = some d := by
  rw [given?, h]
  split
  · next he => cases he
  · next he =>
    cases he
    exact absurd rfl hd
  · next he => exact he ▸ rfl

theorem given?_eq_none (h : v.claims.get? name = none) : v.given? name = none := by
  rw [given?, h]

end Verified

namespace Token

open Verified

theorem wholeSecond_eq_ok {d : Datum} {n : Int} (h : wholeSecond d = .ok n) :
    d.toInteger = .ok n := by
  rw [wholeSecond] at h
  split at h
  · next he =>
    cases h
    exact he
  · cases h

theorem second?_of_wholeSecond {v : Verified} {name : String} {d : Datum} {n : Int}
    (hd : v.given? name = some d) (h : wholeSecond d = .ok n) : v.second? name = some n := by
  rw [second?, get?_of_given hd, Option.bind_some, wholeSecond_eq_ok h]
  rfl

/-! ### Restoring -/

theorem restoreExpiry_eq_ok {v : Verified} {issuedAt : Datum} {expiry : Option Datum}
    (hi : v.given? Claim.issuedAt = some issuedAt)
    (h : restoreExpiry issuedAt (v.given? Claim.expires) = .ok expiry) :
    expiry = v.lifetime?.map .int := by
  rcases he : v.given? Claim.expires with - | d
  · rw [he] at h
    cases h
    rw [lifetime?, second?_of_given_none he]
    rcases v.second? Claim.issuedAt with - | n <;> rfl
  · rw [he] at h
    obtain ⟨last, hl, h⟩ := bind_eq_ok.1 h
    obtain ⟨first, hf, h⟩ := bind_eq_ok.1 h
    cases h
    rw [lifetime?, second?_of_wholeSecond hi hf, second?_of_wholeSecond he hl]
    rfl

theorem restoreLeeway_eq_ok {v : Verified} {issuedAt : Datum} {leeway : Option Datum}
    (hi : v.given? Claim.issuedAt = some issuedAt)
    (h : restoreLeeway issuedAt (v.given? Claim.notBefore) = .ok leeway) :
    leeway = v.leeway?.map .int := by
  rcases he : v.given? Claim.notBefore with - | d
  · rw [he] at h
    cases h
    rw [leeway?, second?_of_given_none he]
    rcases v.second? Claim.issuedAt with - | n <;> rfl
  · rw [he] at h
    obtain ⟨first, hf, h⟩ := bind_eq_ok.1 h
    obtain ⟨start, hs, h⟩ := bind_eq_ok.1 h
    cases h
    rw [leeway?, second?_of_wholeSecond hi hf, second?_of_wholeSecond he hs]
    rfl

/-- **Restoring finds the token's schedule and its own claims.** -/
theorem restore_eq_ok {v : Verified} {claims : ClaimSet} {policy : Policy}
    (h : restore v = .ok (claims, policy)) :
    policy = v.schedule.policy ∧ ClaimSet.ofRecord (applicationClaims v.claims) = .ok claims := by
  rw [restore] at h
  split at h
  · cases h
  next issuedAt hi =>
  obtain ⟨expiry, he, h⟩ := bind_eq_ok.1 h
  obtain ⟨leeway, hl, h⟩ := bind_eq_ok.1 h
  obtain ⟨found, hc, h⟩ := bind_eq_ok.1 h
  cases h
  rw [restoreExpiry_eq_ok hi he, restoreLeeway_eq_ok hi hl]
  exact ⟨rfl, hc⟩

theorem policy_injective {s s' : Schedule} (h : s.policy = s'.policy) : s = s' := by
  obtain ⟨i, e, l, t⟩ := s
  obtain ⟨i', e', l', t'⟩ := s'
  have hint : Function.Injective (Option.map Datum.int) :=
    Option.map_injective fun n m h => Datum.int.inj h
  obtain ⟨hi, he, hl, ht⟩ := Policy.mk.inj h
  exact (Schedule.mk.injEq ..).mpr ⟨hi, hint he, hint hl, ht⟩

/-! ### Own claims -/

theorem get?_applicationClaims {r : Record Datum} {name : String} (h : name ∉ Claim.reserved) :
    (applicationClaims r).get? name = r.get? name := by
  have hfilter := Record.get?_filter (fun name => !Claim.reserved.contains name) r name
  rwa [if_pos (by simpa using h)] at hfilter

theorem unreserved_applicationClaims (r : Record Datum) : (applicationClaims r).Unreserved := by
  intro name hname hm
  obtain ⟨⟨key, d⟩, he, rfl⟩ := List.mem_map.1 hm
  have hkey := (List.mem_filter.1 he).2
  rw [Bool.not_eq_true', List.contains_eq_mem, decide_eq_false_iff_not] at hkey
  exact hkey hname

theorem nodup_names_applicationClaims {r : Record Datum} (h : r.names.Nodup) :
    (applicationClaims r).names.Nodup :=
  (List.filter_sublist.map Prod.fst).nodup h

variable {claims : ClaimSet} {s : Schedule} {second : Int} {id : String}

theorem applicationClaims_signed (hr : claims.payload.Unreserved) :
    applicationClaims (claims.payload ++ s.claims second id) = claims.payload := by
  rw [applicationClaims, List.filter_append, List.filter_eq_self.2, List.filter_eq_nil_iff.2,
    List.append_nil]
  · rintro ⟨name, d⟩ he
    have hname := (s.names_claims_sublist second id).subset (Record.mem_names_of_mem he)
    simpa using hname
  · rintro ⟨name, d⟩ he
    have hname : name ∉ Claim.reserved := fun hm => hr name hm (Record.mem_names_of_mem he)
    simpa using hname

/-! ### Undoing issuing -/

variable {header : Record Datum}

theorem given?_eq_map_int {v : Verified} {name : String} (n? : Option Int)
    (h : v.claims.get? name = n?.map .int) : v.given? name = n?.map .int := by
  rcases n? with - | n
  · exact given?_eq_none h
  · exact given?_of_get? h (by rintro ⟨⟩)

variable (hr : claims.payload.Unreserved)

include hr

theorem isSome_given?_tokenId :
    ((Verified.mk (claims.payload ++ s.claims second id) header).given? Claim.tokenId).isSome =
      s.tokenId := by
  have hget := get?_signed_tokenId hr s second id
  rcases ht : s.tokenId with - | -
  · rw [ht] at hget
    rw [given?_eq_none hget]
    rfl
  · rw [ht] at hget
    rw [given?_of_get? hget (by rintro ⟨⟩)]
    rfl

/-- **Restoring undoes issuing**, if the token carries its second of issue. -/
theorem restore_signed (hi : s.issuedAt = true) :
    restore ⟨claims.payload ++ s.claims second id, header⟩ = .ok (claims, s.policy) := by
  have hissued : (Verified.mk (claims.payload ++ s.claims second id) header).given?
      Claim.issuedAt = some (.int second) := by
    have hget := get?_signed_issuedAt hr s second id
    rw [hi] at hget
    exact given?_eq_map_int (some second) hget
  have hexpiry : restoreExpiry (.int second)
      ((Verified.mk (claims.payload ++ s.claims second id) header).given? Claim.expires) =
        .ok (s.expiry.map .int) := by
    rw [given?_eq_map_int _ (get?_signed_expires hr s second id)]
    rcases s.expiry with - | n
    · rfl
    · exact congrArg (fun m => Except.ok (some (Datum.int m))) (add_sub_cancel_left second n)
  have hleeway : restoreLeeway (.int second)
      ((Verified.mk (claims.payload ++ s.claims second id) header).given? Claim.notBefore) =
        .ok (s.leeway.map .int) := by
    rw [given?_eq_map_int _ (get?_signed_notBefore hr s second id)]
    rcases s.leeway with - | n
    · rfl
    · exact congrArg (fun m => Except.ok (some (Datum.int m))) (sub_sub_cancel second n)
  rw [restore, hissued]
  dsimp only
  rw [hexpiry, ok_bind, hleeway, ok_bind, applicationClaims_signed hr, ClaimSet.ofRecord_payload,
    ok_bind, isSome_given?_tokenId hr, Schedule.policy, hi]
  rfl

/-- The schedule of an issued token is the one that it was issued on. -/
theorem schedule_signed (hi : s.issuedAt = true) :
    (Verified.mk (claims.payload ++ s.claims second id) header).schedule = s :=
  policy_injective (restore_eq_ok (restore_signed hr hi)).1.symm

end Token

end TokenGate
