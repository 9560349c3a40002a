/-
The time at which an issued token is valid.

A `Schedule` is a policy whose durations are integers.  It decides the reserved claims of a token
(`Schedule.claims`, `payload_schedule`) and with them the window of clocks at which the token is
verified: from the second of issue and the leeway before it on (`Started`), and up to the expiry
(`Ended`).  `verify_issue` is the main result: a token that was issued is verified exactly in its
window, for the very claims that it was issued for, and outside the window it is premature or
expired.

Durations are not negative, so that the window's end never lies before its start and a token is
never both premature and expired.  Names and values of claims are texts of characters, without single
halves of surrogate pairs (`Datum`).
-/
import TokenGate.Proofs.ClaimSet
import TokenGate.Proofs.Number.Exact
import TokenGate.Proofs.Token.RoundTrip

namespace TokenGate

/-- The claims hold no floating-point number. -/
def ClaimSet.FloatFree (s : ClaimSet) : Prop := ∀ e ∈ s.entries, ∀ x, e.2 ≠ .float x

theorem ClaimSet.FloatFree.flat {s : ClaimSet} (h : s.FloatFree) : ∀ e ∈ s.payload, e.2.Flat := by
  intro e he
  obtain ⟨⟨name, v⟩, hv, rfl⟩ := List.mem_map.1 he
  cases v with
  | text t => exact .text t
  | bool b => exact .bool b
  | int n => exact .int n
  | float x => exact absurd rfl (h _ hv x)
  | texts ss => exact .texts ss

/-! ### Reserved claims that may be missing -/

namespace Claim

variable (issuedAt? expires? notBefore? tokenId? : Option Datum)

/-- The reserved claims that have a value. -/
def given : Record Datum :=
  Record.given issuedAt issuedAt? ++ Record.given expires expires? ++
    Record.given notBefore notBefore? ++ Record.given tokenId tokenId?

theorem names_given_sublist :
    (given issuedAt? expires? notBefore? tokenId?).names.Sublist reserved := by
  rw [given, Record.names_append, Record.names_append, Record.names_append]
  exact (((Record.names_given_sublist _ _).append (Record.names_given_sublist _ _)).append
    (Record.names_given_sublist _ _)).append (Record.names_given_sublist _ _)

theorem get?_given_issuedAt :
    (given issuedAt? expires? notBefore? tokenId?).get? issuedAt = issuedAt? := by
  simp [given, Record.get?_append, Record.get?_given, issuedAt, expires, notBefore, tokenId]

theorem get?_given_expires :
    (given issuedAt? expires? notBefore? tokenId?).get? expires = expires? := by
  simp [given, Record.get?_append, Record.get?_given, issuedAt, expires, notBefore, tokenId]

theorem get?_given_notBefore :
    (given issuedAt? expires? notBefore? tokenId?).get? notBefore = notBefore? := by
  simp [given, Record.get?_append, Record.get?_given, issuedAt, expires, notBefore, tokenId]

theorem get?_given_tokenId :
    (given issuedAt? expires? notBefore? tokenId?).get? tokenId = tokenId? := by
  simp [given, Record.get?_append, Record.get?_given, issuedAt, expires, notBefore, tokenId]

end Claim

/-- A policy with durations in whole seconds. -/
structure Schedule where
  issuedAt : Bool
  expiry : Option Int
  leeway : Option Int
  tokenId : Bool

namespace Schedule

/-- The policy that a schedule is. -/
def policy (s : Schedule) : Policy := ⟨s.issuedAt, s.expiry.map .int, s.leeway.map .int, s.tokenId⟩

/-- The reserved claims of a token that is issued at a second, with an id if one is asked for. -/
def claims (s : Schedule) (second : Int) (id : String) : Record Datum :=
  Record.given Claim.issuedAt (if s.issuedAt then some (.int second) else none) ++
    Record.given Claim.expires (s.expiry.map fun n => .int (second + n)) ++
    Record.given Claim.notBefore (s.leeway.map fun n => .int (second - n)) ++
    Record.given Claim.tokenId (if s.tokenId then some (.text id) else none)

/-- No duration is negative. -/
def Forward (s : Schedule) : Prop :=
  (∀ n, s.expiry = some n → 0 ≤ n) ∧ ∀ n, s.leeway = some n → 0 ≤ n

/-- The clock is not before any second at which the token starts to be valid. -/
def Started (s : Schedule) (second : Int) (now : ℚ) : Prop :=
  (s.issuedAt = true → second ≤ now) ∧ ∀ n, s.leeway = some n → ((second - n : Int) : ℚ) ≤ now

/-- The clock has come to the second at which the token expires. -/
def Ended (s : Schedule) (second : Int) (now : ℚ) : Prop :=
  ∃ n, s.expiry = some n ∧ ((second + n : Int) : ℚ) ≤ now

/-- Without time to last, a token has expired from its second on. -/
theorem ended_iff_of_zero {s : Schedule} {second : Int} {now : ℚ} (he : s.expiry = some 0) :
    s.Ended second now ↔ (second : ℚ) ≤ now := by
  simp [Ended, he]

section Forward

variable {s : Schedule} {second : Int} {now : ℚ} (hs : s.Forward)

include hs

/-- From the second of issue on, a token has started to be valid. -/
theorem Forward.started (h : (second : ℚ) ≤ now) : s.Started second now := by
  refine ⟨fun _ => h, fun n hn => le_trans ?_ h⟩
  have hn0 := hs.2 n hn
  exact_mod_cast (by omega : second - n ≤ second)

/-- The end of a window does not lie before its start. -/
theorem Ended.started (h : s.Ended second now) : s.Started second now := by
  obtain ⟨e, he, hle⟩ := h
  have h0 := hs.1 e he
  apply hs.started
  refine le_trans ?_ hle
  exact_mod_cast Int.le_add_of_nonneg_right h0

end Forward

variable (s : Schedule) (second : Int) (id : String)

/-! ### The reserved claims -/

theorem names_claims_sublist : (s.claims second id).names.Sublist Claim.reserved :=
  Claim.names_given_sublist _ _ _ _

theorem nodup_names_claims : (s.claims second id).names.Nodup :=
  (s.names_claims_sublist second id).nodup (by decide)

theorem flat_claims : ∀ e ∈ s.claims second id, e.2.Flat := by
  have htime : ∀ {name : String} {value? : Option Int} {f : Int → Int},
      ∀ e ∈ Record.given name (value?.map fun n => Datum.int (f n)), e.2.Flat := by
    intro name value? f e he
    obtain ⟨n, -, hn⟩ := Option.map_eq_some_iff.1 (Record.mem_given he)
    rw [← hn]
    exact .int _
  intro e he
  rw [claims, List.mem_append, List.mem_append, List.mem_append] at he
  rcases he with ((he | he) | he) | he
  · have hv := Record.mem_given he
    split at hv
    · rw [← Option.some.inj hv]
      exact .int _
    · cases hv
  · exact htime e he
  · exact htime e he
  · have hv := Record.mem_given he
    split at hv
    · rw [← Option.some.inj hv]
      exact .text _
    · cases hv

theorem get?_claims_issuedAt : (s.claims second id).get? Claim.issuedAt =
    if s.issuedAt then some (.int second) else none :=
  Claim.get?_given_issuedAt _ _ _ _

theorem get?_claims_expires : (s.claims second id).get? Claim.expires =
    s.expiry.map fun n => .int (second + n) :=
  Claim.get?_given_expires _ _ _ _

theorem get?_claims_notBefore : (s.claims second id).get? Claim.notBefore =
    s.leeway.map fun n => .int (second - n) :=
  Claim.get?_given_notBefore _ _ _ _

theorem get?_claims_tokenId : (s.claims second id).get? Claim.tokenId =
    if s.tokenId then some (.text id) else none :=
  Claim.get?_given_tokenId _ _ _ _

theorem get?_claims_of_notMem {name : String} (h : name ∉ Claim.reserved) :
    (s.claims second id).get? name = none :=
  Record.get?_eq_none_iff.2 fun hm => h ((s.names_claims_sublist second id).subset hm)

end Schedule

/-! ### Making the payload -/

/-- The record has no claim that a policy decides. -/
def Record.Unreserved (r : Record Datum) : Prop := ∀ name ∈ Claim.reserved, name ∉ r.names

namespace Token

variable {s : Schedule} {r : Record Datum}

theorem setTime_int {move : Int → Number → Option Number} {name : String} {second : Int}
    (duration : Option Int) {f : Int → Int}
    (hmove : ∀ n, move second (.int n) = some (.int (f n))) :
    setTime move name second (duration.map .int) r =
      .ok (r.overwrite (Record.given name (duration.map fun n => .int (f n)))) := by
  rcases duration with - | n
  · rfl
  · simp only [Option.map_some, setTime, Datum.number?, hmove, Number.toDatum]
    rfl

theorem set_asked {name : String} {value : Datum} (asked : Bool) :
    (if asked then r.set name value else r) =
      r.overwrite (Record.given name (if asked then some value else none)) := by
  cases asked with
  | false => rfl
  | true => rfl

/-- A schedule writes its claims over what is there. -/
theorem stamp_overwrite (s : Schedule) (r : Record Datum) (second : Int) (idNumber : Nat) :
    stamp s.policy second idNumber r = .ok (r.overwrite (s.claims second (id idNumber))) := by
  rw [stamp, Schedule.policy]
  dsimp only
  rw [set_asked, setTime_int s.expiry (fun n => rfl), ok_bind, setTime_int s.leeway (fun n => rfl),
    ok_bind, set_asked, Schedule.claims, Record.overwrite_append, Record.overwrite_append,
    Record.overwrite_append]
  rfl

/-- A schedule appends its claims to those that are not reserved. -/
theorem stamp_schedule (hr : r.Unreserved) (second : Int) (idNumber : Nat) :
    stamp s.policy second idNumber r = .ok (r ++ s.claims second (id idNumber)) := by
  rw [stamp_overwrite, Record.overwrite_of_notMem (s.nodup_names_claims _ _)]
  exact fun name hname => hr name ((s.names_claims_sublist _ _).subset hname)

theorem checkDuration_int (duration : Duration) (n? : Option Int) :
    Policy.checkDuration duration (n?.map .int) = .ok () ↔ ∀ n, n? = some n → 0 ≤ n := by
  rcases n? with - | n
  · simp [Policy.checkDuration]
  · simp only [Option.map_some, Policy.checkDuration, Datum.number?, Number.isNegative,
      decide_eq_true_eq, Option.some.injEq, forall_eq']
    split
    · next h => exact ⟨fun he => (nomatch he), fun hn => absurd h (Int.not_lt.2 hn)⟩
    · next h => exact ⟨fun _ => Int.not_lt.1 h, fun _ => rfl⟩

/-- A schedule is valid if no duration is negative. -/
theorem validate_schedule : s.policy.validate = .ok () ↔ s.Forward := by
  have hexpiry := checkDuration_int .expiry s.expiry
  have hleeway := checkDuration_int .leeway s.leeway
  rw [Policy.validate, Schedule.policy]
  dsimp only
  split
  · next he =>
    rw [he] at hexpiry
    exact ⟨fun h => (nomatch h), fun h => (nomatch hexpiry.2 h.1)⟩
  · next he => exact ⟨fun h => ⟨hexpiry.1 he, hleeway.1 h⟩, fun h => hleeway.2 h.2⟩

variable {algorithm : Algorithm} {claims : ClaimSet} {secret : Datum} {clock : Number}
  {second : Int} {nextId : Nat} {token : String}

theorem second_of_rational {issued : ℚ} (h : clock.rational? = some issued) (h0 : 0 ≤ issued) :
    Token.second clock = .ok ⌊issued⌋ := by
  rw [Token.second, Number.toInteger_of_rational h h0]

theorem payload_eq_stamp {policy : Policy} (hu : claims.contains Claim.userId = true)
    (hroles : claims.contains Claim.roles = true) (hv : policy.validate = .ok ())
    (hc : Token.second clock = .ok second) :
    payload claims policy clock nextId = stamp policy second nextId claims.payload := by
  rw [payload, hu, hroles, hv, hc]
  rfl

/-- A payload is made of claims that are complete, under a valid policy, at a second. -/
theorem payload_eq_ok {policy : Policy} {p : Record Datum}
    (h : payload claims policy clock nextId = .ok p) :
    claims.contains Claim.userId = true ∧ claims.contains Claim.roles = true ∧
      policy.validate = .ok () ∧ ∃ n, Token.second clock = .ok n ∧
      stamp policy n nextId claims.payload = .ok p := by
  rw [payload] at h
  split at h
  · next hm =>
    rw [Bool.and_eq_true] at hm
    obtain ⟨⟨⟩, hv, h⟩ := bind_eq_ok.1 h
    obtain ⟨n, hn, h⟩ := bind_eq_ok.1 h
    exact ⟨hm.1, hm.2, hv, n, hn, h⟩
  · cases h

/-- The payload of a token on a schedule. -/
theorem payload_schedule (hc : Token.second clock = .ok second) (hr : claims.payload.Unreserved)
    {p : Record Datum} : payload claims s.policy clock nextId = .ok p ↔
      claims.contains Claim.userId = true ∧ claims.contains Claim.roles = true ∧ s.Forward ∧
        p = claims.payload ++ s.claims second (id nextId) := by
  constructor
  · intro h
    obtain ⟨hu, hroles, hv, n, hn, hp⟩ := payload_eq_ok h
    cases hc.symm.trans hn
    rw [stamp_schedule hr] at hp
    exact ⟨hu, hroles, validate_schedule.1 hv, (Except.ok.inj hp).symm⟩
  · rintro ⟨hu, hroles, hs, rfl⟩
    rw [payload_eq_stamp hu hroles (validate_schedule.2 hs) hc]
    exact stamp_schedule hr second nextId

/-- What is signed when a token is issued on a schedule. -/
theorem issue_schedule (hc : Token.second clock = .ok second) (hr : claims.payload.Unreserved)
    (hu : claims.contains Claim.userId = true) (hroles : claims.contains Claim.roles = true)
    (hs : s.Forward) : issue algorithm claims s.policy secret clock nextId =
      ⟨sign algorithm secret (claims.payload ++ s.claims second (id nextId)),
        if s.tokenId then nextId + 1 else nextId⟩ := by
  rw [issue, (payload_schedule hc hr).2 ⟨hu, hroles, hs, rfl⟩]
  rfl

/-- What can be signed is issued. -/
theorem issue_of_sign (hc : Token.second clock = .ok second) (hr : claims.payload.Unreserved)
    (hu : claims.contains Claim.userId = true) (hroles : claims.contains Claim.roles = true)
    (hs : s.Forward)
    (h : sign algorithm secret (claims.payload ++ s.claims second (id nextId)) = .ok token) :
    (issue algorithm claims s.policy secret clock nextId).outcome = .ok token := by
  rw [issue_schedule hc hr hu hroles hs]
  exact h

theorem issue_eq_ok (hc : Token.second clock = .ok second) (hr : claims.payload.Unreserved)
    (h : (issue algorithm claims s.policy secret clock nextId).outcome = .ok token) :
    claims.contains Claim.userId = true ∧ claims.contains Claim.roles = true ∧ s.Forward ∧
      sign algorithm secret (claims.payload ++ s.claims second (id nextId)) = .ok token := by
  rw [issue] at h
  split at h
  · cases h
  · next p hp =>
    obtain ⟨hu, hroles, hs, rfl⟩ := (payload_schedule hc hr).1 hp
    exact ⟨hu, hroles, hs, h⟩

/-! ### Holding the claims against the clock -/

section Checking

variable {r : Record Datum} {claim : TimeClaim} {n? : Option Int} {t : Number} {now : ℚ}

theorem checkTime_given (claim : TimeClaim) (n? : Option Int)
    (h : r.get? claim.name = n?.map .int) :
    checkTime t r claim = n?.elim (.ok ()) (checkSecond t claim) := by
  rw [checkTime, h]
  rcases n? with - | n
  · rfl
  · rfl

/-- A second that is not after the clock is no reason to call a token early. -/
theorem checkTime_started (hne : claim ≠ .expires) (ht : t.rational? = some now)
    (h : r.get? claim.name = n?.map .int) (hn : ∀ n, n? = some n → (n : ℚ) ≤ now) :
    checkTime t r claim = .ok () := by
  rw [checkTime_given claim n? h]
  rcases n? with - | n
  · rfl
  · have hb : ¬t.isBefore n = true := fun hb =>
      absurd (hn n rfl) (not_le.2 ((Number.isBefore_iff_lt ht n).1 hb))
    cases claim
    case expires => exact absurd rfl hne
    all_goals exact if_neg hb

theorem checkTime_early (hne : claim ≠ .expires) (ht : t.rational? = some now) {n : Int}
    (h : r.get? claim.name = some (.int n)) (hn : now < n) :
    checkTime t r claim = .error (.early claim) := by
  rw [checkTime_given claim (some n) h]
  have hb := (Number.isBefore_iff_lt ht n).2 hn
  cases claim
  case expires => exact absurd rfl hne
  all_goals exact if_pos hb

/-- A second that the clock has not come to is no reason to call a token expired. -/
theorem checkTime_not_ended (ht : t.rational? = some now) (h : r.get? Claim.expires = n?.map .int)
    (hn : ∀ n, n? = some n → now < n) : checkTime t r .expires = .ok () := by
  rw [checkTime_given .expires n? h]
  rcases n? with - | n
  · rfl
  · exact if_neg fun hr => absurd (hn n rfl) (not_lt.2 ((Number.reached_iff_le ht n).1 hr))

theorem checkTime_ended (ht : t.rational? = some now) {n : Int}
    (h : r.get? Claim.expires = some (.int n)) (hn : n ≤ now) :
    checkTime t r .expires = .error .expired := by
  rw [checkTime_given .expires (some n) h]
  exact if_pos ((Number.reached_iff_le ht n).2 hn)

theorem checkText_of_text {name : String} {d : Defect}
    (h : ∀ v, r.get? name = some v → ∃ text, v = .text text) : checkText r name d = .ok () := by
  rw [checkText]
  rcases hv : r.get? name with - | v
  · rfl
  · obtain ⟨text, rfl⟩ := h v hv
    rfl

end Checking

/-- A subject, if there is one, is a text. -/
def SubjectFits (claims : ClaimSet) : Prop :=
  ∀ v, claims.get? Claim.subject = some v → ∃ text, v = .text text

theorem flat_signed (hf : claims.FloatFree) (second : Int) (id : String) :
    ∀ e ∈ claims.payload ++ s.claims second id, e.2.Flat := by
  intro e he
  rcases List.mem_append.1 he with he | he
  · exact hf.flat e he
  · exact s.flat_claims second id e he

/-- Signing changes no claim but the four of its own. -/
theorem get?_signed_of_notMem {name : String} (h : name ∉ Claim.reserved) (second : Int)
    (id : String) :
    Record.get? (claims.payload ++ s.claims second id) name = claims.payload.get? name := by
  rw [Record.get?_append, Schedule.get?_claims_of_notMem _ _ _ h, Option.or_none]

section Verdict

variable {t : Number} {now : ℚ} {id : String} (hr : claims.payload.Unreserved)
  (ht : t.rational? = some now)

include hr

theorem get?_signed {name : String} (h : name ∈ Claim.reserved) :
    Record.get? (claims.payload ++ s.claims second id) name = (s.claims second id).get? name :=
  Record.get?_append_right (hr name h)

theorem get?_signed_issuedAt (s : Schedule) (second : Int) (id : String) :
    Record.get? (claims.payload ++ s.claims second id) Claim.issuedAt =
      (if s.issuedAt then some second else none).map .int := by
  rw [get?_signed hr (by decide), Schedule.get?_claims_issuedAt]
  split
  · rfl
  · rfl

theorem get?_signed_notBefore (s : Schedule) (second : Int) (id : String) :
    Record.get? (claims.payload ++ s.claims second id) Claim.notBefore =
      (s.leeway.map (second - ·)).map .int := by
  rw [get?_signed hr (by decide), Schedule.get?_claims_notBefore, Option.map_map]
  rfl

theorem get?_signed_expires (s : Schedule) (second : Int) (id : String) :
    Record.get? (claims.payload ++ s.claims second id) Claim.expires =
      (s.expiry.map (second + ·)).map .int := by
  rw [get?_signed hr (by decide), Schedule.get?_claims_expires, Option.map_map]
  rfl

theorem get?_signed_tokenId (s : Schedule) (second : Int) (id : String) :
    Record.get? (claims.payload ++ s.claims second id) Claim.tokenId =
      if s.tokenId then some (.text id) else none := by
  rw [get?_signed hr (by decide), Schedule.get?_claims_tokenId]

theorem nodup_names_signed :
    (Record.names (claims.payload ++ s.claims second id)).Nodup := by
  rw [Record.names_append]
  refine List.nodup_append.2
    ⟨claims.nodup_names_payload, s.nodup_names_claims second id, fun a ha b hb hab => ?_⟩
  exact hr b ((s.names_claims_sublist second id).subset hb) (hab ▸ ha)

include ht

/-- Before its window a token is early. -/
theorem checkClaims_early (id : String) (h : ¬s.Started second now) :
    ∃ claim, checkClaims t (claims.payload ++ s.claims second id) = .error (.early claim) := by
  by_cases hi : s.issuedAt = true → (second : ℚ) ≤ now
  · have hissued : checkTime t (claims.payload ++ s.claims second id) .issuedAt = .ok () := by
      refine checkTime_started (by decide) ht (get?_signed_issuedAt hr _ _ _) fun n hn => ?_
      split at hn
      · next ha =>
        cases hn
        exact hi ha
      · cases hn
    obtain ⟨n, hn, hlt⟩ : ∃ n, s.leeway = some n ∧ now < ((second - n : Int) : ℚ) := by
      by_contra hall
      exact h ⟨hi, fun n hn => not_lt.1 fun hlt => hall ⟨n, hn, hlt⟩⟩
    refine ⟨.notBefore, ?_⟩
    have hget := get?_signed_notBefore hr s second id
    rw [hn] at hget
    rw [checkClaims, hissued, ok_bind, checkTime_early (by decide) ht hget hlt, error_bind]
  · obtain ⟨ha, hlt⟩ := Classical.not_imp.1 hi
    have hget := get?_signed_issuedAt hr s second id
    rw [if_pos ha] at hget
    refine ⟨.issuedAt, ?_⟩
    rw [checkClaims, checkTime_early (by decide) ht hget (not_le.1 hlt), error_bind]

theorem checkClaims_started (id : String) (h : s.Started second now) :
    checkTime t (claims.payload ++ s.claims second id) .issuedAt = .ok () ∧
      checkTime t (claims.payload ++ s.claims second id) .notBefore = .ok () := by
  refine ⟨checkTime_started (by decide) ht (get?_signed_issuedAt hr _ _ _) fun n hn => ?_,
    checkTime_started (by decide) ht (get?_signed_notBefore hr _ _ _) fun n hn => ?_⟩
  · split at hn
    · next ha =>
      cases hn
      exact h.1 ha
    · cases hn
  · obtain ⟨l, hl, rfl⟩ := Option.map_eq_some_iff.1 hn
    exact h.2 l hl

/-- After its window a token is expired. -/
theorem checkClaims_expired (h : s.Started second now) (he : s.Ended second now) :
    checkClaims t (claims.payload ++ s.claims second id) = .error .expired := by
  obtain ⟨hi, hn⟩ := checkClaims_started hr ht id h
  obtain ⟨n, he, hle⟩ := he
  have hget := get?_signed_expires hr s second id
  rw [he] at hget
  rw [checkClaims, hi, ok_bind, hn, ok_bind, checkTime_ended ht hget hle, error_bind]

/-- In its window a token is valid. -/
theorem checkClaims_open (hsub : SubjectFits claims) (h : s.Started second now)
    (he : ¬s.Ended second now) :
    checkClaims t (claims.payload ++ s.claims second id) = .ok () := by
  obtain ⟨hi, hn⟩ := checkClaims_started hr ht id h
  have hexpires : checkTime t (claims.payload ++ s.claims second id) .expires = .ok () := by
    refine checkTime_not_ended ht (get?_signed_expires hr _ _ _) fun n hn => ?_
    obtain ⟨e, hs, rfl⟩ := Option.map_eq_some_iff.1 hn
    exact not_le.1 fun hle => he ⟨e, hs, hle⟩
  have hsubject : checkText (claims.payload ++ s.claims second id) Claim.subject .subjectShape =
      .ok () := by
    refine checkText_of_text fun v hv => ?_
    rw [get?_signed_of_notMem (by decide), ClaimSet.get?_payload, Option.map_eq_some_iff] at hv
    obtain ⟨v, hv, rfl⟩ := hv
    obtain ⟨text, rfl⟩ := hsub v hv
    exact ⟨text, rfl⟩
  have htokenId : checkText (claims.payload ++ s.claims second id) Claim.tokenId .tokenIdShape =
      .ok () := by
    refine checkText_of_text fun v hv => ?_
    rw [get?_signed_tokenId hr] at hv
    split at hv
    · cases hv
      exact ⟨id, rfl⟩
    · cases hv
  rw [checkClaims, hi, ok_bind, hn, ok_bind, hexpires, ok_bind, hsubject, ok_bind, htokenId]

/-- In its window a signed token is verified, as what was signed. -/
theorem verify_open (hf : claims.FloatFree) (hsub : SubjectFits claims)
    (hsign : sign algorithm secret (claims.payload ++ s.claims second id) = .ok token)
    (h : s.Started second now) (he : ¬s.Ended second now) :
    verify algorithm secret t (.text token) =
      .ok ⟨claims.payload ++ s.claims second id, headerOf algorithm⟩ := by
  rw [verify_sign (nodup_names_signed hr) (flat_signed hf _ _) hsign,
    checkClaims_open hr ht hsub h he]
  rfl

end Verdict

/-- **An issued token is verified exactly in its window**, as what it was issued for; before the
window it is premature and after the window expired.  So with a second of issue an expiry of zero
leaves no window, and a leeway changes nothing.  Without one, an expiry of zero leaves the time before the
second at which the token was made, as far back as a leeway goes, and the token has expired from that
second on. -/
theorem verify_issue {issued now : ℚ} {t : Number} (hf : claims.FloatFree)
    (hr : claims.payload.Unreserved) (hsub : SubjectFits claims) (hc : clock.rational? = some issued)
    (h0 : 0 ≤ issued) (ht : t.rational? = some now)
    (h : (issue algorithm claims s.policy secret clock nextId).outcome = .ok token) :
    ((∃ v, verify algorithm secret t (.text token) = .ok v) ↔
        s.Started ⌊issued⌋ now ∧ ¬s.Ended ⌊issued⌋ now) ∧
      (∀ v, verify algorithm secret t (.text token) = .ok v →
        v.claims = claims.payload ++ s.claims ⌊issued⌋ (id nextId) ∧
        v.header = [("alg", .text algorithm.name), ("typ", .text "JWT")]) ∧
      (¬s.Started ⌊issued⌋ now →
        ∃ claim, verify algorithm secret t (.text token) = .error (.defect (.early claim))) ∧
      (s.Ended ⌊issued⌋ now →
        verify algorithm secret t (.text token) = .error (.defect .expired)) ∧
      (s.issuedAt = true →
        ((∃ v, verify algorithm secret t (.text token) = .ok v) ↔
          (⌊issued⌋ : ℚ) ≤ now ∧ ¬s.Ended ⌊issued⌋ now) ∧
        (s.expiry = some 0 → ∀ v, verify algorithm secret t (.text token) ≠ .ok v)) ∧
      (s.expiry = some 0 →
        ((⌊issued⌋ : ℚ) ≤ now → verify algorithm secret t (.text token) = .error (.defect .expired)) ∧
        ((∃ v, verify algorithm secret t (.text token) = .ok v) ↔
          s.issuedAt = false ∧ now < ⌊issued⌋ ∧
            ∀ n, s.leeway = some n → ((⌊issued⌋ - n : Int) : ℚ) ≤ now)) := by
  obtain ⟨-, -, hs, hsign⟩ := issue_eq_ok (second_of_rational hc h0) hr h
  have hverify := verify_sign (nodup_names_signed hr) (flat_signed hf _ _) hsign t
  have hopen : s.Started ⌊issued⌋ now → ¬s.Ended ⌊issued⌋ now →
      ∃ v, verify algorithm secret t (.text token) = .ok v := by
    intro hstarted hended
    rw [hverify, checkClaims_open hr ht hsub hstarted hended]
    exact ⟨_, rfl⟩
  have hearly : ¬s.Started ⌊issued⌋ now →
      ∃ claim, verify algorithm secret t (.text token) = .error (.defect (.early claim)) := by
    intro hstarted
    obtain ⟨claim, he⟩ := checkClaims_early hr ht (id nextId) hstarted
    rw [hverify, he]
    exact ⟨claim, rfl⟩
  have hexpired : s.Ended ⌊issued⌋ now →
      verify algorithm secret t (.text token) = .error (.defect .expired) := by
    intro hended
    rw [hverify, checkClaims_expired hr ht (hended.started hs) hended]
    rfl
  have hwindow : (∃ v, verify algorithm secret t (.text token) = .ok v) ↔
      s.Started ⌊issued⌋ now ∧ ¬s.Ended ⌊issued⌋ now := by
    refine ⟨fun ⟨v, hv⟩ => ⟨?_, ?_⟩, fun ⟨hstarted, hended⟩ => hopen hstarted hended⟩
    · by_contra hstarted
      obtain ⟨claim, he⟩ := hearly hstarted
      rw [he] at hv
      cases hv
    · intro hended
      rw [hexpired hended] at hv
      cases hv
  refine ⟨hwindow, fun v hv => ?_, hearly, hexpired, fun hi => ⟨?_, ?_⟩, fun he => ⟨fun hle => ?_, ?_⟩⟩
  · rw [hverify] at hv
    obtain ⟨-, -, rfl⟩ := map_eq_ok.1 hv
    exact ⟨rfl, rfl⟩
  · have hstart : s.Started ⌊issued⌋ now ↔ (⌊issued⌋ : ℚ) ≤ now := by
      refine ⟨fun hstarted => hstarted.1 hi, fun hle => ⟨fun _ => hle, fun n hn => ?_⟩⟩
      have hn0 := hs.2 n hn
      exact le_trans (by exact_mod_cast (by omega : ⌊issued⌋ - n ≤ ⌊issued⌋)) hle
    rw [hwindow, hstart]
  · intro he v hv
    obtain ⟨hstarted, hended⟩ := hwindow.1 ⟨v, hv⟩
    exact hended ((Schedule.ended_iff_of_zero he).2 (hstarted.1 hi))
  · exact hexpired ((Schedule.ended_iff_of_zero he).2 hle)
  · rw [hwindow, Schedule.ended_iff_of_zero he, not_le]
    constructor
    · rintro ⟨hstarted, hlt⟩
      have hi : s.issuedAt = false := by
        rw [← Bool.not_eq_true]
        exact fun hi => absurd (hstarted.1 hi) (not_le.2 hlt)
      exact ⟨hi, hlt, hstarted.2⟩
    · rintro ⟨hi, hlt, hleeway⟩
      exact ⟨⟨fun h => absurd h (hi ▸ Bool.false_ne_true), hleeway⟩, hlt⟩

/-- The claims of a user with one role. -/
def guestClaims : ClaimSet where
  entries := [(Claim.userId, .text "guest"), (Claim.roles, .texts ["reader"])]
  distinct := by decide
  named := by decide

/-- Ten seconds from the second of issue on. -/
def tenSeconds : Schedule := ⟨true, some 10, none, false⟩

theorem forward_tenSeconds : tenSeconds.Forward := by
  refine ⟨?_, ?_⟩ <;> rintro n ⟨⟩
  decide

theorem unreserved_guestClaims : guestClaims.payload.Unreserved := by
  unfold Record.Unreserved
  decide

theorem floatFree_guestClaims : guestClaims.FloatFree := by
  refine List.forall_mem_cons.2 ⟨?_, List.forall_mem_singleton.2 ?_⟩ <;> rintro x ⟨⟩

theorem subjectFits_guestClaims : SubjectFits guestClaims := by
  rintro v ⟨⟩

/-- The guest's tokens can be signed, as long as their times are short. -/
theorem sign_guestClaims {second : Int} (h0 : 0 ≤ second) (h : second < 900) (tokenId : String) :
    ∃ token, sign .hs256 (.text "k") (guestClaims.payload ++ tenSeconds.claims second tokenId) =
      .ok token := by
  have hissued : Datum.unprintable second = false := Datum.unprintable_of_lt (by omega)
  have hexpires : Datum.unprintable (second + 10) = false := Datum.unprintable_of_lt (by omega)
  have ho : (Datum.dict (guestClaims.payload ++ tenSeconds.claims second tokenId)).oversized =
      false := by
    refine Datum.oversized_dict_eq_false_iff.2 ?_
    refine List.forall_mem_cons.2 ⟨rfl, List.forall_mem_cons.2 ⟨rfl, ?_⟩⟩
    exact List.forall_mem_cons.2 ⟨hissued, List.forall_mem_singleton.2 hexpires⟩
  exact ⟨_, sign_of_fits rfl ho accept_letter⟩

theorem issue_guestClaims : ∃ token,
    (issue .hs256 guestClaims tenSeconds.policy (.text "k") (.int 100) 0).outcome = .ok token := by
  obtain ⟨token, hsign⟩ := sign_guestClaims (show (0 : Int) ≤ 100 by decide) (by decide) (id 0)
  exact ⟨token, issue_of_sign rfl unreserved_guestClaims rfl rfl forward_tenSeconds hsign⟩

/-- A token that was issued at the hundredth second for ten seconds: five seconds later it is
verified, and after ten it is expired. -/
theorem verify_issue_guestClaims : ∃ token,
    (issue .hs256 guestClaims tenSeconds.policy (.text "k") (.int 100) 0).outcome = .ok token ∧
      (∃ v, verify .hs256 (.text "k") (.int 105) (.text token) = .ok v ∧
        v.claims = [(Claim.userId, .text "guest"), (Claim.roles, .list [.text "reader"]),
          (Claim.issuedAt, .int 100), (Claim.expires, .int 110)]) ∧
      verify .hs256 (.text "k") (.int 110) (.text token) = .error (.defect .expired) := by
  obtain ⟨token, ht⟩ := issue_guestClaims
  have hissued : (⌊((100 : Int) : ℚ)⌋ : Int) = 100 := Int.floor_intCast 100
  have hclock : (Number.int 100).rational? = some ((100 : Int) : ℚ) := rfl
  have hthen := fun now : Int =>
    verify_issue floatFree_guestClaims unreserved_guestClaims subjectFits_guestClaims hclock
      (by norm_num) (show (Number.int now).rational? = some (now : ℚ) from rfl) ht
  rw [hissued] at hthen
  obtain ⟨hwindow, hcontent, -⟩ := hthen 105
  obtain ⟨-, -, -, hexpired, -, -⟩ := hthen 110
  have hstarted : tenSeconds.Started 100 ((105 : Int) : ℚ) := by
    refine ⟨fun _ => by norm_num, ?_⟩
    rintro n ⟨⟩
  have hended : ¬tenSeconds.Ended 100 ((105 : Int) : ℚ) := by
    rintro ⟨n, ⟨⟩, hle⟩
    norm_num at hle
  obtain ⟨v, hv⟩ := hwindow.2 ⟨hstarted, hended⟩
  exact ⟨token, ht, ⟨v, hv, (hcontent v hv).1⟩, hexpired ⟨10, rfl, by norm_num⟩⟩

end Token

end TokenGate
