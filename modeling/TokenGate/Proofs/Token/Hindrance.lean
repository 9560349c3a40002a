/-
What keeps a token from being built.

Building looks at one thing after the other, and its failure is that of the first that is wrong: the
claims lack a user or roles; a duration is negative, the expiry before the leeway; the clock stands at
no second; the issuer is no text; an integer is too long to be written; the secret is no key.
`build_ends` says how building ends in each of these cases, for a policy with whole seconds.

* `validate_reported` is about the durations.  The report of a negative duration shows it, and so one
  that is too long to be written is reported as such, and not as negative (`Duration.objection`).
* `sign_eq_error_iff` is about the last three.
* `payload_again` says what a second attempt makes: the same payload, with the id of another number.
-/
import TokenGate.Proofs.Token.Id
import TokenGate.Token.Builder

namespace TokenGate

open Token

/-! ### Claims -/

/-- The claims that every token has are there. -/
def ClaimSet.Complete (s : ClaimSet) : Prop :=
  s.contains Claim.userId = true ∧ s.contains Claim.roles = true

instance (s : ClaimSet) : Decidable s.Complete := inferInstanceAs (Decidable (_ ∧ _))

/-! ### Durations -/

/-- The report of a negative duration. -/
def Duration.objection (duration : Duration) (n : Int) : Failure :=
  if Datum.unprintable n then .unprintable else .negativeDuration duration (toString n)

/-- The duration, if it is negative. -/
def negative? (n? : Option Int) : Option Int := n?.filter (· < 0)

/-- The negative duration that is reported: the expiry, or else the leeway. -/
def Schedule.reported? (s : Schedule) : Option (Duration × Int) :=
  ((negative? s.expiry).map fun n => (.expiry, n)).or
    ((negative? s.leeway).map fun n => (.leeway, n))

example : (Schedule.mk true (some (-1)) (some (-2)) false).reported? = some (.expiry, -1) := by decide

theorem Policy.checkDuration_reported (duration : Duration) (n? : Option Int) :
    checkDuration duration (n?.map .int) =
      (negative? n?).elim (.ok ()) fun n => .error (duration.objection n) := by
  rcases n? with - | n
  · rfl
  rw [Option.map_some, checkDuration, Datum.number?, negative?]
  by_cases hn : n < 0
  · simp only [Number.isNegative, hn, decide_true, if_true, Option.filter_some_pos, Option.elim_some]
    rw [Duration.objection, Datum.oversized]
    split
    · rfl
    · rfl
  · simp only [Number.isNegative, hn, decide_false, Bool.false_eq_true, if_false,
      Option.filter_some_neg, Option.elim_none]

namespace Schedule

variable {s : Schedule}

/-- **A policy is valid unless there is a negative duration to report.** -/
theorem validate_reported (s : Schedule) : s.policy.validate =
    s.reported?.elim (.ok ()) fun (duration, n) => .error (duration.objection n) := by
  rw [Policy.validate, policy, reported?]
  dsimp only
  rw [Policy.checkDuration_reported, Policy.checkDuration_reported]
  rcases negative? s.expiry with - | n
  · rcases negative? s.leeway with - | n
    · rfl
    · rfl
  · rfl

theorem reported?_eq_none_iff : s.reported? = none ↔ s.Forward := by
  rw [← validate_schedule, validate_reported]
  rcases s.reported? with - | ⟨duration, n⟩
  · exact iff_of_true rfl rfl
  · refine iff_of_false (fun h => ?_) fun h => ?_
    · cases h
    · cases h

end Schedule

/-! ### Signatures -/

/-- The values of payloads are too long to be written only if they are integers. -/
theorem Datum.Simple.oversized_iff {d : Datum} (h : d.Simple) :
    d.oversized = true ↔ ∃ n, d = .int n ∧ unprintable n = true := by
  constructor
  · intro ho
    rcases h with (b | n | t | ss) | ⟨x, rfl⟩
    · cases ho
    · exact ⟨n, rfl, ho⟩
    · cases ho
    · have hfits : (Datum.list (ss.map .text)).oversized = false := by
        refine oversized_list_eq_false_iff.2 fun d hd => ?_
        obtain ⟨t, -, rfl⟩ := List.mem_map.1 hd
        rfl
      rw [hfits] at ho
      cases ho
    · cases ho
  · rintro ⟨n, rfl, hn⟩
    exact hn

namespace Token

/-- The issuer of a payload, if there is one, is a text. -/
def TextIssuer (p : Record Datum) : Prop :=
  ∀ d, p.get? Claim.issuer = some d → ∃ text, d = .text text

/-- The integers of a payload can be written. -/
def ShortIntegers (p : Record Datum) : Prop :=
  ∀ name n, (name, Datum.int n) ∈ p → Datum.unprintable n = false

/-- Why a payload is not signed.  The first reason counts. -/
inductive Refused (secret : Datum) (p : Record Datum) : Failure → Prop
  | issuerKind (hi : ¬TextIssuer p) : Refused secret p .issuerKind
  | unprintable (hi : TextIssuer p) (hn : ¬ShortIntegers p) : Refused secret p .unprintable
  | key {fault : Key.Fault} (hi : TextIssuer p) (hn : ShortIntegers p)
      (hk : Key.accept secret = .error fault) : Refused secret p (.key fault)

theorem oversized_eq_false_iff {p : Record Datum} (hp : ∀ e ∈ p, e.2.Simple) :
    (Datum.dict p).oversized = false ↔ ShortIntegers p := by
  rw [Datum.oversized_dict_eq_false_iff]
  constructor
  · intro h name n hm
    have hfits := h (name, .int n) hm
    rwa [Datum.oversized] at hfits
  · rintro h ⟨name, d⟩ he
    rw [← Bool.not_eq_true, (hp _ he).oversized_iff]
    rintro ⟨n, rfl, hn⟩
    rw [h name n he] at hn
    cases hn

section Signing

variable {algorithm : Algorithm} {secret : Datum} {p : Record Datum} {f : Failure}
  (hp : ∀ e ∈ p, e.2.Simple)

include hp

theorem Refused.sign_eq (h : Refused secret p f) : sign algorithm secret p = .error f := by
  rw [sign]
  cases h with
  | issuerKind hi =>
    rw [Bool.eq_false_of_not_eq_true (mt issuerFits_iff.1 hi)]
    rfl
  | unprintable hi hn =>
    rw [issuerFits_iff.2 hi, Bool.eq_true_of_not_eq_false (mt (oversized_eq_false_iff hp).1 hn)]
    rfl
  | key hi hn hk =>
    rw [issuerFits_iff.2 hi, (oversized_eq_false_iff hp).2 hn, hk]
    rfl

theorem exists_token_iff : (∃ token, sign algorithm secret p = .ok token) ↔
    TextIssuer p ∧ ShortIntegers p ∧ ∃ key, Key.accept secret = .ok key := by
  constructor
  · rintro ⟨token, h⟩
    obtain ⟨hi, ho, key, hk, -⟩ := sign_eq_ok h
    exact ⟨issuerFits_iff.1 hi, (oversized_eq_false_iff hp).1 ho, key, hk⟩
  · rintro ⟨hi, hn, key, hk⟩
    exact ⟨_, sign_of_fits (issuerFits_iff.2 hi) ((oversized_eq_false_iff hp).2 hn) hk⟩

theorem exists_refused (h : sign algorithm secret p = .error f) : ∃ f', Refused secret p f' := by
  -- if there were no reason, the payload would be signed
  by_cases hi : TextIssuer p
  · by_cases hn : ShortIntegers p
    · rcases hk : Key.accept secret with fault | key
      · exact ⟨_, .key hi hn hk⟩
      · obtain ⟨token, hsign⟩ := (exists_token_iff hp).2 ⟨hi, hn, key, hk⟩
        cases h.symm.trans hsign
    · exact ⟨_, .unprintable hi hn⟩
  · exact ⟨_, .issuerKind hi⟩

/-- **A payload is signed unless it is refused**, and the failure says why. -/
theorem sign_eq_error_iff : sign algorithm secret p = .error f ↔ Refused secret p f := by
  refine ⟨fun h => ?_, Refused.sign_eq hp⟩
  -- some reason there is, and signing ends with that one
  obtain ⟨f', hr⟩ := exists_refused hp h
  cases h.symm.trans (hr.sign_eq hp)
  exact hr

end Signing

/-! ### Building again -/

theorem stamp_again (policy : Policy) (second : Int) (n m : Nat) (r : Record Datum) :
    stamp policy second m r = (stamp policy second n r).map fun p =>
      if policy.tokenId then p.set Claim.tokenId (.text (id m)) else p := by
  rw [stamp, stamp]
  rcases setTime Number.plus Claim.expires second policy.expiry _ with f | expiring
  · rfl
  simp only [ok_bind]
  rcases setTime Number.minus Claim.notBefore second policy.leeway expiring with f | delayed
  · rfl
  cases policy.tokenId with
  | false => rfl
  | true => exact congrArg Except.ok (Record.set_set delayed _ _ _).symm

/-- **A second attempt makes the same payload**, apart from the id. -/
theorem payload_again (claims : ClaimSet) (policy : Policy) (clock : Number) (n m : Nat) :
    payload claims policy clock m = (payload claims policy clock n).map fun p =>
      if policy.tokenId then p.set Claim.tokenId (.text (id m)) else p := by
  rw [payload, payload]
  split
  · rcases policy.validate with f | ⟨⟩
    · rfl
    rcases second clock with f | second
    · rfl
    exact stamp_again policy second n m claims.payload
  · rfl

end Token

/-! ### Building -/

namespace Builder

variable {b : Builder} {s : Schedule} {clock : Number} {nextId : Nat}

/-- What is signed for a builder on a schedule. -/
def drawn (b : Builder) (s : Schedule) (second : Int) (idNumber : Nat) : Record Datum :=
  b.claims.payload.overwrite (s.claims second (Token.id idNumber))

/-- How building ends on a schedule. -/
inductive Ends (b : Builder) (s : Schedule) (clock : Number) (nextId : Nat) : Issued → Prop
  | incomplete (hc : ¬b.claims.Complete) : Ends b s clock nextId ⟨.error .mandatoryClaims, nextId⟩
  | negative {duration : Duration} {n : Int} (hc : b.claims.Complete)
      (hr : s.reported? = some (duration, n)) :
      Ends b s clock nextId ⟨.error (duration.objection n), nextId⟩
  | timeless {fault : IntegerFault} (hc : b.claims.Complete) (hs : s.Forward)
      (ht : Token.second clock = .error (.integer fault)) :
      Ends b s clock nextId ⟨.error (.integer fault), nextId⟩
  | tried {second : Int} (hc : b.claims.Complete) (hs : s.Forward)
      (ht : Token.second clock = .ok second) :
      Ends b s clock nextId ⟨sign b.algorithm b.secret (b.drawn s second nextId),
        if s.tokenId then nextId + 1 else nextId⟩

theorem payload_drawn (hb : b.policy = s.policy) (hc : b.claims.Complete) (hs : s.Forward)
    {second : Int} (ht : Token.second clock = .ok second) (nextId : Nat) :
    payload b.claims b.policy clock nextId = .ok (b.drawn s second nextId) := by
  rw [hb, payload_eq_stamp hc.1 hc.2 (validate_schedule.2 hs) ht, stamp_overwrite]
  rfl

/-- **Building ends with the first thing that is wrong.** -/
theorem build_ends (hb : b.policy = s.policy) (clock : Number) (nextId : Nat) :
    Ends b s clock nextId (b.build clock nextId) := by
  rw [build, issue]
  by_cases hc : b.claims.Complete
  · rcases hr : s.reported? with - | ⟨duration, n⟩
    · have hs := Schedule.reported?_eq_none_iff.1 hr
      rcases ht : clock.toInteger with fault | second
      · have hsecond : Token.second clock = .error (.integer fault) := by rw [Token.second, ht]
        have hpayload : payload b.claims b.policy clock nextId = .error (.integer fault) := by
          rw [payload, hc.1, hc.2, hb, validate_schedule.2 hs, hsecond]
          rfl
        rw [hpayload]
        exact .timeless hc hs hsecond
      · have hsecond : Token.second clock = .ok second := by rw [Token.second, ht]
        rw [payload_drawn hb hc hs hsecond, hb]
        exact .tried hc hs hsecond
    · have hpayload : payload b.claims b.policy clock nextId = .error (duration.objection n) := by
        rw [payload, hc.1, hc.2, hb, Schedule.validate_reported, hr]
        rfl
      rw [hpayload]
      exact .negative hc hr
  · have hpayload : payload b.claims b.policy clock nextId = .error .mandatoryClaims := by
      rw [payload, if_neg]
      rwa [Bool.and_eq_true]
    rw [hpayload]
    exact .incomplete hc

/-- The values that are signed are simple. -/
theorem simple_drawn (b : Builder) (s : Schedule) (second : Int) (idNumber : Nat) :
    ∀ e ∈ b.drawn s second idNumber, e.2.Simple :=
  Record.forall_overwrite b.claims.simple_payload fun e he => .inl (s.flat_claims _ _ e he)

end Builder

end TokenGate
