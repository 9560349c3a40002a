/-
Building in a session.

`build_hindrances` is the main result: when building fails, with which failure, and what it leaves.

* Without a user or roles, a token is not built, and this is the failure whatever else is wrong.  With
  both, a negative duration is the failure, the expiry before the leeway.  No id is drawn then, and the
  clock plays no part.
* Otherwise an id is drawn if the policy asks for one, and there is a token unless it is refused
  (`Token.Refused`): its issuer is no text, an integer is too long to be written, or the secret is no
  key.
* The builder is left as it was, so that a second attempt at the same clock makes the same payload
  again, with an id of its own.

A negative duration that is too long to be written is not reported as negative: the report fails
instead, and with it the building, as if the integer had stood in the payload.  `build_unshown` is such
a case.
-/
import TokenGate.Proofs.Session.Editing
import TokenGate.Proofs.Session.Ids
import TokenGate.Proofs.Token.Hindrance

namespace TokenGate

open Token

/-! ### Failures -/

theorem Duration.objection_ne (duration : Duration) (n : Int) :
    duration.objection n ≠ .mandatoryClaims := by
  rw [objection]
  split
  · rintro ⟨⟩
  · rintro ⟨⟩

theorem Duration.objection_eq_iff {duration duration' : Duration} {n : Int} {shown : String} :
    duration.objection n = .negativeDuration duration' shown ↔
      duration = duration' ∧ Datum.unprintable n = false ∧ shown = toString n := by
  rw [objection]
  split
  · next hn =>
    refine iff_of_false (fun h => by cases h) fun h => ?_
    cases hn.symm.trans h.2.1
  · next hn =>
    rw [Failure.negativeDuration.injEq, Bool.not_eq_true] at *
    exact and_congr_right fun _ => ⟨fun h => ⟨hn, h.symm⟩, fun h => h.2.symm⟩

/-- A text that is no key is refused for what it says. -/
theorem Key.category_of_text {text : String} {fault : Key.Fault}
    (h : Key.accept (.text text) = .error fault) : (Failure.key fault).category = .key := by
  rw [accept, bytesOf?] at h
  unfold acceptBytes at h
  dsimp only at h
  split at h
  · cases h
    rfl
  split at h
  · cases h
    rfl
  split at h
  · cases h
    rfl
  · cases h

namespace Builder

variable {b : Builder} {s : Schedule}

/-- Incomplete claims are reported whenever there are such, and never else. -/
theorem build_incomplete_iff (hb : b.policy = s.policy) (clock : Number) (n : Nat) :
    (b.build clock n).outcome = .error .mandatoryClaims ↔ ¬b.claims.Complete := by
  have hends := build_ends hb clock n
  generalize b.build clock n = issued at hends ⊢
  cases hends with
  | incomplete hc => exact iff_of_true rfl hc
  | negative hc =>
    exact iff_of_false (fun h => Duration.objection_ne _ _ (Except.error.inj h)) (not_not_intro hc)
  | timeless hc => exact iff_of_false (fun h => by cases h) (not_not_intro hc)
  | tried hc =>
    refine iff_of_false (fun h => ?_) (not_not_intro hc)
    cases (sign_eq_error_iff (b.simple_drawn s _ n)).1 h

/-- With complete claims, a negative duration is reported whenever it can be written, and never else. -/
theorem build_negative_iff (hb : b.policy = s.policy) (hc : b.claims.Complete) (clock : Number)
    (n : Nat) {duration : Duration} {shown : String} :
    (b.build clock n).outcome = .error (.negativeDuration duration shown) ↔
      ∃ m, s.reported? = some (duration, m) ∧ Datum.unprintable m = false ∧ shown = toString m := by
  have hends := build_ends hb clock n
  generalize b.build clock n = issued at hends ⊢
  cases hends with
  | incomplete hnot => exact absurd hc hnot
  | @negative duration' m _ hr =>
    rw [Except.error.injEq, Duration.objection_eq_iff, hr]
    constructor
    · rintro ⟨rfl, hm⟩
      exact ⟨m, rfl, hm⟩
    · rintro ⟨m', hm', hm⟩
      cases hm'
      exact ⟨rfl, hm⟩
  | timeless _ hs =>
    rw [Schedule.reported?_eq_none_iff.2 hs]
    refine iff_of_false (fun h => by cases h) ?_
    rintro ⟨m, hm, -⟩
    cases hm
  | tried _ hs =>
    rw [Schedule.reported?_eq_none_iff.2 hs]
    refine iff_of_false (fun h => ?_) ?_
    · cases (sign_eq_error_iff (b.simple_drawn s _ n)).1 h
    · rintro ⟨m, hm, -⟩
      cases hm

theorem build_of_incomplete (hb : b.policy = s.policy) (hc : ¬b.claims.Complete) (clock : Number)
    (n : Nat) : b.build clock n = ⟨.error .mandatoryClaims, n⟩ := by
  have hends := build_ends hb clock n
  generalize b.build clock n = issued at hends ⊢
  cases hends with
  | incomplete => rfl
  | negative hc' | timeless hc' | tried hc' => exact absurd hc' hc

theorem build_of_reported (hb : b.policy = s.policy) (hc : b.claims.Complete) {duration : Duration}
    {m : Int} (hr : s.reported? = some (duration, m)) (clock : Number) (n : Nat) :
    b.build clock n = ⟨.error (duration.objection m), n⟩ := by
  have hends := build_ends hb clock n
  generalize b.build clock n = issued at hends ⊢
  cases hends with
  | incomplete hnot => exact absurd hc hnot
  | negative _ hr' =>
    cases hr.symm.trans hr'
    rfl
  | timeless _ hs | tried _ hs => cases hr.symm.trans (Schedule.reported?_eq_none_iff.2 hs)

theorem build_of_forward (hb : b.policy = s.policy) (hc : b.claims.Complete) (hs : s.Forward)
    {clock : Number} {second : Int} (ht : Token.second clock = .ok second) (n : Nat) :
    b.build clock n = ⟨sign b.algorithm b.secret (b.drawn s second n),
      if s.tokenId then n + 1 else n⟩ := by
  rw [build, issue, payload_drawn hb hc hs ht, hb]
  rfl

end Builder

namespace Session

open Builder

theorem buildToken_clock (s : Session) (name stored : String) :
    (s.buildToken name stored).2.clock = s.clock := by
  rw [Session.buildToken]
  split
  · rfl
  · dsimp only
    split
    · rfl
    · rfl

/-- **A token is not built for one of few reasons, which are looked at in a fixed order.**  Incomplete
claims come first, then a negative duration; neither draws an id or depends on the clock.  Otherwise an
id is drawn if the policy asks for one, and only a payload or a secret that is refused is a reason.  The
builder stays, and a second attempt differs in the id alone. -/
theorem build_hindrances {b : Builder} {s : Schedule} (hb : b.policy = s.policy) :
    (∀ clock n, (b.build clock n).outcome = .error .mandatoryClaims ↔ ¬b.claims.Complete) ∧
    (b.claims.Complete → ∀ clock n duration shown,
      (b.build clock n).outcome = .error (.negativeDuration duration shown) ↔
        ∃ m, s.reported? = some (duration, m) ∧ Datum.unprintable m = false ∧ shown = toString m) ∧
    (¬b.claims.Complete → ∀ clock n, b.build clock n = ⟨.error .mandatoryClaims, n⟩) ∧
    (b.claims.Complete → ¬s.Forward → ∃ duration m, s.reported? = some (duration, m) ∧
      ∀ clock n, b.build clock n = ⟨.error (duration.objection m), n⟩) ∧
    (b.claims.Complete → s.Forward → ∀ clock second, Token.second clock = .ok second → ∀ n,
      payload b.claims b.policy clock n = .ok (b.drawn s second n) ∧
      (b.build clock n).nextId = (if s.tokenId then n + 1 else n) ∧
      (∀ f, (b.build clock n).outcome = .error f ↔ Refused b.secret (b.drawn s second n) f) ∧
      ((∃ token, (b.build clock n).outcome = .ok token) ↔
        TextIssuer (b.drawn s second n) ∧ ShortIntegers (b.drawn s second n) ∧
          ∃ key, Key.accept b.secret = .ok key) ∧
      ∀ text fault, b.secret = .text text → Key.accept b.secret = .error fault →
        (Failure.key fault).category = .key) ∧
    ∀ (t : Session) name stored, t.builders.get? name = some b →
      let t' := (t.buildToken name stored).2
      t'.builders = t.builders ∧ t'.clock = t.clock ∧
        t'.nextId = (b.build t.clock t.nextId).nextId ∧
        payload b.claims b.policy t'.clock t'.nextId =
          (payload b.claims b.policy t.clock t.nextId).map fun p =>
            if b.policy.tokenId then p.set Claim.tokenId (.text (id t'.nextId)) else p := by
  refine ⟨build_incomplete_iff hb, fun hc clock n duration shown => build_negative_iff hb hc clock n,
    build_of_incomplete hb, fun hc hs => ?_, fun hc hs clock second ht n => ?_,
    fun t name stored hget => ?_⟩
  · rw [← Schedule.reported?_eq_none_iff, ← ne_eq, Option.ne_none_iff_exists'] at hs
    obtain ⟨⟨duration, m⟩, hr⟩ := hs
    exact ⟨duration, m, hr, build_of_reported hb hc hr⟩
  · rw [build_of_forward hb hc hs ht]
    have hsimple := b.simple_drawn s second n
    refine ⟨payload_drawn hb hc hs ht n, rfl, fun f => sign_eq_error_iff hsimple,
      exists_token_iff hsimple, fun text fault hsecret hk => ?_⟩
    rw [hsecret] at hk
    exact Key.category_of_text hk
  · have hfree := (Builds.buildToken t name stored).free
    rw [hget] at hfree
    refine ⟨buildToken_builders t name stored, buildToken_clock t name stored, hfree, ?_⟩
    rw [buildToken_clock]
    exact payload_again _ _ _ _ _

/-- Both durations are negative. -/
def backward : Schedule := ⟨true, some (-1), some (-2), true⟩

/-- With nothing right, the missing claims are the failure; with the claims of the guest, the expiry is.
On a schedule that can be used, and with a key, there is a token. -/
theorem build_hindrances_guest :
    let bare : Builder := ⟨.hs256, .null, .empty, backward.policy⟩
    let hasty : Builder := ⟨.hs256, .null, guestClaims, backward.policy⟩
    (bare.policy = backward.policy ∧ ∀ clock n, bare.build clock n = ⟨.error .mandatoryClaims, n⟩) ∧
      (hasty.policy = backward.policy ∧ ∀ clock n,
        (hasty.build clock n).outcome = .error (.negativeDuration .expiry "-1")) ∧
      numberedBuilder.policy = numbered.policy ∧ (numberedBuilder.build (.int 0) 1).nextId = 2 ∧
      (∃ token, (numberedBuilder.build (.int 0) 1).outcome = .ok token) ∧
      ShortIntegers (numberedBuilder.drawn numbered 0 1) := by
  intro bare hasty
  have hbare : bare.policy = backward.policy := rfl
  have hhasty : hasty.policy = backward.policy := rfl
  have hnumbered : numberedBuilder.policy = numbered.policy := rfl
  have hincomplete : ¬bare.claims.Complete := by decide
  have hcomplete : guestClaims.Complete := by decide
  obtain ⟨-, -, hmissing, -⟩ := build_hindrances hbare
  obtain ⟨-, hnegative, -⟩ := build_hindrances hhasty
  obtain ⟨-, -, -, -, hready, -⟩ := build_hindrances hnumbered
  obtain ⟨-, hnext, -, htoken, -⟩ := hready hcomplete forward_numbered (.int 0) 0 rfl 1
  obtain ⟨token, -, hbuild, -⟩ := exists_numberedToken 1
  refine ⟨⟨hbare, hmissing hincomplete⟩, ⟨hhasty, fun clock n => ?_⟩, hnumbered, hnext,
    ⟨token, hbuild⟩, (htoken.1 ⟨token, hbuild⟩).2.1⟩
  have hshort : Datum.unprintable (-1) = false := Datum.unprintable_of_lt (by decide)
  exact (hnegative hcomplete clock n .expiry "-1").2 ⟨-1, rfl, hshort, rfl⟩

/-- The leeway is negative, and too long to be written. -/
def endless : Schedule := ⟨true, none, some (-(Gate.tooLong : Int)), false⟩

/-- **A negative duration can be too long to be reported.**  The leeway is negative and nothing else is
wrong, but the failure is that an integer is too long to be written. -/
theorem build_unshown :
    guestClaims.Complete ∧ (∃ n, endless.leeway = some n ∧ n < 0) ∧
      ∀ clock n, let issued := (Builder.mk .hs256 (.text "k") guestClaims endless.policy).build clock n
        issued.outcome = .error .unprintable ∧
          ¬∃ duration shown, issued.outcome = .error (.negativeDuration duration shown) := by
  have hten := Gate.ten_le_tooLong
  have hcomplete : guestClaims.Complete := by decide
  have hnegative : -(Gate.tooLong : Int) < 0 := by omega
  have hlong : Datum.unprintable (-(Gate.tooLong : Int)) = true := by
    rw [← Bool.not_eq_false, Gate.unprintable_eq_false_iff]
    omega
  have hreported : endless.reported? = some (.leeway, -(Gate.tooLong : Int)) := by
    have hkept : negative? endless.leeway = some (-(Gate.tooLong : Int)) :=
      Option.filter_some_pos (decide_eq_true hnegative)
    rw [Schedule.reported?, hkept]
    rfl
  refine ⟨hcomplete, ⟨_, rfl, hnegative⟩, fun clock n => ?_⟩
  rw [build_of_reported rfl hcomplete hreported, Duration.objection, if_pos hlong]
  refine ⟨rfl, ?_⟩
  rintro ⟨duration, shown, h⟩
  cases h

end Session

end TokenGate
