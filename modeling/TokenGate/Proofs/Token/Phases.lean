/-
The phases of a token, as the clock goes on.

Take any text as a token, with any secret and algorithm, and let only the clock change.  Three times of
any kind may stand in the claims; each may be missing, lie anywhere, or be no time at all.
`verify_phases` is the main result: the token is premature up to some clock, expired from some clock
on, and has one and the same verdict at all clocks that are left.  So the clocks at which it is
verified make up an interval, and an expired token is never anything else again.

A verdict with such phases is `Phased`.  A verdict that does not look at the clock is; so is one that
is premature up to a second, and phased after it (`Phased.delayed`).  The expiry is compared last of
the three times, when nothing that is left looks at the clock (`Phased.ended`).
-/
import Mathlib.Order.Interval.Set.OrdConnected
import Mathlib.Order.UpperLower.Basic
import TokenGate.Proofs.Token.Authenticity

namespace TokenGate

/-! ### Clocks as moments -/

/-- A clock that stands at some time. -/
structure Moment where
  clock : Number
  time : ℚ
  stands : clock.rational? = some time

namespace Moment

/-- Moments are compared by their times; a clock may show one time in two ways. -/
instance : Preorder Moment := Preorder.lift Moment.time

/-- The moment at which a whole second starts. -/
def ofSecond (second : Int) : Moment := ⟨.int second, second, rfl⟩

variable {m m' : Moment}

theorem reached_of_le (h : m ≤ m') {second : Int} (hr : m.clock.reached second = true) :
    m'.clock.reached second = true := by
  have hle : m.time ≤ m'.time := h
  have hsecond := (Number.reached_iff_le m.stands second).1 hr
  exact (Number.reached_iff_le m'.stands second).2 (le_trans hsecond hle)

theorem isBefore_of_le (h : m ≤ m') {second : Int} (hb : m'.clock.isBefore second = true) :
    m.clock.isBefore second = true := by
  have hle : m.time ≤ m'.time := h
  have hsecond := (Number.isBefore_iff_lt m'.stands second).1 hb
  exact (Number.isBefore_iff_lt m.stands second).2 (lt_of_le_of_lt hle hsecond)

end Moment

namespace Token

variable {α : Type}

/-! ### Verdicts that come in phases -/

/-- The verdict is a defect of the kind. -/
def Found (kind : Refusal.Kind) (x : Except Defect α) : Prop := ∃ d, x = .error d ∧ d.kind = kind

/-- The verdict is one that another clock may change. -/
def Timed (x : Except Defect α) : Prop := Found .premature x ∨ Found .expired x

/-- A verdict at each clock: first premature, then one and the same, then expired. -/
structure Phased (verdict : Moment → Except Defect α) : Prop where
  premature : IsLowerSet {m | Found .premature (verdict m)}
  expired : IsUpperSet {m | Found .expired (verdict m)}
  settled : ∀ m m', ¬Timed (verdict m) → ¬Timed (verdict m') → verdict m = verdict m'

theorem not_found_ok (kind : Refusal.Kind) (a : α) : ¬Found kind (.ok a : Except Defect α) := by
  rintro ⟨d, h, -⟩
  cases h

theorem found_error_iff {kind : Refusal.Kind} {d : Defect} :
    Found kind (.error d : Except Defect α) ↔ d.kind = kind := by
  simp [Found]

theorem Malformed.not_timed {x : Except Defect α} (hx : Malformed x) : ¬Timed x := by
  rintro (⟨d, rfl, hd⟩ | ⟨d, rfl, hd⟩)
  · rw [hx d rfl] at hd
    cases hd
  · rw [hx d rfl] at hd
    cases hd

theorem Phased.const {x : Except Defect α} (hx : ¬Timed x) : Phased fun _ => x where
  premature := fun _ _ _ hm => absurd (Or.inl hm) hx
  expired := fun _ _ _ hm => absurd (Or.inr hm) hx
  settled := fun _ _ _ _ => rfl

/-- What is malformed is so at every clock. -/
theorem Phased.malformed {d : Defect} (hd : d.kind = .malformed) :
    Phased fun _ => (.error d : Except Defect α) := by
  refine .const (Malformed.not_timed ?_)
  rintro d' ⟨⟩
  exact hd

/-- Before a second the verdict is premature, and nothing else is looked at. -/
theorem Phased.delayed {rest : Moment → Except Defect α} (h : Phased rest) (second : Int) {d : Defect}
    (hd : d.kind = .premature) :
    Phased fun m => if m.clock.isBefore second then .error d else rest m where
  premature := by
    intro m m' hle hm
    simp only [Set.mem_ofPred_eq] at hm ⊢
    by_cases hb : m'.clock.isBefore second = true
    · rw [if_pos hb]
      exact found_error_iff.2 hd
    · -- the earlier clock is not before the second, so the later one is not either
      have hb' : ¬m.clock.isBefore second = true := fun h => hb (Moment.isBefore_of_le hle h)
      rw [if_neg hb'] at hm
      rw [if_neg hb]
      exact h.premature hle hm
  expired := by
    intro m m' hle hm
    simp only [Set.mem_ofPred_eq] at hm ⊢
    by_cases hb : m.clock.isBefore second = true
    · rw [if_pos hb, found_error_iff, hd] at hm
      cases hm
    · have hb' : ¬m'.clock.isBefore second = true := fun h => hb (Moment.isBefore_of_le hle h)
      rw [if_neg hb] at hm
      rw [if_neg hb']
      exact h.expired hle hm
  settled := by
    have hsettled : ∀ m : Moment, ¬Timed (if m.clock.isBefore second then .error d else rest m) →
        ¬m.clock.isBefore second = true ∧ ¬Timed (rest m) := by
      intro m hm
      by_cases hb : m.clock.isBefore second = true
      · rw [if_pos hb] at hm
        exact absurd (Or.inl (found_error_iff.2 hd)) hm
      · rw [if_neg hb] at hm
        exact ⟨hb, hm⟩
    intro m m' hm hm'
    obtain ⟨hb, hr⟩ := hsettled m hm
    obtain ⟨hb', hr'⟩ := hsettled m' hm'
    simp only [if_neg hb, if_neg hb']
    exact h.settled m m' hr hr'

/-- From a second on the verdict is expired; before it the clock does not count. -/
theorem Phased.ended {x : Except Defect α} (hx : ¬Timed x) (second : Int) :
    Phased fun m => if m.clock.reached second then .error .expired else x where
  premature := by
    intro m m' hle hm
    simp only [Set.mem_ofPred_eq] at hm
    by_cases hr : m.clock.reached second = true
    · rw [if_pos hr, found_error_iff] at hm
      cases hm
    · rw [if_neg hr] at hm
      exact absurd (Or.inl hm) hx
  expired := by
    intro m m' hle hm
    simp only [Set.mem_ofPred_eq] at hm ⊢
    by_cases hr : m.clock.reached second = true
    · rw [if_pos (Moment.reached_of_le hle hr)]
      exact found_error_iff.2 rfl
    · rw [if_neg hr] at hm
      exact absurd (Or.inr hm) hx
  settled := by
    have hsettled : ∀ m : Moment, ¬Timed (if m.clock.reached second then .error .expired else x) →
        ¬m.clock.reached second = true := by
      intro m hm hr
      rw [if_pos hr] at hm
      exact hm (Or.inr (found_error_iff.2 rfl))
    intro m m' hm hm'
    simp only [if_neg (hsettled m hm), if_neg (hsettled m' hm')]

/-! ### Claims -/

variable {claims : Record Datum}

/-- A claim that is absent is not looked at, and one that is no time is malformed at every clock, so
that only seconds are left. -/
theorem Phased.claim {rest : Moment → Except Defect α} (h : Phased rest) (claims : Record Datum)
    {claim : TimeClaim}
    (hsecond : ∀ second, Phased fun m => checkSecond m.clock claim second >>= fun _ => rest m) :
    Phased fun m => Token.checkTime m.clock claims claim >>= fun _ => rest m := by
  rcases hd : claims.get? claim.name with - | d
  · simpa [Token.checkTime, hd] using h
  · rcases hn : d.toInteger with f | second
    · have hshape : Phased fun _ => (.error (.timeShape claim) : Except Defect α) := .malformed rfl
      simpa [Token.checkTime, hd, hn] using hshape
    · simpa [Token.checkTime, hd, hn] using hsecond second

/-- A time before which a token is premature, whatever stands there. -/
theorem Phased.checkTime {rest : Moment → Except Defect α} (h : Phased rest) (claims : Record Datum)
    {claim : TimeClaim} (hne : claim ≠ .expires) :
    Phased fun m => Token.checkTime m.clock claims claim >>= fun _ => rest m := by
  refine h.claim claims fun second => ?_
  have hdelayed := h.delayed second (show (Defect.early claim).kind = .premature from rfl)
  have hcheck : ∀ m : Moment, (checkSecond m.clock claim second >>= fun _ => rest m) =
      if m.clock.isBefore second then .error (.early claim) else rest m := by
    intro m
    rw [checkSecond]
    · split
      · rfl
      · rfl
    · exact hne
  simpa only [hcheck] using hdelayed

/-- The expiry, if nothing after it looks at the clock. -/
theorem Phased.checkExpiry {x : Except Defect α} (hx : ¬Timed x) (claims : Record Datum) :
    Phased fun m => Token.checkTime m.clock claims .expires >>= fun _ => x := by
  refine (Phased.const hx).claim claims fun second => ?_
  have hcheck : ∀ m : Moment, (checkSecond m.clock .expires second >>= fun _ => x) =
      if m.clock.reached second then .error .expired else x := by
    intro m
    rw [checkSecond]
    split
    · rfl
    · rfl
  simpa only [hcheck] using Phased.ended hx second

theorem readClaims_malformed (bytes : List UInt8) : Malformed (readClaims bytes) := by
  intro d h
  rw [readClaims] at h
  split at h
  · cases h
    rfl
  · cases h
  · cases h
    rfl

theorem checkText_malformed {name : String} {d : Defect} (hd : d.kind = .malformed) :
    Malformed (checkText claims name d) := by
  intro d' h
  rw [checkText] at h
  split at h
  · cases h
  · cases h
  · cases h
    exact hd

/-- **The claims of a document are checked in phases**: the second of issue and the first valid second
delay everything that follows them, the expiry comes next, and the two texts are checked last. -/
theorem phased_checkClaims (claims : Record Datum) : Phased fun m => checkClaims m.clock claims := by
  have htexts : Malformed (do
      checkText claims Claim.subject .subjectShape
      checkText claims Claim.tokenId .tokenIdShape) :=
    (checkText_malformed rfl).bind fun _ => checkText_malformed rfl
  have hexpires := Phased.checkExpiry htexts.not_timed claims
  have hnotBefore := hexpires.checkTime claims (show TimeClaim.notBefore ≠ .expires by decide)
  exact hnotBefore.checkTime claims (by decide)

theorem Phased.map {β : Type} {verdict : Moment → Except Defect α} (h : Phased verdict) (f : α → β) :
    Phased fun m => (verdict m).map f := by
  have hfound : ∀ kind m, Found kind ((verdict m).map f) ↔ Found kind (verdict m) := by
    intro kind m
    rcases verdict m with d | a
    · exact found_error_iff.trans found_error_iff.symm
    · exact iff_of_false (not_found_ok _ _) (not_found_ok _ _)
  refine ⟨?_, ?_, fun m m' hm hm' => ?_⟩
  · simpa only [hfound] using h.premature
  · simpa only [hfound] using h.expired
  · simp only [Timed, hfound] at hm hm'
    exact congrArg _ (h.settled m m' hm hm')

/-- A document that is no object has one verdict; an object's claims are checked. -/
theorem phased_acceptClaims (opened : Opened) : Phased fun m => acceptClaims m.clock opened := by
  rcases hr : readClaims opened.payload with d | claims
  · have hshape : Phased fun _ => (.error d : Except Defect Verified) :=
      .malformed (readClaims_malformed _ d hr)
    simpa [acceptClaims, hr] using hshape
  · have hmap := (phased_checkClaims claims).map fun _ => Verified.mk claims opened.header
    have haccept : ∀ m : Moment, acceptClaims m.clock opened =
        (checkClaims m.clock claims).map fun _ => ⟨claims, opened.header⟩ := by
      intro m
      rw [acceptClaims, hr, ok_bind]
      rcases checkClaims m.clock claims with d | u
      · rfl
      · rfl
    simpa only [haccept] using hmap

/-! ### Tokens -/

/-- The clocks at which a token is refused with a defect of the kind. -/
def refusedAt (kind : Refusal.Kind) (algorithm : Algorithm) (secret token : Datum) : Set Moment :=
  {m | ∃ d, verify algorithm secret m.clock token = .error (.defect d) ∧ d.kind = kind}

/-- The clocks at which a token is verified. -/
def verifiedAt (algorithm : Algorithm) (secret token : Datum) : Set Moment :=
  {m | ∃ v, verify algorithm secret m.clock token = .ok v}

variable {algorithm : Algorithm} {secret token : Datum}

/-- The clock counts only for the claims of a token whose signature matches. -/
theorem verify_stage (algorithm : Algorithm) (secret token : Datum) :
    (∃ x, (∀ clock, verify algorithm secret clock token = x) ∧
      ∀ d, x = .error (.defect d) → d.kind = .malformed ∨ d.kind = .signature) ∨
    ∃ opened, ∀ clock, verify algorithm secret clock token = orDefect (acceptClaims clock opened) := by
  rcases token with - | b | n | x | s | l | l | l | bs | l
  case text =>
    rcases he : s.isEmpty with - | -
    · rcases ho : openFor algorithm s.toList with d | opened
      · refine .inl ⟨.error (.defect d), fun clock => ?_, ?_⟩
        · simp [verify, he, verifyText, ho, orDefect]
        · rintro d' ⟨⟩
          exact .inl (openFor_malformed _ _ d ho)
      rcases hk : Key.accept secret with f | key
      · refine .inl ⟨.error (.key f), fun clock => ?_, fun d h => by cases h⟩
        simp [verify, he, verifyText, ho, orDefect, hk]
      rcases hs : opened.signed algorithm key with - | -
      · refine .inl ⟨.error (.defect .signature), fun clock => ?_, ?_⟩
        · simp [verify, he, verifyText, ho, orDefect, hk, hs]
        · rintro d ⟨⟩
          exact .inr rfl
      · refine .inr ⟨opened, fun clock => ?_⟩
        simp [verify, he, verifyText, ho, orDefect, hk, hs]
    · refine .inl ⟨.error (.defect .noText), fun clock => ?_, ?_⟩
      · simp [verify, he]
      · rintro d ⟨⟩
        exact .inl rfl
  all_goals
    refine .inl ⟨.error (.defect .noText), fun clock => rfl, ?_⟩
    rintro d ⟨⟩
    exact .inl rfl

theorem orDefect_eq_error_iff {x : Except Defect α} {d : Defect} :
    orDefect x = .error (.defect d) ↔ x = .error d := by
  rcases x with d' | a <;> simp [orDefect]

/-- A verdict that is the same at every clock is of neither kind; the other verdicts are those on
claims. -/
theorem verify_phased (algorithm : Algorithm) (secret token : Datum) :
    IsLowerSet (refusedAt .premature algorithm secret token) ∧
      IsUpperSet (refusedAt .expired algorithm secret token) ∧
      ∀ m m', m ∉ refusedAt .premature algorithm secret token →
        m ∉ refusedAt .expired algorithm secret token →
        m' ∉ refusedAt .premature algorithm secret token →
        m' ∉ refusedAt .expired algorithm secret token →
        verify algorithm secret m.clock token = verify algorithm secret m'.clock token := by
  rcases verify_stage algorithm secret token with ⟨x, hx, hkind⟩ | ⟨opened, ho⟩
  · have hempty : ∀ kind, kind ≠ .malformed → kind ≠ .signature →
        refusedAt kind algorithm secret token = ∅ := by
      intro kind hm hs
      refine Set.eq_empty_of_forall_notMem ?_
      rintro m ⟨d, hd, rfl⟩
      rcases hkind d ((hx _).symm.trans hd) with h | h
      · exact hm h
      · exact hs h
    rw [hempty .premature (by decide) (by decide), hempty .expired (by decide) (by decide)]
    exact ⟨isLowerSet_empty, isUpperSet_empty, fun m m' _ _ _ _ => (hx _).trans (hx _).symm⟩
  · have hphased := phased_acceptClaims opened
    have hrefused : ∀ kind, refusedAt kind algorithm secret token =
        {m | Found kind (acceptClaims m.clock opened)} := by
      intro kind
      ext m
      simp only [refusedAt, Found, Set.mem_ofPred_eq, ho, orDefect_eq_error_iff]
    rw [hrefused, hrefused]
    refine ⟨hphased.premature, hphased.expired, fun m m' hp he hp' he' => ?_⟩
    have hsame := hphased.settled m m' (not_or.2 ⟨hp, he⟩) (not_or.2 ⟨hp', he'⟩)
    rw [ho, ho, hsame]

theorem notMem_refusedAt_of_verifiedAt {m : Moment} (h : m ∈ verifiedAt algorithm secret token)
    (kind : Refusal.Kind) : m ∉ refusedAt kind algorithm secret token := by
  rintro ⟨d, hd, -⟩
  obtain ⟨v, hv⟩ := h
  rw [hv] at hd
  cases hd

theorem notMem_refusedAt_of_ne {m : Moment} {kind other : Refusal.Kind} (hne : kind ≠ other)
    (h : m ∈ refusedAt kind algorithm secret token) : m ∉ refusedAt other algorithm secret token := by
  rintro ⟨d', hd', rfl⟩
  obtain ⟨d, hd, rfl⟩ := h
  cases hd.symm.trans hd'
  exact hne rfl

/-- **A token goes through its phases once**, whatever its text is: it is premature up to some clock
and expired from some clock on, and at all other clocks it has one verdict.  So a token that was
verified is verified until it has expired, the clocks at which it is verified are an interval, and an
expired token is never verified or premature again. -/
theorem verify_phases (algorithm : Algorithm) (secret token : Datum) :
    IsLowerSet (refusedAt .premature algorithm secret token) ∧
      IsUpperSet (refusedAt .expired algorithm secret token) ∧
      (∃ verdict, ∀ m, m ∉ refusedAt .premature algorithm secret token →
        m ∉ refusedAt .expired algorithm secret token →
        verify algorithm secret m.clock token = verdict) ∧
      (verifiedAt algorithm secret token).OrdConnected ∧
      (∀ m ∈ verifiedAt algorithm secret token, ∀ m' ≥ m,
        m' ∈ verifiedAt algorithm secret token ∨ m' ∈ refusedAt .expired algorithm secret token) ∧
      ∀ m ∈ refusedAt .expired algorithm secret token, ∀ m' ≥ m,
        m' ∉ verifiedAt algorithm secret token ∧
          m' ∉ refusedAt .premature algorithm secret token := by
  obtain ⟨hlower, hupper, hsettled⟩ := verify_phased algorithm secret token
  have hnever := fun (m : Moment) (hm : m ∈ verifiedAt algorithm secret token) =>
    notMem_refusedAt_of_verifiedAt hm
  -- a verified token is not premature later, so it is verified later unless it has expired
  have hstays : ∀ m ∈ verifiedAt algorithm secret token, ∀ m' ≥ m,
      m' ∉ refusedAt .expired algorithm secret token → m' ∈ verifiedAt algorithm secret token := by
    intro m hm m' hle he
    have hp : m' ∉ refusedAt .premature algorithm secret token :=
      fun hp => hnever m hm .premature (hlower hle hp)
    obtain ⟨v, hv⟩ := hm
    exact ⟨v, (hsettled m' m hp he (hnever m ⟨v, hv⟩ _) (hnever m ⟨v, hv⟩ _)).trans hv⟩
  refine ⟨hlower, hupper, ?_, ⟨?_⟩, ?_, ?_⟩
  · by_cases h : ∃ m, m ∉ refusedAt .premature algorithm secret token ∧
        m ∉ refusedAt .expired algorithm secret token
    · obtain ⟨m, hp, he⟩ := h
      exact ⟨_, fun m' hp' he' => hsettled m' m hp' he' hp he⟩
    · exact ⟨verify algorithm secret (.int 0) token, fun m hp he => absurd ⟨m, hp, he⟩ h⟩
  · intro m hm m'' hm'' m' hm'
    have he : m' ∉ refusedAt .expired algorithm secret token :=
      fun he => hnever m'' hm'' .expired (hupper hm'.2 he)
    exact hstays m hm m' hm'.1 he
  · intro m hm m' hle
    by_cases he : m' ∈ refusedAt .expired algorithm secret token
    · exact .inr he
    · exact .inl (hstays m hm m' hle he)
  · intro m hm m' hle
    have he := hupper hle hm
    exact ⟨fun hv => hnever m' hv _ he, notMem_refusedAt_of_ne (by decide) he⟩

/-- The payload of a token that expires before it is valid. -/
def neverPayload : Record Datum := [(Claim.notBefore, .int 9), (Claim.expires, .int 5)]

/-- A token that expires before it is valid is premature first, and then expired at once. -/
theorem verify_phases_neverPayload : ∃ token, sign .hs256 (.text "k") neverPayload = .ok token ∧
    (∀ m ≤ Moment.ofSecond 8, m ∈ refusedAt .premature .hs256 (.text "k") (.text token)) ∧
    ∀ m ≥ Moment.ofSecond 9, m ∈ refusedAt .expired .hs256 (.text "k") (.text token) := by
  have ho : (Datum.dict neverPayload).oversized = false := by
    refine Datum.oversized_dict_eq_false_iff.2 (List.forall_mem_cons.2 ⟨?_, ?_⟩)
    · exact Datum.unprintable_of_lt (by decide)
    · exact List.forall_mem_singleton.2 (Datum.unprintable_of_lt (by decide))
  have hflat : ∀ e ∈ neverPayload, e.2.Flat :=
    List.forall_mem_cons.2 ⟨.int 9, List.forall_mem_singleton.2 (.int 5)⟩
  obtain ⟨token, ht⟩ : ∃ token, sign .hs256 (.text "k") neverPayload = .ok token :=
    ⟨_, sign_of_fits rfl ho accept_letter⟩
  have hverify := verify_sign (by decide) hflat ht
  obtain ⟨hlower, hupper, -⟩ := verify_phases .hs256 (.text "k") (.text token)
  have hearly : Moment.ofSecond 8 ∈ refusedAt .premature .hs256 (.text "k") (.text token) :=
    ⟨.early .notBefore, hverify _, rfl⟩
  have hlate : Moment.ofSecond 9 ∈ refusedAt .expired .hs256 (.text "k") (.text token) :=
    ⟨.expired, hverify _, rfl⟩
  exact ⟨token, ht, fun m hm => hlower hm hearly, fun m hm => hupper hm hlate⟩

end Token

end TokenGate
