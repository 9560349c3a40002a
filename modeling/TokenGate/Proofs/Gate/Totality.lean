/-
A gate decides on whatever can be written in bytes.

Anyone can send anything where a gate looks for a token.  `process_decides` says how far this can make
the gate fail: with a secret that serves as a key, every request is let through or rejected, and every
text gets a verdict, unless the token is torn.  Half of a surrogate pair has no bytes, and the failure
to write it is no defect of a token (`torn_token_escapes`).

* A verdict is reached on whatever is presented (`exists_check`); all that can go wrong with a text is
  a defect of it (`verify_eq_error_of_accept`).  A time that is no integer is such a defect
  (`verify_ne_ok_of_unreadable`).
* Claims speak for an identity or lack the user (`Identity.Mapping.Usable.identity_eq_error`), if the
  names of the mapping can be looked up.
* What is left is the renewal, whose failures are forgiven.
-/
import TokenGate.Proofs.Gate.Transparency

namespace TokenGate

open Token

/-! ### Verdicts -/

namespace Token

variable {algorithm : Algorithm} {secret token : Datum} {clock : Number} {key : List UInt8}
  {text : String} {claims : Record Datum} {v : Verified} {f : Failure}

theorem orDefect_eq_error_of {α : Type} {x : Except Defect α} (h : orDefect x = .error f) :
    ∃ d, f = .defect d := by
  rcases x with d | a
  · cases h
    exact ⟨d, rfl⟩
  · cases h

/-- Under a key, nothing but a defect keeps a token from being verified. -/
theorem verify_eq_error_of_accept (hk : Key.accept secret = .ok key)
    (h : verify algorithm secret clock token = .error f) : ∃ d, f = .defect d := by
  rcases token with - | b | n | x | s | l | l | l | bs | l
  case text =>
    rw [verify] at h
    split at h
    · cases h
      exact ⟨_, rfl⟩
    rcases bind_eq_error.1 h with h | ⟨opened, -, h⟩
    · exact orDefect_eq_error_of h
    rw [hk] at h
    dsimp only at h
    split at h
    · exact orDefect_eq_error_of h
    · cases h
      exact ⟨_, rfl⟩
  all_goals
    cases h
    exact ⟨_, rfl⟩

/-- **A verdict is reached on whatever is presented.** -/
theorem exists_check (hk : Key.accept secret = .ok key) (algorithm : Algorithm) (clock : Number)
    (token : Datum) : ∃ verdict, check algorithm secret clock token = .ok verdict := by
  rw [check]
  rcases hv : verify algorithm secret clock token with f | v
  · obtain ⟨d, rfl⟩ := verify_eq_error_of_accept hk hv
    exact ⟨_, rfl⟩
  · exact ⟨_, rfl⟩

/-! ### Times that are no integers -/

/-- A token carries the claims that are returned for it. -/
theorem carries_of_verify (h : verify algorithm secret clock (.text text) = .ok v) :
    Carries text v.claims := by
  obtain ⟨s, opened, key, he, ho, -, -, -, hread, -⟩ := verify_eq_ok h
  cases he
  obtain ⟨htext, hfirst, hlast, -, -, hpayload, -⟩ := openFor_eq_ok ho
  refine ⟨opened.segments, ?_, opened.payload, hpayload, hread⟩
  rw [htext, Segments.ofText?_text hfirst hlast]

/-- A token carries one set of claims. -/
theorem Carries.unique {claims' : Record Datum} (h : Carries text claims)
    (h' : Carries text claims') : claims = claims' := by
  obtain ⟨s, hs, bytes, hb, hr⟩ := h
  obtain ⟨s', hs', bytes', hb', hr'⟩ := h'
  cases hs.symm.trans hs'
  cases hb.symm.trans hb'
  cases hr.symm.trans hr'
  rfl

/-- The claims have a time that is there and is no integer: null, a list, an object, a text that is no
numeral, or a number that is not finite. -/
def Unreadable (claims : Record Datum) : Prop :=
  ∃ claim : TimeClaim, ∃ d, claims.get? claim.name = some d ∧ ∀ n, d.toInteger ≠ .ok n

/-- **A token with a time that is no integer is not verified**, whoever signed it. -/
theorem verify_ne_ok_of_unreadable (hc : Carries text claims) (hu : Unreadable claims) :
    verify algorithm secret clock (.text text) ≠ .ok v := by
  intro hv
  obtain rfl := hc.unique (carries_of_verify hv)
  obtain ⟨claim, d, hd, hn⟩ := hu
  obtain ⟨hchecked, -⟩ := checked_of_verify hv
  obtain ⟨n, htime, -⟩ := checkTime_eq_ok (hchecked.time claim) hd
  exact hn n htime

theorem check_of_unreadable (hk : Key.accept secret = .ok key) (hc : Carries text claims)
    (hu : Unreadable claims) (algorithm : Algorithm) (clock : Number) :
    ∃ d, check algorithm secret clock (.text text) = .ok (.error d) := by
  obtain ⟨verdict, h⟩ := exists_check hk algorithm clock (.text text)
  rcases verdict with d | v
  · exact ⟨d, h⟩
  · exact absurd (verify_of_check h) (verify_ne_ok_of_unreadable hc hu)

end Token

/-! ### Identities -/

namespace Identity

/-- The names of a mapping can be looked up, and that of the user's claim can be written in a message.
-/
structure Mapping.Usable (m : Mapping) : Prop where
  userId : m.userIdClaim.changeable? = none
  shown : m.userIdClaim.oversized = false
  roles : m.rolesClaim.changeable? = none

variable {m : Mapping} {claims : Record Datum} {f : Failure}

/-- Texts are such names. -/
theorem Mapping.usable_of_texts {user roles : String} (hu : m.userIdClaim = .text user)
    (hr : m.rolesClaim = .text roles) : m.Usable := by
  refine ⟨?_, ?_, ?_⟩
  · rw [hu]
    rfl
  · rw [hu]
    rfl
  · rw [hr]
    rfl

theorem Mapping.userMissing_eq_error {α : Type} (h : m.userIdClaim.oversized = false) :
    ∃ d, m.userMissing (α := α) = .error (.defect d) := by
  rw [userMissing, Datum.shown, h]
  exact ⟨_, rfl⟩

/-- **Claims that speak for no identity lack the user**, which is a defect. -/
theorem Mapping.Usable.identity_eq_error (hm : m.Usable) (h : m.identity claims = .error f) :
    ∃ d, f = .defect d := by
  obtain ⟨d, hmissing⟩ := userMissing_eq_error (α := String) hm.shown
  rcases bind_eq_error.1 h with h | ⟨user, -, h⟩
  · obtain ⟨found, hf⟩ := exists_claim? hm.userId claims
    rw [Mapping.userId, hf, ok_bind, hmissing] at h
    split at h
    · split at h
      · cases h
        exact ⟨d, rfl⟩
      · cases h
    · cases h
      exact ⟨d, rfl⟩
  -- the roles are always found
  · obtain ⟨found, hf⟩ := exists_claim? hm.roles claims
    rw [Mapping.roles, hf] at h
    cases h

end Identity

/-- Nothing that the request carries is torn. -/
def Request.Whole (request : Request) : Prop := ∀ l torn, request.value? l ≠ some (.torn torn)

/-- Out of whole values no torn token is read. -/
theorem Chain.search_ne_torn {chain : Chain} {request : Request} (h : request.Whole) (torn : Torn) :
    (chain.search request).1 ≠ some (.torn torn) := by
  intro hs
  obtain ⟨s, -, hread⟩ := Source.exists_read?_of_search hs
  obtain ⟨value, hvalue, -⟩ := Source.read?_eq_torn_iff.1 hread
  exact h _ value hvalue

namespace Gate

/-! ### Decisions -/

variable {α : Type} {g : Gate} {clock : Number} {key : List UInt8}

/-- A guarded request carries a torn text where the gate finds its token. -/
def MeetsTorn (g : Gate) (request : Request) (torn : Torn) : Prop :=
  request.constrained = true ∧ (g.chain.search request).1 = some (.torn torn)

/-- Under a key the only failure of a request is that its token is torn. -/
theorem decision_eq_error_iff (hk : Key.accept g.secret = .ok key) (hm : g.mapping.Usable)
    (hc : clock ≠ .float (.infinite false)) {request : Request} {nextId : Nat}
    {next : Option Identity → α} {f : Failure} :
    (g.process request clock nextId next).decision = .error f ↔
      ∃ torn, g.MeetsTorn request torn ∧ f = .unencodable torn := by
  constructor
  · intro h
    rcases error_of_process h with ⟨hcon, token | torn, hs, hv⟩ | ⟨claims, hi, hf⟩ |
      ⟨text, v, identity, hv, hr, hf⟩
    · obtain ⟨verdict, hverdict⟩ := exists_check hk g.algorithm clock (.text token)
      cases hv.symm.trans hverdict
    · exact ⟨torn, ⟨hcon, hs⟩, (Except.error.inj hv).symm⟩
    · obtain ⟨d, rfl⟩ := hm.identity_eq_error hi
      exact absurd rfl (hf d)
    · have ho := obstacle_of_attemptRenewal (verify_of_check hv) hc hr
      cases hf.symm.trans ho.forgiven
  · rintro ⟨torn, ⟨hcon, hs⟩, rfl⟩
    have hway : g.Way request clock nextId next _ := .failed hcon (Prod.ext hs rfl) rfl
    rw [hway.process_eq]

/-- **A gate decides on whatever it can write in bytes.**  With a secret that serves as a key, a
request without torn texts is let through or rejected, and so is every other one unless the text that
its token is read from is torn: this alone ends in a failure, and in no decision.  Every text gets a
verdict if it is not torn, and none if it is; a token with a time that is no integer is found
defective.  The names of the mapping are texts, or anything else that can be looked up; and no clock
stands at plus infinity. -/
theorem process_decides (hk : Key.accept g.secret = .ok key) (hm : g.mapping.Usable)
    (hc : clock ≠ .float (.infinite false)) (request : Request) (nextId : Nat)
    (next : Option Identity → α) :
    (request.Whole → ∃ d, (g.process request clock nextId next).decision = .ok d) ∧
      (∀ f, (g.process request clock nextId next).decision = .error f ↔
        ∃ torn, g.MeetsTorn request torn ∧ f = .unencodable torn) ∧
      (∀ t (text : String),
        ∃ verdict, checkRaw g.algorithm g.secret t (.text text) = .ok verdict) ∧
      (∀ t torn, checkRaw g.algorithm g.secret t (.torn torn) = .error (.unencodable torn)) ∧
      ∀ t text claims, Carries text claims → Unreadable claims →
        ∃ defect, checkRaw g.algorithm g.secret t (.text text) = .ok (.error defect) := by
  refine ⟨fun hwhole => ?_, fun f => decision_eq_error_iff hk hm hc, fun t text => exists_check hk _ t _,
    fun t torn => rfl, fun t text claims hcarries hu => check_of_unreadable hk hcarries hu _ t⟩
  rcases hd : (g.process request clock nextId next).decision with f | d
  · obtain ⟨torn, ⟨-, hs⟩, -⟩ := (decision_eq_error_iff hk hm hc).1 hd
    exact absurd hs (Chain.search_ne_torn hwhole torn)
  · exact ⟨d, rfl⟩

/-- The payload of a token whose expiry is a word. -/
def soonPayload : Record Datum := [(Claim.expires, .text "soon")]

theorem unreadable_soonPayload : Unreadable soonPayload := by
  refine ⟨.expires, .text "soon", rfl, fun n hn => ?_⟩
  cases hn

theorem whole_carrying (token : String) : (carrying token).Whole := by
  intro l torn h
  change (if l = _ then some (RawText.text token) else none) = _ at h
  split at h
  · cases h
  · cases h

/-- A token that was signed correctly, but with a word for its expiry, is found defective. -/
theorem process_decides_soonPayload : ∃ token,
    sign .hs256 (.text "k") soonPayload = .ok token ∧ Key.accept usualGate.secret = .ok [0x6b] ∧
      usualGate.mapping.Usable ∧ Number.int 0 ≠ .float (.infinite false) ∧
      (carrying token).Whole ∧
      (∃ d, (usualGate.process (carrying token) (.int 0) 0 fun _ => ()).decision = .ok d) ∧
      ∃ defect, checkRaw usualGate.algorithm usualGate.secret (.int 0) (.text token) =
        .ok (.error defect) := by
  have hflat : ∀ e ∈ soonPayload, e.2.Flat := List.forall_mem_singleton.2 (.text _)
  obtain ⟨token, hsign⟩ : ∃ token, sign .hs256 (.text "k") soonPayload = .ok token :=
    ⟨_, sign_of_fits rfl rfl accept_letter⟩
  have hm : usualGate.mapping.Usable := Identity.Mapping.usable_of_texts rfl rfl
  have hclock : Number.int 0 ≠ .float (.infinite false) := by rintro ⟨⟩
  have hwhole := whole_carrying token
  obtain ⟨hdecides, -, -, -, hdefective⟩ := process_decides (g := usualGate) accept_letter hm hclock
    (carrying token) 0 fun _ => ()
  exact ⟨token, hsign, accept_letter, hm, hclock, hwhole, hdecides hwhole,
    hdefective _ _ _ (carries_sign (by decide) hflat hsign) unreadable_soonPayload⟩

/-- A guarded request with half of a surrogate pair in the usual header. -/
def carryingHalf : Request :=
  .ofPairs true [(Source.defaultHeader, .torn ⟨"", 0, []⟩)] [] []

/-- **One half of a surrogate pair is enough for a request to get no decision**: it has no bytes, which
is noticed before anything else and is no defect of the token. -/
theorem torn_token_escapes :
    Key.accept usualGate.secret = .ok [0x6b] ∧ usualGate.mapping.Usable ∧
      carryingHalf.constrained = true ∧
      (∀ d, (usualGate.process carryingHalf (.int 0) 0 fun _ => ()).decision ≠ .ok d) ∧
      ∀ verdict, checkRaw usualGate.algorithm usualGate.secret (.int 0) (.torn ⟨"", 0, []⟩) ≠
        .ok verdict := by
  have hm : usualGate.mapping.Usable := Identity.Mapping.usable_of_texts rfl rfl
  have hclock : Number.int 0 ≠ .float (.infinite false) := by rintro ⟨⟩
  have hfound : (usualGate.chain.search carryingHalf).1 = some (.torn ⟨"", 0, []⟩) := by
    decide +kernel
  have hfails : (usualGate.process carryingHalf (.int 0) 0 fun _ => ()).decision =
      .error (.unencodable ⟨"", 0, []⟩) :=
    (decision_eq_error_iff accept_letter hm hclock).2 ⟨_, ⟨rfl, hfound⟩, rfl⟩
  refine ⟨accept_letter, hm, rfl, fun d hd => ?_, fun verdict h => nomatch h⟩
  cases hd.symm.trans hfails

end Gate

end TokenGate
