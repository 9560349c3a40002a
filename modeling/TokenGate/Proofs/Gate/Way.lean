/-
The ways through a gate.

`process` branches on the request, on the verdict on its token, on the identity in the claims and on
the renewal.  Here each branch is said once, with everything that was known on the way there:

* `Way` lists how a request ends, up to the point where its token is found to be valid;
* `Passage` lists how it goes on from there, with and without a renewed token.

`exists_way` and `grant_passage` say that there are no other ways, and `Way.process_eq` that each of
them is taken where it is described.  What is proved about the outcome of every request is proved by
cases on these two.
-/
import TokenGate.Gate

namespace TokenGate.Gate

variable {α : Type}

/-! ### Once the token is valid -/

/-- How a request with a valid token goes on. -/
inductive Passage (g : Gate) (next : Option Identity → α) (v : Verified) (identity : Identity)
    (clock : Number) (looks : List Call) (nextId : Nat) : Outcome α → Prop
  | unchanged (hr : g.renew = false) :
      Passage g next v identity clock looks nextId
        (pass next identity (looks ++ [.attach identity marker]) [.authenticated identity.userId]
          nextId)
  | renewed {token : String} {events : List Event} {freeId : Nat} (hr : g.renew = true)
      (ht : attemptRenewal g.algorithm g.secret v identity clock nextId =
        ⟨.ok token, events, freeId⟩) :
      Passage g next v identity clock looks nextId
        (passRenewed g next identity token (looks ++ [.attach identity marker])
          (.authenticated identity.userId :: events) freeId)
  | kept {f : Failure} {events : List Event} {freeId : Nat} (hr : g.renew = true)
      (ht : attemptRenewal g.algorithm g.secret v identity clock nextId =
        ⟨.error f, events, freeId⟩)
      (hf : forgiven f = true) :
      Passage g next v identity clock looks nextId
        (pass next identity (looks ++ [.attach identity marker])
          (.authenticated identity.userId :: events ++
            [.renewalFailed f.message identity.userId]) freeId)
  | broken {f : Failure} {events : List Event} {freeId : Nat} (hr : g.renew = true)
      (ht : attemptRenewal g.algorithm g.secret v identity clock nextId =
        ⟨.error f, events, freeId⟩)
      (hf : forgiven f = false) :
      Passage g next v identity clock looks nextId
        ⟨.error f, looks ++ [.attach identity marker], .authenticated identity.userId :: events,
          freeId⟩

theorem grant_passage (g : Gate) (next : Option Identity → α) (v : Verified) (identity : Identity)
    (clock : Number) (looks : List Call) (nextId : Nat) :
    Passage g next v identity clock looks nextId
      (grant g next v identity clock looks nextId) := by
  rcases hr : g.renew with - | -
  · rw [grant, hr, if_neg (by simp)]
    exact .unchanged hr
  · rw [grant, hr, if_pos rfl]
    rcases ht : attemptRenewal g.algorithm g.secret v identity clock nextId with
      ⟨f | token, events, freeId⟩
    · rcases hf : forgiven f with - | -
      · simp only [passRenewing, ht, hf]
        exact .broken hr ht hf
      · simp only [passRenewing, ht, hf]
        exact .kept hr ht hf
    · simp only [passRenewing, ht]
      exact .renewed hr ht

/-! ### The whole way -/

/-- How a request ends, or comes to have a valid token. -/
inductive Way (g : Gate) (request : Request) (clock : Number) (nextId : Nat)
    (next : Option Identity → α) : Outcome α → Prop
  | free (hc : request.constrained = false) :
      Way g request clock nextId next
        ⟨.ok { state := .noConstraint, result := some (next none) }, [.next], [], nextId⟩
  | missing {looks : List Lookup} (hc : request.constrained = true)
      (hs : g.chain.search request = (none, looks)) :
      Way g request clock nextId next (rejectMissing (looks.map .look) nextId)
  | failed {token : RawText} {looks : List Lookup} {f : Failure} (hc : request.constrained = true)
      (hs : g.chain.search request = (some token, looks))
      (hv : Token.checkRaw g.algorithm g.secret clock token = .error f) :
      Way g request clock nextId next ⟨.error f, looks.map .look, [], nextId⟩
  | defective {token : String} {looks : List Lookup} {d : Defect} (hc : request.constrained = true)
      (hs : g.chain.search request = (some (.text token), looks))
      (hv : Token.check g.algorithm g.secret clock (.text token) = .ok (.error d)) :
      Way g request clock nextId next (rejectInvalid d (looks.map .look) nextId)
  | nameless {token : String} {looks : List Lookup} {v : Verified} {d : Defect}
      (hc : request.constrained = true)
      (hs : g.chain.search request = (some (.text token), looks))
      (hv : Token.check g.algorithm g.secret clock (.text token) = .ok (.ok v))
      (hi : g.mapping.identity v.claims = .error (.defect d)) :
      Way g request clock nextId next (rejectInvalid d (looks.map .look) nextId)
  | unmapped {token : String} {looks : List Lookup} {v : Verified} {f : Failure}
      (hc : request.constrained = true)
      (hs : g.chain.search request = (some (.text token), looks))
      (hv : Token.check g.algorithm g.secret clock (.text token) = .ok (.ok v))
      (hi : g.mapping.identity v.claims = .error f) (hf : ∀ d, f ≠ .defect d) :
      Way g request clock nextId next ⟨.error f, looks.map .look, [], nextId⟩
  | granted {token : String} {looks : List Lookup} {v : Verified} {identity : Identity}
      {o : Outcome α} (hc : request.constrained = true)
      (hs : g.chain.search request = (some (.text token), looks))
      (hv : Token.check g.algorithm g.secret clock (.text token) = .ok (.ok v))
      (hi : g.mapping.identity v.claims = .ok identity)
      (hp : Passage g next v identity clock (looks.map .look) nextId o) :
      Way g request clock nextId next o

theorem process_way (g : Gate) (request : Request) (clock : Number) (nextId : Nat)
    (next : Option Identity → α) :
    Way g request clock nextId next (g.process request clock nextId next) := by
  rcases hc : request.constrained with - | -
  · rw [process, hc, if_neg (by simp)]
    exact .free hc
  · rw [process, hc, if_pos rfl]
    rcases hs : g.chain.search request with ⟨- | token, looks⟩
    · exact .missing hc hs
    · dsimp only
      rcases token with token | torn
      -- a failure that is no defect, a defect, and a verified token
      · rcases hv : Token.check g.algorithm g.secret clock (.text token) with f | d | v
        · simp only [judge, Token.checkRaw, hv]
          exact .failed hc hs hv
        · simp only [judge, Token.checkRaw, hv]
          exact .defective hc hs hv
        · simp only [judge, Token.checkRaw, hv]
          split
          · next d hi => exact .nameless hc hs hv hi
          · next f hf hi => exact .unmapped hc hs hv hi hf
          · next identity hi =>
            exact .granted hc hs hv hi (grant_passage g next v identity clock _ nextId)
      · exact .failed hc hs rfl

/-- The outcome of a request, with the way that led to it. -/
theorem exists_way (g : Gate) (request : Request) (clock : Number) (nextId : Nat)
    (next : Option Identity → α) : ∃ o, g.process request clock nextId next = o ∧
    Way g request clock nextId next o :=
  ⟨_, rfl, process_way g request clock nextId next⟩

/-! ### Only one way -/

variable {g : Gate} {request : Request} {clock : Number} {nextId : Nat}
  {next : Option Identity → α} {o : Outcome α}

theorem Passage.grant_eq {v : Verified} {identity : Identity} {looks : List Call}
    (h : Passage g next v identity clock looks nextId o) :
    grant g next v identity clock looks nextId = o := by
  cases h with
  | unchanged hr => rw [grant, hr, if_neg Bool.false_ne_true]
  | renewed hr ht => simp only [grant, if_pos hr, passRenewing, ht]; rfl
  | kept hr ht hf => simp only [grant, if_pos hr, passRenewing, ht, if_pos hf]; rfl
  | broken hr ht hf => simp only [grant, if_pos hr, passRenewing, ht, hf]; rfl

/-- What a way describes is what becomes of the request. -/
theorem Way.process_eq (h : Way g request clock nextId next o) :
    g.process request clock nextId next = o := by
  cases h with
  | free hc => rw [process, hc, if_neg Bool.false_ne_true]
  | missing hc hs => simp only [process, if_pos hc, hs]
  | failed hc hs hv => simp only [process, if_pos hc, hs, judge, hv]
  | defective hc hs hv => simp only [process, if_pos hc, hs, judge, Token.checkRaw, hv]
  | nameless hc hs hv hi => simp only [process, if_pos hc, hs, judge, Token.checkRaw, hv, hi]
  | unmapped hc hs hv hi hf =>
    simp only [process, if_pos hc, hs, judge, Token.checkRaw, hv]
    split
    · next d he => exact absurd (Except.error.inj (hi.symm.trans he)) (hf d)
    · next f he => rw [Except.error.inj (hi.symm.trans he)]
    · next identity he => cases hi.symm.trans he
  | granted hc hs hv hi hp =>
    simp only [process, if_pos hc, hs, judge, Token.checkRaw, hv, hi, hp.grant_eq]

/-- A request fails only where its token gets no verdict, where the claims speak for no identity and
have no defect, or where a renewal fails for another reason than the token. -/
theorem error_of_process {f : Failure}
    (h : (g.process request clock nextId next).decision = .error f) :
    (request.constrained = true ∧ ∃ token, (g.chain.search request).1 = some token ∧
        Token.checkRaw g.algorithm g.secret clock token = .error f) ∨
      (∃ claims, g.mapping.identity claims = .error f ∧ ∀ d, f ≠ .defect d) ∨
      ∃ token v identity, Token.check g.algorithm g.secret clock (.text token) = .ok (.ok v) ∧
        (attemptRenewal g.algorithm g.secret v identity clock nextId).outcome = .error f ∧
        forgiven f = false := by
  obtain ⟨o, ho, hw⟩ := exists_way g request clock nextId next
  rw [ho] at h
  cases hw with
  | free | missing | defective | nameless => cases h
  | failed hc hs hv =>
    cases h
    exact .inl ⟨hc, _, congrArg Prod.fst hs, hv⟩
  | unmapped hc hs hv hi hf =>
    cases h
    exact .inr (.inl ⟨_, hi, hf⟩)
  | granted hc hs hv hi hp =>
    cases hp with
    | unchanged | renewed | kept => cases h
    | broken hr ht hf =>
      cases h
      exact .inr (.inr ⟨_, _, _, hv, congrArg Renewal.outcome ht, hf⟩)

end TokenGate.Gate
