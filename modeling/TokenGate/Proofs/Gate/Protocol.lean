/-
The protocol of a gate.

Whoever stands around a gate relies on the order of its calls: nothing is attached before a
rejection, a rejection is told exactly once, and the next stage runs exactly once, last, and never
after a rejection.  `Settled` spells this out state by state, with the fields of the decision beside
the calls, and `process_settled` says that every decision of every gate is settled.  A decision has
one state, so it has one of these shapes and no other.
-/
import TokenGate.Proofs.Gate.Sliding

namespace TokenGate

/-- Every defect of a token makes it an invalid one. -/
theorem Defect.invalidates_kind (d : Defect) : d.kind.invalidates = true := by
  cases d <;> rfl

/-- A client with an invalid token is unauthorized. -/
theorem Refusal.Kind.status_of_invalidates {k : Refusal.Kind} (h : k.invalidates = true) :
    k.status = 401 := by
  cases k <;> first | rfl | cases h

namespace Gate

open Token

variable {α : Type}

/-! ### The shapes of a decision -/

/-- A request that is not for something guarded goes on at once: nothing is looked at. -/
def Free (request : Request) (next : Option Identity → α) (d : Decision α)
    (calls : List Call) : Prop :=
  request.constrained = false ∧
    d = { state := .noConstraint, result := some (next none) } ∧ calls = [.next]

/-- After the looks nothing happens but that the client is told why it is rejected. -/
def Rejected (d : Decision α) (looks calls : List Call) (r : Refusal) : Prop :=
  d = { state := d.state, refusal := some r } ∧
    ∃ message, d.message = some message ∧ calls = looks ++ [.unauthorized 401 message]

/-- After the looks the identity is attached, a renewed token is sent back if there is one, and the
next stage runs. -/
def Passed (g : Gate) (next : Option Identity → α) (d : Decision α) (looks calls : List Call)
    (renewed : Option String) : Prop :=
  ∃ identity, d =
    { state := d.state
      identity := some identity
      renewedToken := renewed
      result := some (next (some identity)) } ∧
    calls = looks ++ [.attach identity "TOKEN"] ++
      (renewed.toList.map (.setHeader g.headerName)) ++ [.next]

/-- A decision with the calls up to it, state by state. -/
def Settled (g : Gate) (request : Request) (next : Option Identity → α) (d : Decision α)
    (calls : List Call) : Prop :=
  let looks := (g.chain.search request).2.map Call.look
  match d.state with
  | .noConstraint => Free request next d calls
  | .rejectedMissing =>
    request.constrained = true ∧ ∃ r, Rejected d looks calls r ∧ r.kind = .tokenMissing
  | .rejectedInvalid =>
    request.constrained = true ∧ ∃ r, Rejected d looks calls r ∧ r.kind.invalidates = true
  | .authenticated => request.constrained = true ∧ Passed g next d looks calls none
  | .renewed => request.constrained = true ∧ ∃ token, Passed g next d looks calls (some token)

/-! ### Every decision is settled -/

/-- A passage that ends in a decision is one of a request that passes. -/
theorem Passage.settled {g : Gate} {request : Request} {next : Option Identity → α} {v : Verified}
    {identity : Identity} {clock : Number} {looks : List Lookup} {token : Option RawText}
    {nextId : Nat} {o : Outcome α} (hc : request.constrained = true)
    (hs : g.chain.search request = (token, looks))
    (hp : Passage g next v identity clock (looks.map .look) nextId o) {d : Decision α}
    (hd : o.decision = .ok d) : Settled g request next d o.calls := by
  cases hp with
  | unchanged hr =>
    obtain rfl := Except.ok.inj hd
    exact ⟨hc, identity, rfl, by simp [pass, hs, marker]⟩
  | renewed hr ht =>
    obtain rfl := Except.ok.inj hd
    exact ⟨hc, _, identity, rfl, by simp [passRenewed, hs, marker]⟩
  | kept hr ht hf =>
    obtain rfl := Except.ok.inj hd
    exact ⟨hc, identity, rfl, by simp [pass, hs, marker]⟩
  | broken hr ht hf => cases hd

/-- A rejection for a defect of the token is settled. -/
theorem settled_rejectInvalid {g : Gate} {request : Request} {next : Option Identity → α}
    {looks : List Lookup} {token : Option RawText} {nextId : Nat} (e : Defect)
    (hc : request.constrained = true) (hs : g.chain.search request = (token, looks))
    {d : Decision α} (hd : (rejectInvalid e (looks.map .look) nextId).decision = .ok d) :
    Settled g request next d (rejectInvalid (α := α) e (looks.map .look) nextId).calls := by
  obtain rfl := Except.ok.inj hd
  have hstatus : e.refusal.status = 401 :=
    Refusal.Kind.status_of_invalidates e.invalidates_kind
  refine ⟨hc, e.refusal, ⟨rfl, e.refusal.description, rfl, ?_⟩, e.invalidates_kind⟩
  rw [rejectInvalid, reject, hs, hstatus]

theorem settled_of_process (g : Gate) (request : Request) (clock : Number) (nextId : Nat)
    (next : Option Identity → α) {d : Decision α}
    (hd : (g.process request clock nextId next).decision = .ok d) :
    Settled g request next d (g.process request clock nextId next).calls := by
  obtain ⟨o, ho, hw⟩ := exists_way g request clock nextId next
  rw [ho] at hd ⊢
  cases hw with
  | free hc =>
    obtain rfl := Except.ok.inj hd
    exact ⟨hc, rfl, rfl⟩
  | missing hc hs =>
    obtain rfl := Except.ok.inj hd
    refine ⟨hc, ⟨.tokenMissing, ""⟩, ⟨rfl, _, rfl, ?_⟩, rfl⟩
    rw [rejectMissing, reject, hs]
    rfl
  | failed hc hs hv => cases hd
  | defective hc hs hv => exact settled_rejectInvalid _ hc hs hd
  | nameless hc hs hv hi => exact settled_rejectInvalid _ hc hs hd
  | unmapped hc hs hv hi hf => cases hd
  | granted hc hs hv hi hp => exact hp.settled hc hs hd

/-! ### What follows for the fields and the calls -/

/-- The fields that a state calls for are there, and no others. -/
structure Complete (d : Decision α) (calls : List Call) : Prop where
  next_iff : .next ∈ calls ↔ d.state.passes = true
  result_iff : d.result.isSome ↔ d.state.passes = true
  refusal_iff : d.refusal.isSome ↔ d.state.passes = false
  identity_iff : d.identity.isSome ↔ d.state = .authenticated ∨ d.state = .renewed
  renewedToken_iff : d.renewedToken.isSome ↔ d.state = .renewed

theorem Rejected.complete {d : Decision α} {looks : List Lookup} {calls : List Call} {r : Refusal}
    (h : Rejected d (looks.map .look) calls r)
    (hs : d.state = .rejectedMissing ∨ d.state = .rejectedInvalid) : Complete d calls := by
  obtain ⟨he, message, -, rfl⟩ := h
  obtain ⟨state, identity, renewedToken, refusal, result⟩ := d
  cases he
  rcases hs with hs | hs <;> cases hs <;> constructor <;> simp [State.passes]

theorem Passed.complete {g : Gate} {next : Option Identity → α} {d : Decision α}
    {looks : List Lookup} {calls : List Call} {renewed : Option String}
    (h : Passed g next d (looks.map .look) calls renewed)
    (hs : d.state = if renewed.isSome then .renewed else .authenticated) : Complete d calls := by
  obtain ⟨identity, he, rfl⟩ := h
  obtain ⟨state, _, renewedToken, refusal, result⟩ := d
  cases he
  rcases renewed with - | token <;> cases hs <;> constructor <;> simp [State.passes]

theorem Settled.complete {g : Gate} {request : Request} {next : Option Identity → α}
    {d : Decision α} {calls : List Call} (h : Settled g request next d calls) :
    Complete d calls := by
  rcases hs : d.state with - | - | - | - | - <;> simp only [Settled, hs] at h
  · obtain ⟨-, rfl, rfl⟩ := h
    constructor <;> simp [State.passes]
  · exact h.2.complete hs
  · obtain ⟨-, token, h⟩ := h
    exact h.complete hs
  · obtain ⟨-, r, h, -⟩ := h
    exact h.complete (.inl hs)
  · obtain ⟨-, r, h, -⟩ := h
    exact h.complete (.inr hs)

/-- **Every decision of a gate keeps the protocol**: with the calls up to it, it has exactly the
shape of its state. -/
theorem process_settled (g : Gate) (request : Request) (clock : Number) (nextId : Nat)
    (next : Option Identity → α) (d : Decision α)
    (hd : (g.process request clock nextId next).decision = .ok d) :
    Settled g request next d (g.process request clock nextId next).calls ∧
      Complete d (g.process request clock nextId next).calls :=
  have h := settled_of_process g request clock nextId next hd
  ⟨h, h.complete⟩

/-- The guest's token is renewed, and the calls are those of a request that passes with a new token. -/
theorem process_settled_guest : ∃ first token d,
    let o := usualGate.process (carrying first) (.int 0) 0 fun _ => ()
    o.decision = .ok d ∧ d.state = .renewed ∧ d.identity = some guest ∧
      d.renewedToken = some token ∧ .setHeader usualGate.headerName token ∈ o.calls ∧
      Settled usualGate (carrying first) (fun _ => ()) d o.calls ∧ Complete d o.calls := by
  have hopen : ∀ n, tenSeconds.expiry = some n → 0 < n := by
    rintro n ⟨⟩
    decide
  obtain ⟨first, -, token, -, -, -, -, -, hd⟩ := exists_session (fun _ => .int 0) rfl
    forward_tenSeconds (printable_tenSeconds le_rfl (by decide)) hopen rfl
  have hsettled := process_settled usualGate (carrying first) (.int 0) 0 (fun _ => ()) _ hd
  obtain ⟨-, renewed, identity, hfields, hcalls⟩ := hsettled.1
  cases congrArg Decision.renewedToken hfields
  refine ⟨first, token, _, hd, rfl, rfl, rfl, ?_, hsettled⟩
  rw [hcalls]
  simp

end Gate

end TokenGate
