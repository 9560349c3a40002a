/-
Gates: who may pass.

A `Gate` looks for the token of a request that is guarded, verifies it, reads the identity out of it
and attaches it; with renewal on, it sends a new token back.  Only then does the next stage run,
exactly once.  A request without a token, or with one that is not valid, is answered as
unauthorized, and the next stage never runs.  `process` is the whole of it; each way through it has
a function of its own.
-/
import TokenGate.Config
import TokenGate.Gate.Renewal

namespace TokenGate

/-- A gate: a secret with an algorithm, where tokens and identities are found, and whether tokens
are renewed. -/
structure Gate where
  secret : Datum
  algorithm : Algorithm
  renew : Bool
  mapping : Identity.Mapping
  headerName : Datum
  chain : Chain

namespace Gate

/-! ### Making a gate -/

/-- The gate of a configuration; an algorithm or sources of its own come before the configured
ones. -/
def ofConfig (config : Config) (algorithm : Option Datum)
    (sources : Option (List Source.Description)) : Except Failure Gate := do
  let config ← config.check
  let algorithm ← Algorithm.check (algorithm.getD config.algorithm)
  let names : Chain.Names := ⟨config.headerName, config.parameterName, config.cookieName⟩
  let chain ← Chain.ofDescriptions (sources.getD names.sources)
  return ⟨config.secret, algorithm, config.renew.truth, ⟨config.userIdClaim, config.rolesClaim⟩,
    config.headerName, chain⟩

/-- The gate of settings by their names. -/
def ofFields (fields : Record Datum) (algorithm : Option Datum)
    (sources : Option (List Source.Description)) : Except Failure Gate := do
  ofConfig (← Config.ofFields fields) algorithm sources

/-! ### Ways through the gate -/

/-- The answer to a request that is rejected. -/
def reject {α : Type} (state : State) (r : Refusal) (looks : List Call) (event : Event)
    (nextId : Nat) : Outcome α :=
  ⟨.ok { state, refusal := some r }, looks ++ [.unauthorized r.status r.description], [event],
    nextId⟩

/-- The answer to a request without a token. -/
def rejectMissing {α : Type} (looks : List Call) (nextId : Nat) : Outcome α :=
  reject .rejectedMissing ⟨.tokenMissing, ""⟩ looks .tokenMissing nextId

/-- The answer to a request whose token is not valid. -/
def rejectInvalid {α : Type} (d : Defect) (looks : List Call) (nextId : Nat) : Outcome α :=
  reject .rejectedInvalid d.refusal looks (.tokenRejected d.refusal) nextId

/-- The answer to a request that passes as it is. -/
def pass {α : Type} (next : Option Identity → α) (identity : Identity) (calls : List Call)
    (events : List Event) (nextId : Nat) : Outcome α :=
  let result := some (next (some identity))
  ⟨.ok { state := .authenticated, identity := some identity, result }, calls ++ [.next], events,
    nextId⟩

/-- The answer to a request that passes with a renewed token. -/
def passRenewed {α : Type} (g : Gate) (next : Option Identity → α) (identity : Identity)
    (token : String) (calls : List Call) (events : List Event) (nextId : Nat) : Outcome α :=
  ⟨.ok
    { state := .renewed
      identity := some identity
      renewedToken := some token
      result := some (next (some identity)) },
    calls ++ [.setHeader g.headerName token, .next],
    events ++ [.renewed identity.userId], nextId⟩

/-- The answer to a request that passes, with the token renewed if that works. -/
def passRenewing {α : Type} (g : Gate) (next : Option Identity → α) (v : Verified)
    (identity : Identity) (clock : Number) (calls : List Call) (events : List Event)
    (nextId : Nat) : Outcome α :=
  let r := attemptRenewal g.algorithm g.secret v identity clock nextId
  match r.outcome with
  | .ok token => passRenewed g next identity token calls (events ++ r.events) r.nextId
  | .error f =>
    if forgiven f then
      pass next identity calls
        (events ++ r.events ++ [.renewalFailed f.message identity.userId]) r.nextId
    else ⟨.error f, calls, events ++ r.events, r.nextId⟩

/-- The answer to a request whose token is valid. -/
def grant {α : Type} (g : Gate) (next : Option Identity → α) (v : Verified) (identity : Identity)
    (clock : Number) (looks : List Call) (nextId : Nat) : Outcome α :=
  let calls := looks ++ [.attach identity marker]
  let events := [.authenticated identity.userId]
  if g.renew then passRenewing g next v identity clock calls events nextId
  else pass next identity calls events nextId

/-- The answer to a request with a token. -/
def judge {α : Type} (g : Gate) (next : Option Identity → α) (token : RawText) (clock : Number)
    (looks : List Call) (nextId : Nat) : Outcome α :=
  match Token.checkRaw g.algorithm g.secret clock token with
  | .error f => ⟨.error f, looks, [], nextId⟩
  | .ok (.error d) => rejectInvalid d looks nextId
  | .ok (.ok v) =>
    match g.mapping.identity v.claims with
    | .error (.defect d) => rejectInvalid d looks nextId
    | .error f => ⟨.error f, looks, [], nextId⟩
    | .ok identity => grant g next v identity clock looks nextId

/-! ### The whole -/

/-- What becomes of a request.  The next stage sees the identity of the request, if it has one. -/
def process {α : Type} (g : Gate) (request : Request) (clock : Number) (nextId : Nat)
    (next : Option Identity → α) : Outcome α :=
  if request.constrained then
    let (token, lookups) := g.chain.search request
    let looks := lookups.map Call.look
    match token with
    | none => rejectMissing looks nextId
    | some token => judge g next token clock looks nextId
  else ⟨.ok { state := .noConstraint, result := some (next none) }, [.next], [], nextId⟩

end Gate

end TokenGate
