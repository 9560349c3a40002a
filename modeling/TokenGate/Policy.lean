/-
Which reserved claims a token gets.

A `Policy` says whether a token carries its second of issue and an id, and holds the durations to
its expiry and back to its first valid second.  The setters take any value and refuse a duration
that is no integer: they give the policy as it is afterwards, and the failure if there is one.  A
negative duration is refused only by `validate`, before a token is made.
-/
import TokenGate.ClaimSet

namespace TokenGate

/-- The choice of reserved claims.  Durations are kept as given. -/
structure Policy where
  issuedAt : Bool := true
  expiry : Option Datum := none
  leeway : Option Datum := none
  tokenId : Bool := false

namespace Policy

/-- The second of issue is carried if the value counts as set. -/
def setIssuedAt (p : Policy) (value : Datum) : Policy := { p with issuedAt := value.truth }

/-- An id is carried if the value counts as set. -/
def setTokenId (p : Policy) (value : Datum) : Policy := { p with tokenId := value.truth }

/-- A duration for a setter: an integer, and no truth value. -/
def whole (duration : Duration) : Datum → Except Failure Datum
  | .int n => .ok (.int n)
  | d => .error (.durationKind duration d.kind)

/-- The seconds from issue to expiry. -/
def setExpiry (p : Policy) (value : Datum) : Policy × Option Failure :=
  match whole .expiry value with
  | .ok d => ({ p with expiry := some d }, none)
  | .error f => (p, some f)

/-- The seconds before issue from which on the token is valid. -/
def setLeeway (p : Policy) (value : Datum) : Policy × Option Failure :=
  match whole .leeway value with
  | .ok d => ({ p with leeway := some d }, none)
  | .error f => (p, some f)

/-- A duration that is set must be a number, and not below zero. -/
def checkDuration (duration : Duration) : Option Datum → Except Failure Unit
  | none => .ok ()
  | some d =>
    match d.number? with
    | none => .error (.durationOrder d.kind)
    | some x =>
      if x.isNegative then
        .error (if d.oversized then .unprintable else .negativeDuration duration d.display)
      else .ok ()

/-- The policy can be used; the expiry is looked at first. -/
def validate (p : Policy) : Except Failure Unit :=
  match checkDuration .expiry p.expiry with
  | .error f => .error f
  | .ok () => checkDuration .leeway p.leeway

end Policy

end TokenGate
