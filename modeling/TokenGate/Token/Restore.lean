/-
Taking a verified token back to what it was made of.

The seconds of expiry and of first validity become durations again, counted from the second of
issue; an id becomes the wish for a new one; every other claim is copied.  Without a second of issue
there is nothing to count from.
-/
import TokenGate.Token.Verify

namespace TokenGate.Token

/-- A value as an integer, or the failure of the operation. -/
def wholeSecond (d : Datum) : Except Failure Int :=
  match d.toInteger with
  | .ok n => .ok n
  | .error f => .error (.integer f)

/-- The duration from the second of issue to the expiry, if there is one. -/
def restoreExpiry (issuedAt : Datum) (expires : Option Datum) : Except Failure (Option Datum) :=
  match expires with
  | none => .ok none
  | some d => do
    let last ← wholeSecond d
    let first ← wholeSecond issuedAt
    return some (.int (last - first))

/-- The duration from the first valid second to the second of issue, if there is one. -/
def restoreLeeway (issuedAt : Datum) (notBefore : Option Datum) : Except Failure (Option Datum) :=
  match notBefore with
  | none => .ok none
  | some d => do
    let first ← wholeSecond issuedAt
    let start ← wholeSecond d
    return some (.int (first - start))

/-- The claims that a policy does not decide. -/
def applicationClaims (claims : Record Datum) : Record Datum :=
  claims.filter fun (name, _) => !Claim.reserved.contains name

/-- The claims and the policy of a verified token. -/
def restore (v : Verified) : Except Failure (ClaimSet × Policy) :=
  match v.given? Claim.issuedAt with
  | none => .error .issuedAtMissing
  | some issuedAt => do
    let expiry ← restoreExpiry issuedAt (v.given? Claim.expires)
    let leeway ← restoreLeeway issuedAt (v.given? Claim.notBefore)
    let claims ← ClaimSet.ofRecord (applicationClaims v.claims)
    return (claims, ⟨true, expiry, leeway, (v.given? Claim.tokenId).isSome⟩)

end TokenGate.Token
