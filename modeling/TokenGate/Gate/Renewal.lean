/-
Renewing a token that has been verified.

The token is taken back to its claims and its policy, the identity is written under the usual names
where they are missing, and a new token is issued for it.  A renewal that fails for a reason of the
token (`forgiven`) leaves the request as it is; every other failure is passed on.
-/
import TokenGate.Gate.Decision
import TokenGate.Token.Builder

namespace TokenGate.Gate

/-- Failures that only cost the renewal: the token cannot be taken back or written again. -/
def forgiven (f : Failure) : Bool :=
  match f.category with
  | .refusal .issuedAtMissing | .refusal .policy | .wrongKind | .wrongValue => true
  | _ => false

/-- A builder with a claim that it lacks. -/
def fillIn (name : String) (value : Datum) (b : Builder) : Except Failure Builder :=
  if b.claims.contains name then .ok b else unlessFailed (b.putClaim name value)

/-- A builder with the identity under the usual names, where they are missing. -/
def fillInIdentity (identity : Identity) (b : Builder) : Except Failure Builder := do
  let b ← fillIn Claim.userId (.text identity.userId) b
  fillIn Claim.roles (.tuple (identity.roles.map .text)) b

/-- What trying to renew leaves: a token or a failure, the events, and the next free id number. -/
structure Renewal where
  outcome : Except Failure String
  events : List Event
  nextId : Nat

/-- A token issued from a restored builder. -/
def reissue (b : Builder) (identity : Identity) (clock : Number) (nextId : Nat) : Token.Issued :=
  match fillInIdentity identity b with
  | .error f => ⟨.error f, nextId⟩
  | .ok b => b.build clock nextId

/-- The attempt to renew a verified token. -/
def attemptRenewal (algorithm : Algorithm) (secret : Datum) (v : Verified) (identity : Identity)
    (clock : Number) (nextId : Nat) : Renewal :=
  match Token.restore v with
  | .error f => ⟨.error f, [], nextId⟩
  | .ok (claims, policy) =>
    let issued : Token.Issued :=
      match Builder.make algorithm secret claims policy with
      | .error f => ⟨.error f, nextId⟩
      | .ok b => reissue b identity clock nextId
    ⟨issued.outcome, [.rebuilt claims.size policy.tokenId], issued.nextId⟩

end TokenGate.Gate
