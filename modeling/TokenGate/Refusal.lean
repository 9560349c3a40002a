/-
Refusals: the failures that a caller of the library, or its client, is told about.

A refusal has a kind, which fixes its status, and a text.  `description` is what the client may see:
a token that is not valid is described by its cause, a missing one by an invitation to log in.
-/

namespace TokenGate

/-- The kinds of refusals: three of building a token, one of a missing token, five of a token that
is not valid, and one of none of these. -/
inductive Refusal.Kind where
  | general
  | mandatoryClaims
  | issuedAtMissing
  | policy
  | tokenMissing
  | tokenInvalid
  | malformed
  | signature
  | expired
  | premature
  deriving DecidableEq, Repr

/-- The name of a kind in records and, without a text, in descriptions. -/
def Refusal.Kind.name : Refusal.Kind → String
  | general => "AuthError"
  | mandatoryClaims => "MissingMandatoryClaims"
  | issuedAtMissing => "MissingIssuedAt"
  | policy => "InvalidPolicy"
  | tokenMissing => "MissingToken"
  | tokenInvalid => "InvalidToken"
  | malformed => "MalformedToken"
  | signature => "InvalidSignature"
  | expired => "ExpiredToken"
  | premature => "PrematureToken"

/-- A failure of building is the caller's; every other one is the client's. -/
def Refusal.Kind.status : Refusal.Kind → Nat
  | mandatoryClaims | issuedAtMissing | policy => 500
  | _ => 401

/-- The kind says that a presented token is not valid. -/
def Refusal.Kind.invalidates : Refusal.Kind → Bool
  | tokenInvalid | malformed | signature | expired | premature => true
  | _ => false

/-- A kind and a text. -/
structure Refusal where
  kind : Refusal.Kind
  text : String
  deriving DecidableEq, Repr

namespace Refusal

/-- The status of the answer to the client. -/
def status (r : Refusal) : Nat := r.kind.status

/-- The text for the client. -/
def description (r : Refusal) : String :=
  if r.kind = .tokenMissing then "Please login first"
  else if r.kind.invalidates then "Token not valid. Cause: " ++ r.text
  else if r.text.isEmpty then r.kind.name
  else r.text

end Refusal

end TokenGate
