/-
Builders: claims, a policy, an algorithm and a secret, on the way to a token.

A `Builder` lives on and changes by `Edit`s: `edit` gives the builder as it is after the call, and the
failure that the call ended with if it did.  `chain` makes several edits one after the other and
breaks off at the first that fails.  Building reads a builder and never changes it.

A name of a claim is a text here, as it is everywhere in the library; a name of another kind has no
`Edit`.
-/
import TokenGate.Token.Restore

namespace TokenGate

/-- What a token is made of. -/
structure Builder where
  algorithm : Algorithm
  secret : Datum
  claims : ClaimSet := .empty
  policy : Policy := {}

namespace Builder

/-- A builder with a secret that is not empty. -/
def make (algorithm : Algorithm) (secret : Datum) (claims : ClaimSet) (policy : Policy) :
    Except Failure Builder :=
  if secret.truth then .ok ⟨algorithm, secret, claims, policy⟩ else .error .secretEmpty

/-- An empty builder. -/
def create (secret algorithm : Datum) : Except Failure Builder := do
  let algorithm ← Algorithm.check algorithm
  make algorithm secret .empty {}

/-- A builder with what a verified token was made of. -/
def ofVerified (algorithm : Algorithm) (v : Verified) (secret : Datum) :
    Except Failure Builder := do
  let (claims, policy) ← Token.restore v
  make algorithm secret claims policy

/-- A builder with what a received token was made of, if the token is valid at the clock. -/
def ofToken (token : RawText) (secret algorithm : Datum) (clock : Number) :
    Except Failure Builder := do
  let algorithm ← Algorithm.check algorithm
  let v ← Token.verifyRaw algorithm secret clock token
  ofVerified algorithm v secret

/-! ### Edits -/

/-- One change to a builder. -/
inductive Edit where
  | userId (value : Datum)
  | roles (value : Datum)
  | claim (name : String) (value : Datum)
  | expiry (value : Datum)
  | leeway (value : Datum)
  | issuedAt (value : Datum)
  | tokenId (value : Datum)
  | algorithm (value : Datum)

/-- The roles that a value lists: a text is one role, an object lists its names, and bytes their
values. -/
def roleItems : Datum → Except Failure (List Datum)
  | .text s => .ok [.text s]
  | .list items | .tuple items | .set items => .ok items
  | .dict members => .ok (members.map fun (name, _) => .text name)
  | .bytes bs => .ok (bs.map fun b => .int b.toNat)
  | d => .error (.rolesKind d.kind)

/-- The builder after writing one claim, and the failure to do so. -/
def putClaim (b : Builder) (name : String) (value : Datum) : Builder × Option Failure :=
  let (claims, failure?) := b.claims.step (.put name value)
  ({ b with claims }, failure?)

/-- The builder after its policy was set, and the failure to do so. -/
def withPolicy (b : Builder) (set : Policy × Option Failure) : Builder × Option Failure :=
  ({ b with policy := set.1 }, set.2)

/-- The builder after an edit, and the failure that the edit ended with. -/
def edit (b : Builder) : Edit → Builder × Option Failure
  | .userId value => b.putClaim Claim.userId value
  | .roles value =>
    match roleItems value with
    | .ok items => b.putClaim Claim.roles (.tuple items)
    | .error f => (b, some f)
  | .claim name value => b.putClaim name value
  | .expiry value => b.withPolicy (b.policy.setExpiry value)
  | .leeway value => b.withPolicy (b.policy.setLeeway value)
  | .issuedAt value => ({ b with policy := b.policy.setIssuedAt value }, none)
  | .tokenId value => ({ b with policy := b.policy.setTokenId value }, none)
  | .algorithm value =>
    match Algorithm.check value with
    | .ok algorithm => ({ b with algorithm }, none)
    | .error f => (b, some f)

/-- The builder after edits that are made one after the other, each only if the one before it went
through. -/
def chain (b : Builder) (edits : List Edit) : Except Failure Builder :=
  edits.foldlM (fun b e => unlessFailed (b.edit e)) b

/-- The token of a builder. -/
def build (b : Builder) (clock : Number) (nextId : Nat) : Token.Issued :=
  Token.issue b.algorithm b.claims b.policy b.secret clock nextId

end Builder

end TokenGate
