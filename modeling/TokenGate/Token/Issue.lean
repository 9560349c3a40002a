/-
Making a token.

`payload` lists what the token will carry: the claims, and after them the reserved claims that the
policy asks for, counted from the whole second of the clock.  `sign` writes header and payload and
appends the keyed digest of both.  `issue` does one after the other and says which id number is free
afterwards: one is used as soon as a payload with an id is made.
-/
import TokenGate.Algorithm
import TokenGate.Base64Url
import TokenGate.Json.Writer
import TokenGate.Policy
import TokenGate.Token.Segments

namespace TokenGate

namespace Token

/-- What every id starts with. -/
def idLead : String := "00000000-0000-4000-8000-"

/-- The id of a number. -/
def id (n : Nat) : String := idLead ++ String.ofList (Text.hexFilled 12 n)

/-- Each number has an id of its own. -/
theorem id_injective {n m : Nat} (h : id n = id m) : n = m := by
  have hchars := congrArg String.toList h
  rw [id, id, String.toList_append, String.toList_append, String.toList_ofList,
    String.toList_ofList] at hchars
  exact Text.hexFilled_injective (List.append_cancel_left hchars)

/-! ### The payload -/

/-- A record with a claim a duration away from the second of issue, if the duration is set. -/
def setTime (move : Int → Number → Option Number) (name : String) (second : Int)
    (duration : Option Datum) (r : Record Datum) : Except Failure (Record Datum) :=
  match duration with
  | none => .ok r
  | some d =>
    match d.number? with
    | none => .error (.durationOrder d.kind)
    | some x =>
      match move second x with
      | some time => .ok (r.set name time.toDatum)
      | none => .error .tooLarge

/-- The second of issue. -/
def second (clock : Number) : Except Failure Int :=
  match clock.toInteger with
  | .ok n => .ok n
  | .error f => .error (.integer f)

/-- The reserved claims that a policy asks for, written over a record. -/
def stamp (policy : Policy) (second : Int) (idNumber : Nat) (r : Record Datum) :
    Except Failure (Record Datum) := do
  let r := if policy.issuedAt then r.set Claim.issuedAt (.int second) else r
  let r ← setTime Number.plus Claim.expires second policy.expiry r
  let r ← setTime Number.minus Claim.notBefore second policy.leeway r
  return if policy.tokenId then r.set Claim.tokenId (.text (id idNumber)) else r

/-- What the token carries. -/
def payload (claims : ClaimSet) (policy : Policy) (clock : Number) (idNumber : Nat) :
    Except Failure (Record Datum) :=
  if claims.contains Claim.userId && claims.contains Claim.roles then do
    policy.validate
    stamp policy (← second clock) idNumber claims.payload
  else .error .mandatoryClaims

/-! ### The signature -/

/-- The header of an algorithm's tokens. -/
def headerOf (algorithm : Algorithm) : Record Datum :=
  [("alg", .text algorithm.name), ("typ", .text "JWT")]

/-- A record as a segment. -/
def segment (r : Record Datum) : List Char :=
  Base64Url.encode (Encoding.encodeUtf8 (Json.write .compact (.dict r)))

/-- The bytes of the signature. -/
def signature (algorithm : Algorithm) (key : List UInt8) (signingInput : List Char) :
    List UInt8 :=
  algorithm.digest.mac key (Encoding.encodeUtf8 signingInput)

/-- The segments of a signed token. -/
def signedSegments (algorithm : Algorithm) (key : List UInt8) (payload : Record Datum) : Segments :=
  let s : Segments := ⟨segment (headerOf algorithm), segment payload, []⟩
  { s with signature := Base64Url.encode (signature algorithm key s.signingInput) }

/-- The issuer of a payload, if it has one, is a text. -/
def issuerFits (payload : Record Datum) : Bool :=
  match payload.get? Claim.issuer with
  | none | some (.text _) => true
  | some _ => false

/-- The token of a payload. -/
def sign (algorithm : Algorithm) (secret : Datum) (payload : Record Datum) :
    Except Failure String :=
  if !issuerFits payload then .error .issuerKind
  else if (Datum.dict payload).oversized then .error .unprintable
  else
    match Key.accept secret with
    | .error f => .error (.key f)
    | .ok key => .ok (String.ofList (signedSegments algorithm key payload).text)

/-! ### Issuing -/

/-- What issuing leaves: a token or a failure, and the next free id number. -/
structure Issued where
  outcome : Except Failure String
  nextId : Nat

/-- A new token for claims. -/
def issue (algorithm : Algorithm) (claims : ClaimSet) (policy : Policy) (secret : Datum)
    (clock : Number) (nextId : Nat) : Issued :=
  match payload claims policy clock nextId with
  | .error f => ⟨.error f, nextId⟩
  | .ok p => ⟨sign algorithm secret p, if policy.tokenId then nextId + 1 else nextId⟩

end Token

end TokenGate
