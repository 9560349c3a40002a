/-
Verifying a presented token.

The stages run in a fixed order, and each sees only what the one before let through: the text is cut
and decoded (`Opened.ofText`), the header is read (`checkHeader`, `checkAlgorithm`), the signature
is compared with the keyed digest of what it signs, and only then are the claims read (`readClaims`)
and held against the clock (`checkClaims`).

`verify` takes a value of any kind, and `verifyRaw` a text as it was received, which may be torn: then
it has no bytes, and nothing of the above is even begun.
-/
import TokenGate.Token.Issue

namespace TokenGate

/-- What a verified token carries. -/
structure Verified where
  claims : Record Datum
  header : Record Datum

/-- The name of a claim that holds a second. -/
def TimeClaim.name : TimeClaim → String
  | issuedAt => Claim.issuedAt
  | notBefore => Claim.notBefore
  | expires => Claim.expires

namespace Verified

/-- A claim that is there and not null. -/
def given? (v : Verified) (name : String) : Option Datum :=
  match v.claims.get? name with
  | none | some .null => none
  | some d => some d

end Verified

namespace Token

/-- A token taken apart: its segments, and the bytes they stand for. -/
structure Opened where
  segments : Segments
  header : Record Datum
  payload : List UInt8
  signature : List UInt8

/-! ### Text -/

/-- The bytes of a segment. -/
def segmentBytes (part : Part) (segment : List Char) : Except Defect (List UInt8) :=
  match Base64Url.decodeSegment segment with
  | some bytes => .ok bytes
  | none => .error (.padding part)

/-- The header in bytes. -/
def readHeader (bytes : List UInt8) : Except Defect (Record Datum) :=
  match Json.read bytes with
  | .error f => .error (.headerText f)
  | .ok (.dict header) => .ok header
  | .ok _ => .error .headerShape

/-- The header says that the payload travels apart from the token. -/
def detachedPayload (header : Record Datum) : Bool :=
  match header.get? "b64" with
  | some (.bool false) => true
  | _ => false

/-- The payload in bytes; that of a detached one has to be empty. -/
def payloadBytes (header : Record Datum) (segment : List Char) : Except Defect (List UInt8) :=
  if detachedPayload header && !segment.isEmpty then .error .payloadPresent
  else segmentBytes .payload segment

/-- The parts of a text. -/
def Opened.ofText (text : List Char) : Except Defect Opened :=
  match Segments.ofText? text with
  | none => .error .segments
  | some s => do
    let header ← readHeader (← segmentBytes .header s.header)
    let payload ← payloadBytes header s.payload
    let signature ← segmentBytes .signature s.signature
    return ⟨s, header, payload, signature⟩

/-! ### Header -/

/-- The key id, if there is one, is a text. -/
def checkKeyId (header : Record Datum) : Except Defect Unit :=
  match header.get? "kid" with
  | none | some (.text _) => .ok ()
  | some _ => .error .keyIdShape

/-- Every critical name is one that is understood, and stands in the header. -/
def checkCriticalNames (header : Record Datum) : List Datum → Except Defect Unit
  | [] => .ok ()
  | .text name :: rest =>
    if name != "b64" then .error (.criticalUnknown name)
    else if !header.contains "b64" then .error .criticalAbsent
    else checkCriticalNames header rest
  | _ :: _ => .error .criticalName

/-- The list of critical names, if there is one, is a list of such names and not empty. -/
def checkCritical (header : Record Datum) : Except Defect Unit :=
  match header.get? "crit" with
  | none => .ok ()
  | some (.list (name :: rest)) => checkCriticalNames header (name :: rest)
  | some _ => .error .criticalShape

/-- The header lists the name as critical. -/
def listsCritical (header : Record Datum) (name : String) : Bool :=
  match header.get? "crit" with
  | some (.list names) => names.any fun d => d.text? == some name
  | _ => false

/-- A payload that travels apart cannot be verified. -/
def checkAttached (header : Record Datum) : Except Defect Unit :=
  if !detachedPayload header then .ok ()
  else if listsCritical header "b64" then .error .detached
  else .error .detachedUnlisted

/-- The members of the header that bear on the signature. -/
def checkHeader (header : Record Datum) : Except Defect Unit := do
  checkKeyId header
  checkCritical header
  checkAttached header

/-- The header names exactly the algorithm. -/
def checkAlgorithm (algorithm : Algorithm) (header : Record Datum) : Except Defect Unit :=
  match header.get? "alg" with
  | none => .error .algorithmMissing
  | some d => if d.text? == some algorithm.name then .ok () else .error .algorithmOther

/-! ### Claims -/

/-- The claims in bytes. -/
def readClaims (bytes : List UInt8) : Except Defect (Record Datum) :=
  match Json.read bytes with
  | .error f => .error (.payloadText f)
  | .ok (.dict claims) => .ok claims
  | .ok _ => .error .payloadShape

/-- The clock stands well to a claim's second: before the expiry, not before the others. -/
def checkSecond (clock : Number) (claim : TimeClaim) (second : Int) : Except Defect Unit :=
  match claim with
  | .expires => if clock.reached second then .error .expired else .ok ()
  | _ => if clock.isBefore second then .error (.early claim) else .ok ()

/-- A claim that holds a second, if it is there, is an integer that fits the clock. -/
def checkTime (clock : Number) (claims : Record Datum) (claim : TimeClaim) :
    Except Defect Unit :=
  match claims.get? claim.name with
  | none => .ok ()
  | some d =>
    match d.toInteger with
    | .error _ => .error (.timeShape claim)
    | .ok second => checkSecond clock claim second

/-- A claim, if it is there, is a text. -/
def checkText (claims : Record Datum) (name : String) (defect : Defect) : Except Defect Unit :=
  match claims.get? name with
  | none | some (.text _) => .ok ()
  | some _ => .error defect

/-- The reserved claims and the subject. -/
def checkClaims (clock : Number) (claims : Record Datum) : Except Defect Unit := do
  checkTime clock claims .issuedAt
  checkTime clock claims .notBefore
  checkTime clock claims .expires
  checkText claims Claim.subject .subjectShape
  checkText claims Claim.tokenId .tokenIdShape

/-! ### The whole -/

/-- The parts of a text whose header asks for the algorithm. -/
def openFor (algorithm : Algorithm) (text : List Char) : Except Defect Opened := do
  let opened ← Opened.ofText text
  checkHeader opened.header
  checkAlgorithm algorithm opened.header
  return opened

/-- The token's signature is the keyed digest of what it signs. -/
def Opened.signed (opened : Opened) (algorithm : Algorithm) (key : List UInt8) : Bool :=
  opened.signature == Token.signature algorithm key opened.segments.signingInput

/-- The claims of a token whose signature has been compared. -/
def acceptClaims (clock : Number) (opened : Opened) : Except Defect Verified := do
  let claims ← readClaims opened.payload
  checkClaims clock claims
  return ⟨claims, opened.header⟩

/-- A defect as the failure of an operation. -/
def orDefect {α : Type} : Except Defect α → Except Failure α
  | .ok a => .ok a
  | .error d => .error (.defect d)

/-- What a token's text carries, if the token is valid at the clock. -/
def verifyText (algorithm : Algorithm) (secret : Datum) (clock : Number) (text : List Char) :
    Except Failure Verified := do
  let opened ← orDefect (openFor algorithm text)
  match Key.accept secret with
  | .error f => .error (.key f)
  | .ok key =>
    if opened.signed algorithm key then orDefect (acceptClaims clock opened)
    else .error (.defect .signature)

/-- What a presented token carries.  Only a text that is not empty is a token. -/
def verify (algorithm : Algorithm) (secret : Datum) (clock : Number) (token : Datum) :
    Except Failure Verified :=
  match token with
  | .text s =>
    if s.isEmpty then .error (.defect .noText) else verifyText algorithm secret clock s.toList
  | _ => .error (.defect .noText)

/-- The verdict on a presented token: a defect is an answer, and only a secret that is no key is a
failure. -/
def check (algorithm : Algorithm) (secret : Datum) (clock : Number) (token : Datum) :
    Except Failure (Except Defect Verified) :=
  match verify algorithm secret clock token with
  | .ok v => .ok (.ok v)
  | .error (.defect d) => .ok (.error d)
  | .error f => .error f

/-- What a received text carries. -/
def verifyRaw (algorithm : Algorithm) (secret : Datum) (clock : Number) :
    RawText → Except Failure Verified
  | .text s => verify algorithm secret clock (.text s)
  | .torn t => .error (.unencodable t)

/-- The verdict on a received text.  A torn one gets none. -/
def checkRaw (algorithm : Algorithm) (secret : Datum) (clock : Number) :
    RawText → Except Failure (Except Defect Verified)
  | .text s => check algorithm secret clock (.text s)
  | .torn t => .error (.unencodable t)

end Token

end TokenGate
