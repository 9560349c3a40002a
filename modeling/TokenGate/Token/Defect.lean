/-
Defects: why a presented token is not valid.

A defect is found in the text of a token, in its header, in its signature or in its claims; each has
its own wording, and `kind` sorts them into the kinds of refusals.
-/
import TokenGate.Json.Reader
import TokenGate.Refusal

namespace TokenGate

/-- The claims that hold a second. -/
inductive TimeClaim where
  | issuedAt
  | notBefore
  | expires
  deriving DecidableEq, Repr

/-- The three parts of a token. -/
inductive Part where
  | header
  | payload
  | signature
  deriving DecidableEq, Repr

/-- Why a presented token is not valid. -/
inductive Defect where
  | noText
  | segments
  | padding (part : Part)
  | headerText (why : Json.Fault)
  | headerShape
  | payloadPresent
  | keyIdShape
  | criticalShape
  | criticalName
  | criticalUnknown (name : String)
  | criticalAbsent
  | detachedUnlisted
  | detached
  | algorithmMissing
  | algorithmOther
  | signature
  | payloadText (why : Json.Fault)
  | payloadShape
  | timeShape (claim : TimeClaim)
  | early (claim : TimeClaim)
  | expired
  | subjectShape
  | tokenIdShape
  | userMissing (claim : String)
  deriving DecidableEq, Repr

namespace Defect

/-- The kind of refusal that a defect leads to. -/
def kind : Defect → Refusal.Kind
  | signature => .signature
  | early _ => .premature
  | expired => .expired
  | userMissing _ => .tokenInvalid
  | _ => .malformed

/-- The wording of a defect. -/
def text : Defect → String
  | noText => "Token must be a non-empty string"
  | segments => "Not enough segments"
  | padding .header => "Invalid header padding"
  | padding .payload => "Invalid payload padding"
  | padding .signature => "Invalid crypto padding"
  | headerText why => "Invalid header string: " ++ why.message
  | headerShape => "Invalid header string: must be a json object"
  | payloadPresent => "Payload segment must be empty when 'b64' is false."
  | keyIdShape => "Key ID header parameter must be a string"
  | criticalShape => "Invalid 'crit' header: must be a non-empty list"
  | criticalName => "Invalid 'crit' header: values must be strings"
  | criticalUnknown name => "Unsupported critical extension: " ++ name
  | criticalAbsent => "Critical extension 'b64' is missing from headers"
  | detachedUnlisted => "The 'b64' header parameter requires 'b64' to be listed in 'crit'."
  | detached =>
    "It is required that you pass in a value for the \"detached_payload\" argument to decode a " ++
      "message having the b64 header set to false."
  | algorithmMissing => "Algorithm not specified"
  | algorithmOther => "The specified alg value is not allowed"
  | signature => "Signature verification failed"
  | payloadText why => "Invalid payload string: " ++ why.message
  | payloadShape => "Invalid payload string: must be a json object"
  | timeShape .issuedAt => "Issued At claim (iat) must be an integer."
  | timeShape .notBefore => "Not Before claim (nbf) must be an integer."
  | timeShape .expires => "Expiration Time claim (exp) must be an integer."
  | early .notBefore => "The token is not yet valid (nbf)"
  | early _ => "The token is not yet valid (iat)"
  | expired => "Signature has expired"
  | subjectShape => "Subject must be a string"
  | tokenIdShape => "JWT ID must be a string"
  | userMissing claim => "Missing '" ++ claim ++ "' claim"

/-- The refusal of a token with a defect. -/
def refusal (d : Defect) : Refusal := ⟨d.kind, d.text⟩

end Defect

end TokenGate
