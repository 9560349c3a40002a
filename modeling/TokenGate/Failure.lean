/-
Failures: every way in which an operation of the library ends without a result.

A `Failure` is a cause.  Its `message` is the one place where it is worded, and its `category` says
what sort of failure it is: one of the refusals, a value of a wrong kind, a value out of its range,
and so on.
-/
import TokenGate.Key
import TokenGate.Number
import TokenGate.Text.Raw
import TokenGate.Token.Defect

namespace TokenGate

/-- The two durations of a policy. -/
inductive Duration where
  | expiry
  | leeway
  deriving DecidableEq, Repr

/-- The name of a duration where it is set. -/
def Duration.settingName : Duration → String
  | expiry => "expiry_seconds"
  | leeway => "not_before_leeway"

/-- The name of a duration in a policy. -/
def Duration.policyName : Duration → String
  | expiry => "expiry_seconds"
  | leeway => "not_before_leeway_seconds"

/-- The places of a request where a named token is looked for. -/
inductive Place where
  | header
  | parameter
  | cookie
  deriving DecidableEq, Repr

/-- The name of a place. -/
def Place.name : Place → String
  | header => "header"
  | parameter => "parameter"
  | cookie => "cookie"

/-- What takes settings by their names. -/
inductive Taker where
  | config
  | mapping
  | chain
  deriving DecidableEq, Repr

/-- The name of what takes settings. -/
def Taker.name : Taker → String
  | config => "AuthConfig.__init__"
  | mapping => "IdentityMapping.__init__"
  | chain => "ChainExtractor.default"

/-- Why an operation has no result. -/
inductive Failure where
  | mandatoryClaims
  | issuedAtMissing
  | negativeDuration (duration : Duration) (shown : String)
  | defect (defect : Defect)
  | claimName
  | claimKind (name : String) (kind : Datum.Kind)
  | durationKind (duration : Duration) (kind : Datum.Kind)
  | durationOrder (kind : Datum.Kind)
  | rolesKind (kind : Datum.Kind)
  | issuerKind
  | settingMissing
  | settingUnknown (taker : Taker) (name : String)
  | noAttribute (kind : Datum.Kind) (name : String)
  | attributeName (kind : Datum.Kind)
  | changeable (kind : Datum.Kind)
  | joined (kind : Datum.Kind)
  | integer (fault : IntegerFault)
  | tooLarge
  | unprintable
  | algorithm (shown : String)
  | secretEmpty
  | secretMissing
  | placeName (place : Place)
  | cookieNameMissing
  | bearerName
  | noSources
  | variableName
  | nullCharacter
  | headerPairs
  | key (fault : Key.Fault)
  | unencodable (text : Torn)
  | notInitialised
  | journalName
  | journalLevel (name : String)
  | journalFormat
  | journalStyles
  | argumentTwice (method name : String)
  deriving DecidableEq, Repr

namespace Failure

/-- The sorts of failures. -/
inductive Category where
  | refusal (kind : Refusal.Kind)
  | wrongKind
  | wrongValue
  | overflow
  | key
  | encoding
  | notReady
  | unknownName
  deriving DecidableEq, Repr

/-- The sort of a failure. -/
def category : Failure → Category
  | mandatoryClaims => .refusal .mandatoryClaims
  | issuedAtMissing => .refusal .issuedAtMissing
  | negativeDuration .. => .refusal .policy
  | defect d => .refusal d.kind
  | claimKind .. | durationKind .. | durationOrder _ | rolesKind _ | issuerKind
  | settingMissing | settingUnknown .. | attributeName _ | changeable _ | joined _
  | integer (.kind _) | cookieNameMissing | bearerName | key .kind | journalName | journalStyles
  | argumentTwice .. => .wrongKind
  | integer .infinite | tooLarge => .overflow
  | claimName | integer _ | unprintable | algorithm _ | secretEmpty | secretMissing
  | placeName _ | noSources | variableName | nullCharacter | headerPairs
  | journalFormat => .wrongValue
  | key _ => .key
  | unencodable _ => .encoding
  | notInitialised => .notReady
  | noAttribute .. | journalLevel _ => .unknownName

/-- The wording of a failure. -/
def message : Failure → String
  | mandatoryClaims => "userId and roles claims must be added!"
  | issuedAtMissing => "Missing 'iat' value. Unable to restore builder status"
  | negativeDuration d shown => d.policyName ++ " must not be negative, got " ++ shown
  | defect d => d.text
  | claimName => "Claim name cannot be empty"
  | claimKind name k => "Unsupported value for claim '" ++ name ++ "': " ++ k.name
  | durationKind d k => d.settingName ++ " must be an int, got " ++ k.name
  | durationOrder k => "'<' not supported between instances of '" ++ k.name ++ "' and 'int'"
  | rolesKind k => "'" ++ k.name ++ "' object is not iterable"
  | issuerKind => "Issuer (iss) must be a string."
  | settingMissing => Taker.config.name ++ "() missing 1 required positional argument: 'secret'"
  | settingUnknown taker name =>
    taker.name ++ "() got an unexpected keyword argument '" ++ name ++ "'"
  | noAttribute k name => "'" ++ k.name ++ "' object has no attribute '" ++ name ++ "'"
  | attributeName k => "attribute name must be string, not '" ++ k.name ++ "'"
  | changeable k => "unhashable type: '" ++ k.name ++ "'"
  | joined k => "can only concatenate str (not \"" ++ k.name ++ "\") to str"
  | integer f => f.message
  | tooLarge => "int too large to convert to float"
  | unprintable =>
    "Exceeds the limit (4300 digits) for integer string conversion; use " ++
      "sys.set_int_max_str_digits() to increase the limit"
  | algorithm shown =>
    "Unsupported algorithm '" ++ shown ++ "' (expected one of HS256, HS384, HS512)"
  | secretEmpty => "secret cannot be empty"
  | secretMissing => "secret is required"
  | placeName p => p.name ++ "_name cannot be empty"
  | cookieNameMissing =>
    "CookieExtractor.__init__() missing 1 required positional argument: 'cookie_name'"
  | bearerName => "BearerExtractor() takes no arguments"
  | noSources => "ChainExtractor needs at least one extractor"
  | variableName => "illegal environment variable name"
  | nullCharacter => "embedded null byte"
  | headerPairs => "not enough values to unpack (expected 2, got 1)"
  | key f => f.message
  | unencodable t => t.message
  | notInitialised => "AuthExtension is not initialised; call init_app()"
  | journalName => "A logger name must be a string"
  | journalLevel name => "module 'logging' has no attribute '" ++ name ++ "'"
  | journalFormat => "Unknown level: '%(levelname)s:%(name)s:%(message)s'"
  | journalStyles =>
    "Level not an integer or a valid string: \x7b'%': (<class 'logging.PercentStyle'>, " ++
      "'%(levelname)s:%(name)s:%(message)s'), '\x7b': (<class 'logging.StrFormatStyle'>, " ++
      "'\x7blevelname\x7d:\x7bname\x7d:\x7bmessage\x7d'), " ++
      "'$': (<class 'logging.StringTemplateStyle'>, " ++
      "'$\x7blevelname\x7d:$\x7bname\x7d:$\x7bmessage\x7d')\x7d"
  | argumentTwice method name =>
    "BoundLogger." ++ method ++ "() got multiple values for argument '" ++ name ++ "'"

/-- The refusal that a failure is, if it is one. -/
def refusal? (f : Failure) : Option Refusal :=
  match f.category with
  | .refusal kind => some ⟨kind, f.message⟩
  | _ => none

end Failure

/-- What a step has left for the steps after it, unless it failed. -/
def unlessFailed {α : Type} : α × Option Failure → Except Failure α
  | (a, none) => .ok a
  | (_, some f) => .error f

theorem unlessFailed_eq_ok {α : Type} {left : α × Option Failure} {a : α} :
    unlessFailed left = .ok a ↔ left = (a, none) := by
  obtain ⟨b, - | f⟩ := left
  · simp [unlessFailed]
  · simp [unlessFailed]

/-- The text of a value in a message; an integer with too many digits has none. -/
def Datum.shown (d : Datum) : Except Failure String :=
  if d.oversized then .error .unprintable else .ok d.display

end TokenGate
