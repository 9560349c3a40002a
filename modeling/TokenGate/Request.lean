/-
Requests, as far as a gate looks at them.

A `Lookup` names a place of a request and a name there, which is a text, or bytes that nothing goes
by; a `Request` says what text stands at each, as it was received, and whether the request is for
something that is guarded.
`ofPairs` is the request that lists of values make up: the names of headers are compared without
regard to case, and where a name is given twice, the last value counts.
-/
import TokenGate.Failure
import TokenGate.Text.Blank
import TokenGate.Text.Case
import TokenGate.Text.Raw

namespace TokenGate

/-- A name at a place of a request. -/
inductive PlaceName where
  | text (value : String)
  | bytes (value : List UInt8)
  deriving DecidableEq, Repr

namespace PlaceName

/-- The text of a name, if it is one. -/
def text? : PlaceName → Option String
  | text value => some value
  | bytes _ => none

/-- The name as a value. -/
def toDatum : PlaceName → Datum
  | text value => .text value
  | bytes value => .bytes value

/-- A blank among bytes: space, and tab to carriage return. -/
def isBlankByte (b : UInt8) : Bool := b == 0x20 || (0x09 ≤ b.toNat && b.toNat ≤ 0x0D)

/-- The name that a value is for a place; it is not blank. -/
def ofDatum (place : Place) : Datum → Except Failure PlaceName
  | .text value => if Text.blank value then .error (.placeName place) else .ok (.text value)
  | .bytes value => if value.all isBlankByte then .error (.placeName place) else .ok (.bytes value)
  | d => .error (if d.truth then .noAttribute d.kind "strip" else .placeName place)

end PlaceName

/-- One look at a request. -/
structure Lookup where
  place : Place
  name : PlaceName
  deriving DecidableEq, Repr

/-- A request: whether it is for something guarded, and what stands where. -/
structure Request where
  constrained : Bool
  value? : Lookup → Option RawText

namespace Request

/-- The last value that pairs give to a name. -/
def lastValue? (pairs : List (String × RawText)) (name : String) : Option RawText :=
  (pairs.reverse.find? fun pair => pair.1 == name).map Prod.snd

/-- The value of a header; its name is found in any case of its letters. -/
def headerValue? (headers : List (String × RawText)) (name : String) : Option RawText :=
  lastValue? (headers.map fun (n, v) => (Text.lower n, v)) (Text.lower name)

/-- The request of given headers, parameters and cookies. -/
def ofPairs (constrained : Bool) (headers parameters cookies : List (String × RawText)) : Request :=
  { constrained
    value? := fun l => l.name.text?.bind fun name =>
      match l.place with
      | .header => headerValue? headers name
      | .parameter => lastValue? parameters name
      | .cookie => lastValue? cookies name }

end Request

end TokenGate
