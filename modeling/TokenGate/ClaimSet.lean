/-
Claims under construction.

A claim's value is a text, a truth value, a number or a list of texts (`ClaimValue`); nothing else
can enter a `ClaimSet`, where every name is distinct and none is empty.  `put` writes one claim, in
its old place if the name is there; `putAll` writes many and stops at the first that cannot enter.
`payload` is the set as a token carries it.  `step` is a call to a set that lives on, whether the call
fails or not, and `after` is what several calls leave.
-/
import TokenGate.Failure

namespace TokenGate

/-! ### Names -/

namespace Claim

/-- The claim of the user's reference. -/
def userId : String := "userId"

/-- The claim of the roles. -/
def roles : String := "roles"

/-- The second of issue. -/
def issuedAt : String := "iat"

/-- The first second at which the token has expired. -/
def expires : String := "exp"

/-- The first second at which the token is valid. -/
def notBefore : String := "nbf"

/-- The token's own id. -/
def tokenId : String := "jti"

/-- The issuer. -/
def issuer : String := "iss"

/-- The subject. -/
def subject : String := "sub"

/-- The claims that a policy decides. -/
def reserved : List String := [issuedAt, expires, notBefore, tokenId]

end Claim

/-! ### Values -/

/-- A value that a claim can have. -/
inductive ClaimValue where
  | text (value : String)
  | bool (value : Bool)
  | int (value : Int)
  | float (value : Binary64)
  | texts (values : List String)
  deriving DecidableEq, Repr

namespace ClaimValue

/-- A dynamic value as a claim's value: a list, tuple or set only if it holds texts alone. -/
def ofDatum? : Datum → Option ClaimValue
  | .text s => some (.text s)
  | .bool b => some (.bool b)
  | .int n => some (.int n)
  | .float x => some (.float x)
  | .list items | .tuple items | .set items => (items.mapM Datum.text?).map .texts
  | _ => none

/-- The value as it is kept: several texts are a tuple. -/
def toDatum : ClaimValue → Datum
  | text s => .text s
  | bool b => .bool b
  | int n => .int n
  | float x => .float x
  | texts ss => .tuple (ss.map .text)

/-- The value as a token carries it: several texts are a list. -/
def payload : ClaimValue → Datum
  | texts ss => .list (ss.map .text)
  | v => v.toDatum

end ClaimValue

/-! ### Sets -/

/-- Claims in the order of their first entry. -/
structure ClaimSet where
  entries : Record ClaimValue
  distinct : entries.names.Nodup
  named : "" ∉ entries.names
  deriving DecidableEq, Repr

namespace ClaimSet

/-- No claims. -/
def empty : ClaimSet := ⟨[], List.nodup_nil, List.not_mem_nil⟩

/-- The claim is in the set. -/
def contains (s : ClaimSet) (name : String) : Bool := s.entries.contains name

/-- The value of a claim. -/
def get? (s : ClaimSet) (name : String) : Option ClaimValue := s.entries.get? name

/-- The number of claims. -/
def size (s : ClaimSet) : Nat := s.entries.length

/-- The names, in order. -/
def names (s : ClaimSet) : List String := s.entries.names

/-- The set with a value written under a name. -/
def write (s : ClaimSet) (name : String) (v : ClaimValue) (h : name ≠ "") : ClaimSet :=
  ⟨s.entries.set name v, Record.nodup_names_set s.distinct name v, by
    rw [Record.mem_names_set, not_or]
    exact ⟨s.named, fun e => h e.symm⟩⟩

/-- The set with one claim written. -/
def put (s : ClaimSet) (name : String) (value : Datum) : Except Failure ClaimSet :=
  if h : name = "" then .error .claimName
  else
    match ClaimValue.ofDatum? value with
    | some v => .ok (s.write name v h)
    | none => .error (.claimKind name value.kind)

/-- The set with claims written from left to right, up to the first that cannot enter, and that
one's failure.  A null stands for no claim. -/
def putAll (s : ClaimSet) : Record Datum → ClaimSet × Option Failure
  | [] => (s, none)
  | (_, .null) :: rest => putAll s rest
  | (name, value) :: rest =>
    match s.put name value with
    | .ok t => putAll t rest
    | .error f => (s, some f)

/-- The set of given claims. -/
def ofRecord (claims : Record Datum) : Except Failure ClaimSet :=
  match putAll empty claims with
  | (s, none) => .ok s
  | (_, some f) => .error f

/-- The claims as a token carries them. -/
def payload (s : ClaimSet) : Record Datum := s.entries.map fun (name, v) => (name, v.payload)

/-- The set in a message. -/
def display (s : ClaimSet) : Except Failure String :=
  let d := Datum.dict (s.entries.map fun (name, v) => (name, v.toDatum))
  if d.oversized then .error .unprintable else .ok ("ClaimSet(" ++ d.quoted ++ ")")

/-! ### Calls -/

/-- A call: making a set of given claims, or writing one claim or many. -/
inductive Call where
  | make (claims : Record Datum)
  | put (name : String) (value : Datum)
  | putAll (claims : Record Datum)

/-- The set after a call, and the failure that the call ended with.  If no set can be made of the
claims, the former one stays. -/
def step (s : ClaimSet) : Call → ClaimSet × Option Failure
  | .make claims =>
    match ofRecord claims with
    | .ok t => (t, none)
    | .error f => (s, some f)
  | .put name value =>
    match s.put name value with
    | .ok t => (t, none)
    | .error f => (s, some f)
  | .putAll claims => s.putAll claims

/-- The set after calls, failing ones included. -/
def after (s : ClaimSet) (calls : List Call) : ClaimSet :=
  calls.foldl (fun s call => (s.step call).1) s

end ClaimSet

end TokenGate
