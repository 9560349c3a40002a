/-
The three signing algorithms.

Each is a keyed digest; `check` accepts exactly their names.
-/
import TokenGate.Failure
import TokenGate.Hash.Hmac

namespace TokenGate

/-- A keyed digest of the SHA-2 family. -/
inductive Algorithm where
  | hs256
  | hs384
  | hs512
  deriving DecidableEq, Repr

namespace Algorithm

/-- The name of an algorithm in headers and settings. -/
def name : Algorithm → String
  | hs256 => "HS256"
  | hs384 => "HS384"
  | hs512 => "HS512"

/-- The algorithm of a name. -/
def ofName? (s : String) : Option Algorithm :=
  [hs256, hs384, hs512].find? (·.name == s)

/-- The digest that an algorithm keys. -/
def digest : Algorithm → Hash.Digest
  | hs256 => .sha256
  | hs384 => .sha384
  | hs512 => .sha512

/-- A value that names no algorithm.  A set is compared as it stands; another value that cannot be
looked up is not compared at all. -/
def unsupported (d : Datum) : Failure :=
  match d.kind, d.changeable? with
  | .list, some kind | .tuple, some kind | .dict, some kind => .changeable kind
  | _, _ => if d.oversized then .unprintable else .algorithm d.display

/-- The algorithm that a value names; a value of another kind names none. -/
def check (d : Datum) : Except Failure Algorithm :=
  match d.text?.bind ofName? with
  | some a => .ok a
  | none => .error (unsupported d)

theorem ofName?_name (a : Algorithm) : ofName? a.name = some a := by cases a <;> rfl

/-- Only the name of an algorithm is accepted for it. -/
theorem ofName?_eq_some_iff {s : String} {a : Algorithm} : ofName? s = some a ↔ s = a.name := by
  constructor
  · intro h
    have := List.find?_some h
    exact (beq_iff_eq.1 this).symm
  · rintro rfl
    exact ofName?_name a

/-- The name of an algorithm is accepted for it. -/
theorem check_name (a : Algorithm) : check (.text a.name) = .ok a := by
  simp [check, Datum.text?, ofName?_name]

end Algorithm

end TokenGate
