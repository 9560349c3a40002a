/-
Identities: whom a verified token speaks for.

An `Identity` is a user with roles.  A `Mapping` says which claims hold the two; it may name them by
any value, but only a text is the name of a claim.  The user has to be a text that is not empty;
roles are read as far as they can be, so that a claim of a wrong shape grants nothing: `rolesOf` has
one equation for each shape, and `rolesOf_texts` says that reading the roles that were read changes
nothing.
-/
import TokenGate.ClaimSet

namespace TokenGate

/-- A user with roles, each role once. -/
structure Identity where
  userId : String
  roles : List String := []
  deriving DecidableEq, Repr

namespace Identity

/-- The identity has a role. -/
def hasRole (i : Identity) (role : String) : Bool := i.roles.contains role

/-- The roles that a value grants: a text is one role, and a list grants the texts in it, each once
and in the order of their first occurrence. -/
def rolesOf : Datum → List String
  | .text s => [s]
  | .list items | .tuple items => (items.filterMap Datum.text?).eraseDups
  | _ => []

/-- The claim that a value names, if there is one; a value that can change cannot be looked up. -/
def claim? (claims : Record Datum) : Datum → Except Failure (Option Datum)
  | .text name => .ok (claims.get? name)
  | d =>
    match d.changeable? with
    | some kind => .error (.changeable kind)
    | none => .ok none

/-- The names of the claims that hold an identity. -/
structure Mapping where
  userIdClaim : Datum := .text Claim.userId
  rolesClaim : Datum := .text Claim.roles

namespace Mapping

/-- The mapping with a setting of a name. -/
def setField (m : Mapping) (name : String) (value : Datum) : Except Failure Mapping :=
  match name with
  | "user_id_claim" => .ok { m with userIdClaim := value }
  | "roles_claim" => .ok { m with rolesClaim := value }
  | _ => .error (.settingUnknown .mapping name)

/-- The mapping of settings by their names. -/
def ofFields (fields : Record Datum) : Except Failure Mapping :=
  fields.foldlM (fun m (name, value) => m.setField name value) {}

/-- The failure of a mapping whose claim for the user does not hold one. -/
def userMissing {α : Type} (m : Mapping) : Except Failure α := do
  .error (.defect (.userMissing (← m.userIdClaim.shown)))

/-- The user that claims name. -/
def userId (m : Mapping) (claims : Record Datum) : Except Failure String := do
  match ← claim? claims m.userIdClaim with
  | some (.text s) => if s.isEmpty then m.userMissing else return s
  | _ => m.userMissing

/-- The roles that claims grant. -/
def roles (m : Mapping) (claims : Record Datum) : Except Failure (List String) := do
  return (← claim? claims m.rolesClaim).elim [] rolesOf

/-- The identity that claims speak for. -/
def identity (m : Mapping) (claims : Record Datum) : Except Failure Identity := do
  let user ← m.userId claims
  return ⟨user, ← m.roles claims⟩

end Mapping

/-! ### Roles -/

/-- The texts of a list of texts are the list. -/
theorem filterMap_text?_texts (roles : List String) :
    (roles.map Datum.text).filterMap Datum.text? = roles := by
  induction roles with
  | nil => rfl
  | cons role rest ih => simp [Datum.text?, ih]

/-- A list of texts grants these texts, each once. -/
theorem rolesOf_texts (roles : List String) :
    rolesOf (.list (roles.map .text)) = roles.eraseDups := by
  simp only [rolesOf, filterMap_text?_texts]

end Identity

end TokenGate
