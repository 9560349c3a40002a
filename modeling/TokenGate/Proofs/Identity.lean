/-
What an identity depends on.

An identity is read out of two claims.  `identity_congr` says that other claims which agree on the
user's reference, and on the roles that are granted, speak for the same identity.  A mapping is
`Steady` if its two claims are not among those that change when a token is renewed.
-/
import TokenGate.Identity
import TokenGate.Proofs.Outcome

namespace TokenGate.Identity

/-- The roles that a claim grants, if it is there. -/
def rolesIn (claims : Record Datum) (name : String) : List String :=
  (claims.get? name).elim [] rolesOf

/-- No roles are granted by a claim that is missing or null. -/
theorem rolesIn_of_absent {claims : Record Datum} {name : String}
    (h : ∀ d, claims.get? name = some d → d = .null) : rolesIn claims name = [] := by
  rw [rolesIn]
  rcases hget : claims.get? name with - | d
  · rfl
  · rw [h d hget]
    rfl

/-- A name that can be looked up finds a claim or finds none. -/
theorem exists_claim? {name : Datum} (h : name.changeable? = none) (claims : Record Datum) :
    ∃ d?, claim? claims name = .ok d? := by
  rw [claim?.eq_def]
  split
  · exact ⟨_, rfl⟩
  · rw [h]
    exact ⟨_, rfl⟩

namespace Mapping

variable {m : Mapping} {claims claims' : Record Datum} {i : Identity} {user : String}

/-- The mapping names no claim that a policy decides, and does not take the roles from the claim that
a renewed token has for the user unless it takes the user from it. -/
structure Steady (m : Mapping) : Prop where
  userId_unreserved : ∀ name ∈ Claim.reserved, m.userIdClaim ≠ .text name
  roles_unreserved : ∀ name ∈ Claim.reserved, m.rolesClaim ≠ .text name
  roles_of_userId : m.rolesClaim = .text Claim.userId → m.userIdClaim = .text Claim.userId

theorem userMissing_ne_ok {α : Type} {a : α} : m.userMissing ≠ .ok a := by
  intro h
  obtain ⟨shown, -, h⟩ := bind_eq_ok.1 h
  cases h

/-- The user is a text that is not empty, in a claim that is named by a text. -/
theorem userId_eq_ok (h : m.userId claims = .ok user) :
    user.isEmpty = false ∧
      ∃ name, m.userIdClaim = .text name ∧ claims.get? name = some (.text user) := by
  obtain ⟨found, hf, h⟩ := bind_eq_ok.1 h
  split at h
  · next s =>
    split at h
    · exact absurd h userMissing_ne_ok
    · next hs =>
      cases h
      refine ⟨Bool.not_eq_true _ ▸ hs, ?_⟩
      rw [claim?.eq_def] at hf
      split at hf
      · next name hname => exact ⟨name, hname, Except.ok.inj hf⟩
      · split at hf
        · cases hf
        · cases hf
  · exact absurd h userMissing_ne_ok

theorem userId_of_get? {name : String} (hm : m.userIdClaim = .text name)
    (hu : user.isEmpty = false) (h : claims.get? name = some (.text user)) :
    m.userId claims = .ok user := by
  rw [userId, hm, claim?, ok_bind, h]
  exact if_neg (Bool.not_eq_true _ ▸ hu)

/-- Only the granted roles of one claim count. -/
theorem roles_congr
    (h : ∀ name, m.rolesClaim = .text name → rolesIn claims' name = rolesIn claims name) :
    m.roles claims' = m.roles claims := by
  rw [roles, roles]
  rcases hd : m.rolesClaim with - | b | n | x | name | l | l | l | bs | l
  case text => exact congrArg Except.ok (h name hd)
  all_goals rfl

theorem roles_of_text {name : String} (h : m.rolesClaim = .text name) :
    m.roles claims = .ok (rolesIn claims name) := by
  rw [roles, h]
  rfl

theorem identity_eq_ok :
    m.identity claims = .ok i ↔ m.userId claims = .ok i.userId ∧ m.roles claims = .ok i.roles := by
  constructor
  · intro h
    obtain ⟨user, hu, h⟩ := bind_eq_ok.1 h
    obtain ⟨roles, hr, h⟩ := bind_eq_ok.1 h
    cases h
    exact ⟨hu, hr⟩
  · rintro ⟨hu, hr⟩
    rw [identity, hu, ok_bind, hr]
    rfl

/-- **Claims that agree on the user and on the granted roles speak for the same identity.** -/
theorem identity_congr (h : m.identity claims = .ok i)
    (hu : ∀ name user, m.userIdClaim = .text name → claims.get? name = some (.text user) →
      claims'.get? name = some (.text user))
    (hr : ∀ name, m.rolesClaim = .text name → rolesIn claims' name = rolesIn claims name) :
    m.identity claims' = .ok i := by
  obtain ⟨huser, hroles⟩ := identity_eq_ok.1 h
  obtain ⟨hne, name, hname, hget⟩ := userId_eq_ok huser
  refine identity_eq_ok.2 ⟨userId_of_get? hname hne (hu name _ hname hget), ?_⟩
  rw [roles_congr hr, hroles]

end Mapping

end TokenGate.Identity
