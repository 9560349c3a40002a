/-
Builders on the way to a token.

A builder is created and then edited, in any order and as often as one likes.  `Describes` lists the
edits that make up a token for a user with roles: the user, the roles, other claims, and the policy.
`exists_made` says that all of them go through, and what the builder is then: its policy is a
schedule, and each of its claims `Fits` the user and the roles.

One edit keeps this up (`exists_edit`), and so do any number of them (`exists_edits`).
-/
import TokenGate.Proofs.Token.Checked
import TokenGate.Token.Builder

namespace TokenGate

namespace Builder

open Token

/-! ### Tokens for a user -/

/-- A claim that a token for the user with the roles may have. -/
structure Fits (user : String) (roles : List String) (name : String) (value : ClaimValue) : Prop where
  floatFree : ∀ x, value ≠ .float x
  unreserved : name ∉ Claim.reserved
  text : name = Claim.subject ∨ name = Claim.issuer → ∃ text, value = .text text
  userId : name = Claim.userId → value = .text user
  roles : name = Claim.roles → value = .texts roles

/-- The builder makes tokens for the user with the roles, on the schedule. -/
structure Drafts (user : String) (roles : List String) (s : Schedule) (b : Builder) : Prop where
  policy : b.policy = s.policy
  issuedAt : s.issuedAt = true
  expiry : ∀ n, s.expiry = some n → 0 < n
  leeway : ∀ n, s.leeway = some n → 0 ≤ n
  claims : ∀ claim ∈ b.claims.entries, Fits user roles claim.1 claim.2

/-- An edit that describes a token for the user with the roles.  Roles are one text or a list of
texts; other claims have other names, and values that claims can have; the second of issue is not
switched off. -/
inductive Describes (user : String) (roles : List String) : Edit → Prop
  | userId : Describes user roles (.userId (.text user))
  | role {role : String} (h : roles = [role]) : Describes user roles (.roles (.text role))
  | roles : Describes user roles (.roles (.list (roles.map .text)))
  | claim {name : String} {value : Datum} (he : ClaimSet.Enterable (name, value))
      (hf : ∀ x, value ≠ .float x) (hn : name ∉ Claim.userId :: Claim.roles :: Claim.reserved)
      (ht : name = Claim.subject ∨ name = Claim.issuer → ∃ text, value = .text text) :
      Describes user roles (.claim name value)
  | expiry {n : Int} (h : 0 < n) : Describes user roles (.expiry (.int n))
  | leeway {n : Int} (h : 0 ≤ n) : Describes user roles (.leeway (.int n))
  | issuedAt {value : Datum} (h : value.truth = true) : Describes user roles (.issuedAt value)
  | tokenId (value : Datum) : Describes user roles (.tokenId value)

/-- The claim that an edit writes. -/
def Edit.claim? : Edit → Option String
  | .userId _ => some Claim.userId
  | .roles _ => some Claim.roles
  | .claim name _ => some name
  | _ => none

variable {user : String} {roles : List String} {s : Schedule} {b : Builder} {e : Edit}

/-! ### What is drafted -/

namespace Drafts

variable (h : Drafts user roles s b)

include h

theorem forward : s.Forward := ⟨fun n hn => Int.le_of_lt (h.expiry n hn), h.leeway⟩

theorem fits {name : String} {value : ClaimValue} (hv : b.claims.get? name = some value) :
    Fits user roles name value :=
  h.claims _ (Record.mem_of_get? hv)

theorem floatFree : b.claims.FloatFree := fun claim hc => (h.claims claim hc).floatFree

theorem unreserved : b.claims.payload.Unreserved := by
  intro name hname hm
  rw [ClaimSet.names_payload] at hm
  obtain ⟨claim, hc, rfl⟩ := List.mem_map.1 hm
  exact (h.claims claim hc).unreserved hname

theorem subjectFits : SubjectFits b.claims := fun _ hv => (h.fits hv).text (.inl rfl)

theorem issuerFits : issuerFits b.claims.payload = true := by
  rw [Token.issuerFits, ClaimSet.get?_payload]
  rcases hv : b.claims.get? Claim.issuer with - | v
  · rfl
  · obtain ⟨text, rfl⟩ := (h.fits hv).text (.inr rfl)
    rfl

theorem get?_userId (hu : b.claims.contains Claim.userId = true) :
    b.claims.get? Claim.userId = some (.text user) := by
  obtain ⟨v, hv⟩ := Option.isSome_iff_exists.1 hu
  obtain rfl := (h.fits hv).userId rfl
  exact hv

theorem get?_roles (hr : b.claims.contains Claim.roles = true) :
    b.claims.get? Claim.roles = some (.texts roles) := by
  obtain ⟨v, hv⟩ := Option.isSome_iff_exists.1 hr
  obtain rfl := (h.fits hv).roles rfl
  exact hv

end Drafts

/-! ### One edit -/

/-- What an edit leaves: a builder for the same user, with the same key and one more claim if the
edit writes one. -/
structure Edited (user : String) (roles : List String) (b : Builder) (claim? : Option String)
    (s' : Schedule) (b' : Builder) : Prop where
  drafts : Drafts user roles s' b'
  algorithm : b'.algorithm = b.algorithm
  secret : b'.secret = b.secret
  contains : ∀ name, b'.claims.contains name = true ↔
    b.claims.contains name = true ∨ claim? = some name

/-- Writing a claim that fits. -/
theorem exists_putClaim (h : Drafts user roles s b) {name : String} {value : Datum} {v : ClaimValue}
    (hname : name ≠ "") (hv : ClaimValue.ofDatum? value = some v) (hfits : Fits user roles name v) :
    ∃ b', b.putClaim name value = (b', none) ∧ Edited user roles b (some name) s b' := by
  refine ⟨{ b with claims := b.claims.write name v hname }, ?_, ?_⟩
  · rw [putClaim, ClaimSet.step, ClaimSet.put, dif_neg hname, hv]
  · refine ⟨⟨h.policy, h.issuedAt, h.expiry, h.leeway, ?_⟩, rfl, rfl, fun other => ?_⟩
    · exact Record.forall_set h.claims hfits
    · show (b.claims.write name v hname).contains other = true ↔ _
      rw [ClaimSet.contains_iff, ClaimSet.contains_iff, Option.some.injEq, eq_comm]
      exact Record.mem_names_set

/-- Changing the policy to another schedule. -/
theorem edited_policy (h : Drafts user roles s b) {s' : Schedule} (hi : s'.issuedAt = true)
    (he : ∀ n, s'.expiry = some n → 0 < n) (hl : ∀ n, s'.leeway = some n → 0 ≤ n) :
    Edited user roles b none s' { b with policy := s'.policy } where
  drafts := ⟨rfl, hi, he, hl, h.claims⟩
  algorithm := rfl
  secret := rfl
  contains := fun name => by simp

theorem fits_userId (user : String) (roles : List String) :
    Fits user roles Claim.userId (.text user) where
  floatFree := by rintro x ⟨⟩
  unreserved := by decide
  text := fun _ => ⟨user, rfl⟩
  userId := fun _ => rfl
  roles := fun h => absurd h (by decide)

theorem fits_roles (user : String) (roles : List String) :
    Fits user roles Claim.roles (.texts roles) where
  floatFree := by rintro x ⟨⟩
  unreserved := by decide
  text := fun h => absurd h (by decide)
  userId := fun h => absurd h (by decide)
  roles := fun _ => rfl

theorem ofDatum?_tuple (roles : List String) :
    ClaimValue.ofDatum? (.tuple (roles.map .text)) = some (.texts roles) := by
  rw [ClaimValue.ofDatum?, ClaimValue.mapM_text?_texts]
  rfl

/-- **An edit that describes a token goes through**, and leaves a builder for the same user. -/
theorem exists_edit (h : Drafts user roles s b) (he : Describes user roles e) :
    ∃ b', b.edit e = (b', none) ∧ ∃ s', Edited user roles b e.claim? s' b' := by
  cases he with
  -- three edits write a claim, and it fits; the other four put a new policy in place
  | userId =>
    have huser : ClaimValue.ofDatum? (.text user) = some (.text user) := rfl
    obtain ⟨b', hb, hedited⟩ := exists_putClaim h (by decide) huser (fits_userId user roles)
    exact ⟨b', hb, s, hedited⟩
  | role hroles =>
    subst hroles
    obtain ⟨b', hb, hedited⟩ := exists_putClaim h (by decide) (ofDatum?_tuple _) (fits_roles user _)
    exact ⟨b', hb, s, hedited⟩
  | roles =>
    obtain ⟨b', hb, hedited⟩ := exists_putClaim h (by decide) (ofDatum?_tuple _) (fits_roles user _)
    exact ⟨b', hb, s, hedited⟩
  | @claim name value henterable hf hn ht =>
    obtain ⟨hname, v, hv⟩ := henterable
    simp only [List.mem_cons, not_or] at hn
    have hfits : Fits user roles name v := by
      refine ⟨?_, hn.2.2, fun hname => ?_, fun hu => absurd hu hn.1, fun hr => absurd hr hn.2.1⟩
      · rintro x rfl
        exact hf x (ClaimValue.eq_float_of_ofDatum? hv)
      · obtain ⟨text, rfl⟩ := ht hname
        exact ⟨text, (Option.some.inj hv).symm⟩
    obtain ⟨b', hb, hedited⟩ := exists_putClaim h hname hv hfits
    exact ⟨b', hb, s, hedited⟩
  | @expiry n hn =>
    refine ⟨_, ?_, ⟨s.issuedAt, some n, s.leeway, s.tokenId⟩, edited_policy h h.issuedAt ?_ h.leeway⟩
    · simp [edit, withPolicy, Policy.setExpiry, Policy.whole, h.policy, Schedule.policy]
    · rintro m ⟨⟩
      exact hn
  | @leeway n hn =>
    refine ⟨_, ?_, ⟨s.issuedAt, s.expiry, some n, s.tokenId⟩, edited_policy h h.issuedAt h.expiry ?_⟩
    · simp [edit, withPolicy, Policy.setLeeway, Policy.whole, h.policy, Schedule.policy]
    · rintro m ⟨⟩
      exact hn
  | @issuedAt value hvalue =>
    refine ⟨_, ?_, ⟨value.truth, s.expiry, s.leeway, s.tokenId⟩,
      edited_policy h hvalue h.expiry h.leeway⟩
    simp [edit, Policy.setIssuedAt, h.policy, Schedule.policy]
  | tokenId value =>
    refine ⟨_, ?_, ⟨s.issuedAt, s.expiry, s.leeway, value.truth⟩,
      edited_policy h h.issuedAt h.expiry h.leeway⟩
    simp [edit, Policy.setTokenId, h.policy, Schedule.policy]

/-! ### Any number of edits -/

/-- **Edits that describe a token go through**, one after the other, and the claims that they write
are there in the end. -/
theorem exists_edits {edits : List Edit} (h : Drafts user roles s b)
    (he : ∀ e ∈ edits, Describes user roles e) :
    ∃ b', b.chain edits = .ok b' ∧ ∃ s', Drafts user roles s' b' ∧
      b'.algorithm = b.algorithm ∧ b'.secret = b.secret ∧
      ∀ name, b'.claims.contains name = true ↔
        b.claims.contains name = true ∨ ∃ e ∈ edits, e.claim? = some name := by
  -- an edit may change the schedule, so the invariant is about the builder and its schedule of then
  induction edits generalizing b s with
  | nil => exact ⟨b, rfl, s, h, rfl, rfl, fun name => by simp⟩
  | cons e edits ih =>
    obtain ⟨hfirst, hrest⟩ := List.forall_mem_cons.1 he
    obtain ⟨b₁, hb₁, s₁, hedited⟩ := exists_edit h hfirst
    obtain ⟨b', hb', s', hdrafts, halgorithm, hsecret, hcontains⟩ := ih hedited.drafts hrest
    refine ⟨b', ?_, s', hdrafts, halgorithm.trans hedited.algorithm, hsecret.trans hedited.secret,
      fun name => ?_⟩
    · rw [chain, List.foldlM_cons, unlessFailed_eq_ok.2 hb₁, ok_bind]
      exact hb'
    · rw [hcontains, hedited.contains]
      simp [or_assoc]

/-- The builder that is created with a key and then edited. -/
def made (secret : Datum) (algorithm : Algorithm) (edits : List Edit) : Except Failure Builder := do
  (← create secret (.text algorithm.name)).chain edits

/-- **A builder for a user can be made** with any key and any edits that describe its tokens. -/
theorem exists_made {secret : Datum} {key : List UInt8} (hk : Key.accept secret = .ok key)
    (algorithm : Algorithm) {edits : List Edit} (he : ∀ e ∈ edits, Describes user roles e) :
    ∃ b, made secret algorithm edits = .ok b ∧ ∃ s, Drafts user roles s b ∧
      b.algorithm = algorithm ∧ b.secret = secret ∧
      ∀ name, b.claims.contains name = true ↔ ∃ e ∈ edits, e.claim? = some name := by
  have hcreate : create secret (.text algorithm.name) = .ok ⟨algorithm, secret, .empty, {}⟩ := by
    rw [create, Algorithm.check_name, ok_bind]
    exact if_pos (Key.truth_of_accept hk)
  have hempty : Drafts user roles ⟨true, none, none, false⟩ ⟨algorithm, secret, .empty, {}⟩ := by
    refine ⟨rfl, rfl, ?_, ?_, List.forall_mem_nil _⟩
    · rintro n ⟨⟩
    · rintro n ⟨⟩
  obtain ⟨b, hb, s, hdrafts, halgorithm, hsecret, hcontains⟩ := exists_edits hempty he
  refine ⟨b, ?_, s, hdrafts, halgorithm, hsecret, fun name => ?_⟩
  · rw [made, hcreate, ok_bind, hb]
  · rw [hcontains]
    simp [ClaimSet.contains, ClaimSet.empty, Record.contains]

end Builder

end TokenGate
