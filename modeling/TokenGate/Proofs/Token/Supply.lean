/-
What building takes from the supply of ids.

A builder takes a number if its policy asks for an id and the checks before the signature are passed
(`Builder.TakesId`), and it takes no number otherwise (`nextId_of_takesId`, `nextId_of_not_takesId`).
This needs durations in whole seconds, which is what the setters and restoring leave: with a fraction,
a time may be out of the range of such numbers, and then the payload breaks off before the id.

`Rebuilds` is what is known of the id of a token that was restored: the builder asks for a new one
exactly if the token has one, and has lost the old one.
-/
import TokenGate.Proofs.Token.Id
import TokenGate.Proofs.Token.Rebuild

namespace TokenGate

open Token

namespace Policy

theorem whole_eq_ok {duration : Duration} {value d : Datum} (h : whole duration value = .ok d) :
    ∃ n, d = .int n := by
  unfold whole at h
  split at h
  · cases h
    exact ⟨_, rfl⟩
  · cases h

end Policy

namespace Builder

/-- Building takes an id: the policy asks for one, the claims are complete, the policy is valid, and
the clock stands at some second.  Nothing is said of the signature. -/
structure TakesId (b : Builder) (clock : Number) : Prop where
  tokenId : b.policy.tokenId = true
  userId : b.claims.contains Claim.userId = true
  roles : b.claims.contains Claim.roles = true
  policy : b.policy.validate = .ok ()
  second : ∃ n, Token.second clock = .ok n

/-- The durations of the policy are whole seconds. -/
def Whole (b : Builder) : Prop := ∃ s : Schedule, b.policy = s.policy

variable {b b' : Builder} {clock : Number} {nextId : Nat} {token : String}

theorem nextId_of_takesId (hb : b.Whole) (h : b.TakesId clock) :
    (b.build clock nextId).nextId = nextId + 1 := by
  obtain ⟨n, hn⟩ := h.second
  have hpayload : payload b.claims b.policy clock nextId =
      stamp b.policy n nextId b.claims.payload :=
    payload_eq_stamp h.userId h.roles h.policy hn
  rcases exists_stamp h.policy n nextId b.claims.payload with ⟨p, hp⟩ | ⟨-, x, hx⟩
  · rw [build, issue, hpayload, hp]
    exact if_pos h.tokenId
  · -- whole seconds can always be counted
    obtain ⟨s, hs⟩ := hb
    rw [hs] at hx
    rcases hx with hx | hx
    · obtain ⟨n, -, ⟨⟩⟩ := Option.map_eq_some_iff.1 hx
    · obtain ⟨n, -, ⟨⟩⟩ := Option.map_eq_some_iff.1 hx

theorem nextId_of_not_takesId (h : ¬b.TakesId clock) :
    (b.build clock nextId).nextId = nextId := by
  rw [build, issue]
  split
  · rfl
  · next p hp =>
    -- the payload has passed all checks, so it is the policy that asks for no id
    obtain ⟨hu, hr, hv, n, hn, -⟩ := payload_eq_ok hp
    exact if_neg fun ht => h ⟨ht, hu, hr, hv, n, hn⟩

/-- No number comes back to the supply. -/
theorem le_nextId_build (b : Builder) (clock : Number) (nextId : Nat) :
    nextId ≤ (b.build clock nextId).nextId := by
  rw [build, issue]
  split
  · exact le_rfl
  · dsimp only
    split
    · exact Nat.le_succ nextId
    · exact le_rfl

/-- A token with an id has taken its number. -/
theorem nextId_of_build (h : (b.build clock nextId).outcome = .ok token)
    (ht : b.policy.tokenId = true) : (b.build clock nextId).nextId = nextId + 1 := by
  rw [build, issue] at h ⊢
  split at h
  · cases h
  · exact if_pos ht

/-! ### Whole seconds -/

theorem policy_of_make {algorithm : Algorithm} {secret : Datum} {claims : ClaimSet} {policy : Policy}
    (h : make algorithm secret claims policy = .ok b) : b.policy = policy := by
  rw [make] at h
  split at h
  · cases h
    rfl
  · cases h

theorem whole_create {secret algorithm : Datum} (h : create secret algorithm = .ok b) :
    b.Whole := by
  obtain ⟨found, -, h⟩ := bind_eq_ok.1 h
  exact ⟨⟨true, none, none, false⟩, policy_of_make h⟩

theorem whole_ofVerified {algorithm : Algorithm} {v : Verified} {secret : Datum}
    (h : ofVerified algorithm v secret = .ok b) : b.Whole := by
  obtain ⟨claims, -, rfl⟩ := ofVerified_eq_ok h
  exact ⟨v.schedule, rfl⟩

theorem whole_ofToken {token : RawText} {secret algorithm : Datum}
    (h : ofToken token secret algorithm clock = .ok b) : b.Whole := by
  obtain ⟨found, -, h⟩ := bind_eq_ok.1 h
  obtain ⟨v, -, h⟩ := bind_eq_ok.1 h
  exact whole_ofVerified h

/-- The setters of durations take whole seconds only. -/
theorem whole_edit (hb : b.Whole) (e : Edit) : (b.edit e).1.Whole := by
  obtain ⟨s, hs⟩ := hb
  cases e with
  -- a claim leaves the policy as it is; the other edits put a new schedule in place of the old one
  | userId value | claim name value => exact ⟨s, hs⟩
  | roles value =>
    rw [edit]
    split
    · exact ⟨s, hs⟩
    · exact ⟨s, hs⟩
  | expiry value =>
    rw [edit, withPolicy, Policy.setExpiry]
    split
    · next hd =>
      obtain ⟨n, rfl⟩ := Policy.whole_eq_ok hd
      exact ⟨⟨s.issuedAt, some n, s.leeway, s.tokenId⟩, by rw [hs]; rfl⟩
    · exact ⟨s, hs⟩
  | leeway value =>
    rw [edit, withPolicy, Policy.setLeeway]
    split
    · next hd =>
      obtain ⟨n, rfl⟩ := Policy.whole_eq_ok hd
      exact ⟨⟨s.issuedAt, s.expiry, some n, s.tokenId⟩, by rw [hs]; rfl⟩
    · exact ⟨s, hs⟩
  | issuedAt value => exact ⟨⟨value.truth, s.expiry, s.leeway, s.tokenId⟩, by rw [edit, hs]; rfl⟩
  | tokenId value => exact ⟨⟨s.issuedAt, s.expiry, s.leeway, value.truth⟩, by rw [edit, hs]; rfl⟩
  | algorithm value =>
    rw [edit]
    split
    · exact ⟨s, hs⟩
    · exact ⟨s, hs⟩

/-! ### Renewing a token -/

/-- The builder asks for a new id exactly if the token has one, and has no claim of that name. -/
structure Rebuilds (b : Builder) (v : Verified) : Prop where
  tokenId : b.policy.tokenId = (v.given? Claim.tokenId).isSome
  absent : b.claims.contains Claim.tokenId = false

theorem absent_of_unreserved {claims : ClaimSet} (h : claims.payload.Unreserved) :
    claims.contains Claim.tokenId = false := by
  rw [← Bool.not_eq_true, ClaimSet.contains_iff]
  intro hm
  exact h Claim.tokenId (by decide) (by rwa [ClaimSet.names_payload])

theorem rebuilds_ofVerified {algorithm algorithm' : Algorithm} {secret secret' presented : Datum}
    {v : Verified} (hv : verify algorithm secret clock presented = .ok v)
    (h : ofVerified algorithm' v secret' = .ok b) : b.Rebuilds v := by
  obtain ⟨hchecked, -⟩ := checked_of_verify hv
  obtain ⟨claims, hc, rfl⟩ := ofVerified_eq_ok h
  exact ⟨rfl, absent_of_unreserved (unreserved_ofRecord hchecked.nodup_names hc)⟩

/-- A renewed token has the id of the free number, or no id, as the token that was renewed. -/
theorem Rebuilds.id?_eq {v : Verified} (hb : b.Rebuilds v)
    (h : (b.build clock nextId).outcome = .ok token) :
    id? token = if (v.given? Claim.tokenId).isSome then some (.text (Token.id nextId)) else none := by
  obtain ⟨hgiven, hnone⟩ := id?_issue h
  rw [← hb.tokenId]
  rcases ht : b.policy.tokenId with - | -
  · exact hnone ht hb.absent
  · exact hgiven ht

end Builder

end TokenGate
