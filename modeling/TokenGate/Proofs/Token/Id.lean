/-
The id of a token.

`id?` reads the id out of a token's text, as anyone can who holds the token.  `id?_issue` says what is
read there after issuing: the id of the number that was free, if the policy asks for an id; and no id
otherwise, unless the claims have one of that name.  It holds for all claims.  A floating-point number
among them need not come back as it was, but it never keeps the rest from being read.
-/
import TokenGate.Proofs.Json.Float
import TokenGate.Proofs.Token.Reserved

namespace TokenGate

/-! ### Values of payloads -/

theorem ClaimSet.simple_payload (s : ClaimSet) : ∀ e ∈ s.payload, e.2.Simple := by
  intro e he
  obtain ⟨⟨name, v⟩, -, rfl⟩ := List.mem_map.1 he
  cases v with
  | text t => exact .inl (.text t)
  | bool b => exact .inl (.bool b)
  | int n => exact .inl (.int n)
  | float x => exact .inr ⟨x, rfl⟩
  | texts ss => exact .inl (.texts ss)

theorem Number.simple_toDatum (x : Number) : x.toDatum.Simple := by
  cases x with
  | int n => exact .inl (.int n)
  | float x => exact .inr ⟨x, rfl⟩

theorem Counted.simple {move : Int → Number → Option Number} {second : Int}
    {duration : Option Datum} {d : Datum} (h : Counted move second duration (some d)) :
    d.Simple := by
  cases h with
  | @set _ _ time => exact time.simple_toDatum

/-- What a policy decides are simple values. -/
theorem Policy.Decides.simple {policy : Policy} {second : Int} {idNumber : Nat} {r : Record Datum}
    (h : policy.Decides second idNumber r) (hn : r.names.Sublist Claim.reserved) :
    ∀ e ∈ r, e.2.Simple := by
  rintro ⟨name, d⟩ he
  have hget : r.get? name = some d := (Record.get?_eq_some_iff (hn.nodup (by decide))).2 he
  have hname := hn.subset (Record.mem_names_of_mem he)
  simp only [Claim.reserved, List.mem_cons, List.not_mem_nil, or_false] at hname
  rcases hname with rfl | rfl | rfl | rfl
  · have hissued := hget.symm.trans h.issuedAt
    split at hissued
    · cases hissued
      exact .inl (.int second)
    · cases hissued
  · exact (hget ▸ h.expires).simple
  · exact (hget ▸ h.notBefore).simple
  · have hid := hget.symm.trans h.tokenId
    split at hid
    · cases hid
      exact .inl (.text _)
    · cases hid

namespace Token

variable {algorithm : Algorithm} {claims : ClaimSet} {policy : Policy} {secret : Datum}
  {clock : Number} {nextId : Nat} {p : Record Datum} {token : String}

/-- The names of a payload are distinct, and its values are simple. -/
theorem simple_payload (h : payload claims policy clock nextId = .ok p) :
    p.names.Nodup ∧ ∀ e ∈ p, e.2.Simple := by
  obtain ⟨-, -, -, n, -, hp⟩ := payload_eq_ok h
  obtain ⟨own, hown, hnames, rfl⟩ := stamp_eq_ok hp
  exact ⟨Record.nodup_names_overwrite claims.nodup_names_payload own,
    Record.forall_overwrite claims.simple_payload (hown.simple hnames)⟩

/-! ### Reading an id -/

/-- The id that a token's text carries. -/
def id? (token : String) : Option Datum := do
  let s ← Segments.ofText? token.toList
  let bytes ← Base64Url.decodeSegment s.payload
  match Json.read bytes with
  | .ok (.dict claims) => Record.get? claims Claim.tokenId
  | _ => none

theorem id?_of_carries {claims : Record Datum} (h : Carries token claims) :
    id? token = claims.get? Claim.tokenId := by
  obtain ⟨s, hs, bytes, hb, hr⟩ := h
  simp only [id?, hs, hb, hr, Option.bind_eq_bind, Option.bind_some]

/-- **A signed payload of simple values can be read from the token**, and every value that is no
floating-point number is read as it was signed. -/
theorem exists_carries (hn : p.names.Nodup) (hp : ∀ e ∈ p, e.2.Simple)
    (h : sign algorithm secret p = .ok token) :
    ∃ p', Carries token p' ∧ p'.names = p.names ∧
      ∀ name d, p.get? name = some d → (∀ x, d ≠ .float x) → p'.get? name = some d := by
  obtain ⟨-, ho, key, -, rfl⟩ := sign_eq_ok h
  rw [Datum.oversized_dict_eq_false_iff] at ho
  obtain ⟨p', hread, hnames, hsame⟩ := Json.exists_read_write hn fun e he =>
    (hp e he).imp_left fun hflat => hflat.writable (ho e he) _
  refine ⟨p', ?_, hnames, hsame⟩
  rw [Carries, String.toList_ofList]
  exact ⟨signedSegments algorithm key p,
    Segments.ofText?_text (Base64Url.dot_notMem_encode _) (Base64Url.dot_notMem_encode _), _,
    Base64Url.decodeSegment_encode _, hread⟩

/-- **The id of an issued token** is that of the free number, if the policy asks for one; otherwise
there is none, unless the claims have one. -/
theorem id?_issue (h : (issue algorithm claims policy secret clock nextId).outcome = .ok token) :
    (policy.tokenId = true → id? token = some (.text (id nextId))) ∧
      (policy.tokenId = false → claims.contains Claim.tokenId = false → id? token = none) := by
  rw [issue] at h
  split at h
  · cases h
  next p hp =>
  obtain ⟨hn, hsimple⟩ := simple_payload hp
  obtain ⟨p', hcarries, hnames, hsame⟩ := exists_carries hn hsimple h
  obtain ⟨-, -, -, n, -, hstamp⟩ := payload_eq_ok hp
  obtain ⟨own, hown, hownNames, rfl⟩ := stamp_eq_ok hstamp
  have hget := Record.get?_overwrite claims.payload (hownNames.nodup (by decide)) Claim.tokenId
  rw [hown.tokenId] at hget
  rw [id?_of_carries hcarries]
  refine ⟨fun ht => ?_, fun ht hnone => ?_⟩
  · rw [ht, if_pos rfl, Option.some_or] at hget
    exact hsame _ _ hget (by rintro x ⟨⟩)
  · have habsent : claims.get? Claim.tokenId = none := by
      rw [← Option.isNone_iff_eq_none, ← Option.not_isSome]
      exact congrArg not hnone
    rw [ht, ClaimSet.get?_payload, habsent] at hget
    rw [Record.get?_eq_none_iff, hnames, ← Record.get?_eq_none_iff]
    exact hget

end Token

end TokenGate
