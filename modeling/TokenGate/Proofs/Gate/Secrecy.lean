/-
The secret influences only the signature.

Whoever watches a gate sees its decisions, its calls and its journal.  `process_secret_alike` compares
two gates that differ in nothing but their secrets, when twin tokens are presented to them in the same
place: tokens with the same header and payload, of which both or none are signed under the secret of
their gate.  What can be seen of the two gates is the same, but for the signatures of renewed tokens.

The steps are those of a request: the verdict (`Token.check_twins`), the renewal
(`attemptRenewal_agree`) and the outcome of a request that passes (`grant_alike`).
-/
import TokenGate.Proofs.Gate.Reissue
import TokenGate.Proofs.Gate.Sliding
import TokenGate.Proofs.Token.Secrecy

namespace TokenGate.Gate

open Token

variable {α : Type} {g : Gate} {secret₁ secret₂ : Datum} {key₁ key₂ : List UInt8}

/-! ### What can be seen -/

/-- Two tokens that differ at most in their signatures. -/
def SignedAlike (token₁ token₂ : String) : Prop := ∃ s₁ s₂, SameContent token₁ token₂ s₁ s₂

/-- Two decisions that are the same but for the signature of a renewed token. -/
structure DecidedAlike (d₁ d₂ : Decision α) : Prop where
  rest : d₂ = { d₁ with renewedToken := d₂.renewedToken }
  renewedToken : Option.Rel SignedAlike d₁.renewedToken d₂.renewedToken

/-- Two calls that are the same but for the signature of a renewed token. -/
inductive CalledAlike : Call → Call → Prop
  | same (call : Call) : CalledAlike call call
  | setHeader (name : Datum) {token₁ token₂ : String} (h : SignedAlike token₁ token₂) :
      CalledAlike (.setHeader name token₁) (.setHeader name token₂)

/-- Two outcomes that are the same but for the signature of a renewed token. -/
structure Alike (o₁ o₂ : Outcome α) : Prop where
  decision : Agree DecidedAlike o₁.decision o₂.decision
  calls : List.Forall₂ CalledAlike o₁.calls o₂.calls
  events : o₁.events = o₂.events
  nextId : o₁.nextId = o₂.nextId

/-- Two renewals that are the same but for the signature of the token. -/
structure Renewal.Alike (r₁ r₂ : Renewal) : Prop where
  outcome : Agree SignedAlike r₁.outcome r₂.outcome
  events : r₁.events = r₂.events
  nextId : r₁.nextId = r₂.nextId

/-- A failure is like itself, and so is a decision without a renewed token. -/
theorem Alike.of_error {o : Outcome α} {f : Failure} (h : o.decision = .error f) : Alike o o := by
  refine ⟨?_, List.forall₂_same.2 fun call _ => .same call, rfl, rfl⟩
  rw [h]
  exact .error f

theorem Alike.of_ok {o : Outcome α} {d : Decision α} (h : o.decision = .ok d)
    (ht : d.renewedToken = none) : Alike o o := by
  refine ⟨?_, List.forall₂_same.2 fun call _ => .same call, rfl, rfl⟩
  rw [h]
  refine .ok ⟨rfl, ?_⟩
  rw [ht]
  exact .none

/-! ### Renewing -/

/-- The gate with a secret of its own. -/
def withSecret (g : Gate) (secret : Datum) : Gate := { g with secret }

section TwoSecrets

variable (hk₁ : Key.accept secret₁ = .ok key₁) (hk₂ : Key.accept secret₂ = .ok key₂)

include hk₁ hk₂

/-- **A renewal works under both secrets or under none**, and nothing is noted of them. -/
theorem attemptRenewal_agree (algorithm : Algorithm) (v : Verified) (identity : Identity)
    (clock : Number) (nextId : Nat) :
    Renewal.Alike (attemptRenewal algorithm secret₁ v identity clock nextId)
      (attemptRenewal algorithm secret₂ v identity clock nextId) := by
  rw [attemptRenewal_eq (Key.truth_of_accept hk₁), attemptRenewal_eq (Key.truth_of_accept hk₂)]
  rcases restore v with f | ⟨claims, policy⟩
  · exact ⟨.error f, rfl, rfl⟩
  dsimp only
  rw [issue, issue]
  rcases payload (claims.identified identity) policy clock nextId with f | p
  · exact ⟨.error f, rfl, rfl⟩
  · refine ⟨(sign_agree hk₁ hk₂ algorithm p).imp ?_, rfl, rfl⟩
    rintro token₁ token₂ ⟨s₁, s₂, htwins⟩
    exact ⟨s₁, s₂, htwins.toSameContent⟩

/-- A request with a valid token passes both gates alike. -/
theorem grant_alike (g : Gate) (next : Option Identity → α) (v : Verified) (identity : Identity)
    (clock : Number) (looks : List Call) (nextId : Nat) :
    Alike (grant (g.withSecret secret₁) next v identity clock looks nextId)
      (grant (g.withSecret secret₂) next v identity clock looks nextId) := by
  rcases hr : g.renew with - | -
  · have h₁ : (g.withSecret secret₁).renew = false := hr
    have h₂ : (g.withSecret secret₂).renew = false := hr
    rw [(Passage.unchanged h₁).grant_eq, (Passage.unchanged h₂).grant_eq]
    exact .of_ok rfl rfl
  have h₁ : (g.withSecret secret₁).renew = true := hr
  have h₂ : (g.withSecret secret₂).renew = true := hr
  have hagree := attemptRenewal_agree hk₁ hk₂ g.algorithm v identity clock nextId
  rcases ht₁ : attemptRenewal g.algorithm secret₁ v identity clock nextId with
    ⟨outcome₁, events₁, id₁⟩
  rcases ht₂ : attemptRenewal g.algorithm secret₂ v identity clock nextId with
    ⟨outcome₂, events₂, id₂⟩
  rw [ht₁, ht₂] at hagree
  obtain ⟨houtcome, rfl, rfl⟩ : Agree SignedAlike outcome₁ outcome₂ ∧ events₁ = events₂ ∧ id₁ = id₂ :=
    ⟨hagree.outcome, hagree.events, hagree.nextId⟩
  cases houtcome with
  | error f =>
    rcases hf : forgiven f with - | -
    · rw [(Passage.broken h₁ ht₁ hf).grant_eq, (Passage.broken h₂ ht₂ hf).grant_eq]
      exact .of_error rfl
    · rw [(Passage.kept h₁ ht₁ hf).grant_eq, (Passage.kept h₂ ht₂ hf).grant_eq]
      exact .of_ok rfl rfl
  | ok hsigned =>
    rw [(Passage.renewed h₁ ht₁).grant_eq, (Passage.renewed h₂ ht₂).grant_eq]
    refine ⟨.ok ⟨rfl, .some hsigned⟩, ?_, rfl, rfl⟩
    exact List.rel_append (List.forall₂_same.2 fun call _ => .same call)
      (.cons (.setHeader _ hsigned) (.cons (.same .next) .nil))

/-! ### Presenting -/

omit hk₁ hk₂

/-- Two requests with a token each in the same place.  No source reads anything before the one at the
place; it may also be that no source is at the place, and that nothing is read. -/
structure PresentedAlike (chain : Chain) (request₁ request₂ : Request) (token₁ token₂ : String) :
    Prop where
  constrained : request₁.constrained = request₂.constrained
  place : ∃ before after, chain.sources = before ++ after ∧
    (∀ s ∈ before, s.read? request₁ = none ∧ s.read? request₂ = none) ∧
    ∀ source ∈ after.head?, source.read? request₁ = some (.text token₁) ∧
      source.read? request₂ = some (.text token₂)

/-- The two tokens are found after the same looks, if anything is. -/
theorem PresentedAlike.search {chain : Chain} {request₁ request₂ : Request} {token₁ token₂ : String}
    (h : PresentedAlike chain request₁ request₂ token₁ token₂) : ∃ looks,
    (chain.search request₁ = (none, looks) ∧ chain.search request₂ = (none, looks)) ∨
      (chain.search request₁ = (some (.text token₁), looks) ∧
        chain.search request₂ = (some (.text token₂), looks)) := by
  obtain ⟨before, after, hsources, hbefore, hafter⟩ := h.place
  rw [Chain.search, Chain.search, hsources, Source.search_append fun s hs => (hbefore s hs).1,
    Source.search_append fun s hs => (hbefore s hs).2]
  cases after with
  | nil => exact ⟨_, .inl ⟨rfl, rfl⟩⟩
  | cons source after =>
    obtain ⟨h₁, h₂⟩ := hafter source rfl
    rw [Source.search, h₁, Source.search, h₂]
    exact ⟨_, .inr ⟨rfl, rfl⟩⟩

include hk₁ hk₂

/-- Twin tokens are judged alike. -/
theorem judge_alike {token₁ token₂ : String} {s₁ s₂ : Segments}
    (ht : Twins g.algorithm secret₁ secret₂ token₁ token₂ s₁ s₂) (next : Option Identity → α)
    (clock : Number) (looks : List Call) (nextId : Nat) :
    Alike (judge (g.withSecret secret₁) next (.text token₁) clock looks nextId)
      (judge (g.withSecret secret₂) next (.text token₂) clock looks nextId) := by
  have hverdict : checkRaw (g.withSecret secret₁).algorithm (g.withSecret secret₁).secret clock
      (.text token₁) = checkRaw (g.withSecret secret₂).algorithm (g.withSecret secret₂).secret clock
      (.text token₂) := check_twins hk₁ hk₂ ht clock
  have hmapping : (g.withSecret secret₁).mapping = (g.withSecret secret₂).mapping := rfl
  rw [judge, judge, hverdict, hmapping]
  split
  · exact .of_error rfl
  · exact .of_ok rfl rfl
  next v hv =>
  split
  · exact .of_ok rfl rfl
  · exact .of_error rfl
  next identity hi => exact grant_alike hk₁ hk₂ g next v identity clock looks nextId

/-- **The secret influences only the signature.**  Two gates with secrets of their own, to which twin
tokens are presented in the same place, decide the same, do the same and note the same, but for the
signatures of renewed tokens. -/
theorem process_secret_alike {request₁ request₂ : Request} {token₁ token₂ : String}
    {s₁ s₂ : Segments} (ht : Twins g.algorithm secret₁ secret₂ token₁ token₂ s₁ s₂)
    (hp : PresentedAlike g.chain request₁ request₂ token₁ token₂) (clock : Number) (nextId : Nat)
    (next : Option Identity → α) :
    Alike ((g.withSecret secret₁).process request₁ clock nextId next)
      ((g.withSecret secret₂).process request₂ clock nextId next) := by
  have hchain₁ : (g.withSecret secret₁).chain = g.chain := rfl
  have hchain₂ : (g.withSecret secret₂).chain = g.chain := rfl
  rw [process, process, hchain₁, hchain₂, hp.constrained]
  split
  · obtain ⟨looks, ⟨hs₁, hs₂⟩ | ⟨hs₁, hs₂⟩⟩ := hp.search
    · rw [hs₁, hs₂]
      exact .of_ok rfl rfl
    · rw [hs₁, hs₂]
      exact judge_alike hk₁ hk₂ ht next clock _ nextId
  · exact .of_ok rfl rfl

end TwoSecrets

/-- The guest's token, signed with two letters in turn: both gates renew it, alike. -/
theorem process_secret_alike_guest : ∃ token₁ token₂ s₁ s₂ d,
    let o₁ := (usualGate.withSecret (.text "k")).process (carrying token₁) (.int 0) 0 fun _ => ()
    let o₂ := (usualGate.withSecret (.text "l")).process (carrying token₂) (.int 0) 0 fun _ => ()
    Key.accept (.text "k") = .ok [0x6b] ∧ Key.accept (.text "l") = .ok [0x6c] ∧
      Twins usualGate.algorithm (.text "k") (.text "l") token₁ token₂ s₁ s₂ ∧
      PresentedAlike usualGate.chain (carrying token₁) (carrying token₂) token₁ token₂ ∧
      o₁.decision = .ok d ∧ d.state = .renewed ∧ Alike o₁ o₂ := by
  have hk : Key.accept (.text "l") = .ok [0x6c] := rfl
  have hrenewable := renewable_guestClaims rfl forward_tenSeconds
  have hprintable : tenSeconds.Printable 0 := printable_tenSeconds le_rfl (by decide)
  obtain ⟨token₁, hsign₁⟩ := hrenewable.sign_of_printable (id 0) hprintable
  have hagree := sign_agree accept_letter hk usualGate.algorithm
    (guestClaims.payload ++ tenSeconds.claims 0 (id 0))
  rw [show sign usualGate.algorithm (.text "k") _ = _ from hsign₁] at hagree
  obtain ⟨token₂, hsign₂, s₁, s₂, htwins⟩ := hagree.exists_ok
  have hread₁ : (Source.header (.text Source.defaultHeader)).read? (carrying token₁) =
      some (.text token₁) := Source.read?_header rfl (clean?_signed hsign₁)
  have hread₂ : (Source.header (.text Source.defaultHeader)).read? (carrying token₂) =
      some (.text token₂) := Source.read?_header rfl (clean?_signed hsign₂)
  have hpresented : PresentedAlike usualGate.chain (carrying token₁) (carrying token₂)
      token₁ token₂ :=
    ⟨rfl, [], _, rfl, fun s hs => (nomatch hs),
      fun source hs => Option.some.inj hs ▸ ⟨hread₁, hread₂⟩⟩
  have hended : ¬tenSeconds.Ended 0 ((0 : Int) : ℚ) := by
    rintro ⟨n, ⟨⟩, hle⟩
    norm_num at hle
  have hnow : (Number.int 0).rational? = some ((0 : Int) : ℚ) := rfl
  obtain ⟨d, hd, hstate⟩ : ∃ d, (usualGate.process (carrying token₁) (.int 0) 0
      fun _ => ()).decision = .ok d ∧ d.state = .renewed := by
    obtain ⟨looks, hsearch⟩ := (presents_carrying token₁).search (clean?_signed hsign₁)
    obtain ⟨renewed, -, hd⟩ := (decision_of_open hrenewable hsign₁ hnow rfl hsearch rfl le_rfl
      (by norm_num) hended 0 fun _ => ()).1 (by rwa [Int.floor_intCast])
    exact ⟨_, hd, rfl⟩
  exact ⟨token₁, token₂, s₁, s₂, d, accept_letter, hk, htwins, hpresented, hd, hstate,
    process_secret_alike accept_letter hk htwins hpresented (.int 0) 0 fun _ => ()⟩

end TokenGate.Gate
