/-
From a builder to a gate.

A token is made for a user with roles and carried to a gate in any of its places.
`process_delivered` is the main result: the token is compact, and wherever the gate looks for tokens,
it finds this one behind whatever blanks and scheme it is wrapped in, lets the request through and
attaches the user with the roles, each once.

The gate also renews the token if it is told to and if the new times can be written, which may be too
long for it a second after they could be (`delivered_not_renewed`).
-/
import TokenGate.Proofs.Gate.Protocol
import TokenGate.Proofs.Gate.Renewability
import TokenGate.Proofs.Token.Compact
import TokenGate.Proofs.Token.Edits

namespace TokenGate.Gate

open Token Builder

variable {α : Type} {g : Gate} {request : Request} {source : Source} {token user : String}
  {roles : List String} {s : Schedule} {b : Builder} {identity : Identity} {clock : Number}
  {nextId : Nat} {next : Option Identity → α} {looks : List Lookup} {second : Int} {now : ℚ}

/-! ### Arriving -/

/-- A guarded request carries the token in one of the places that the gate looks at, and nothing that
is read before. -/
structure Receives (g : Gate) (request : Request) (source : Source) (token : String) : Prop where
  constrained : request.constrained = true
  in_source : ∃ before after value, g.chain.sources = before ++ source :: after ∧
    (∀ s ∈ before, s.read? request = none) ∧ request.value? source.lookup = some (.text value) ∧
    source.Wraps token value

theorem Receives.search (h : g.Receives request source token) (ht : Source.Clean token) :
    ∃ looks, g.chain.search request = (some (.text token), looks) := by
  obtain ⟨before, after, value, hsources, hbefore, hvalue, hwraps⟩ := h.in_source
  refine ⟨(g.chain.search request).2, Prod.ext ?_ rfl⟩
  rw [Chain.search, hsources]
  exact Source.search_of_read? hbefore (Source.read?_of_wraps ht hvalue hwraps)

/-! ### Being let through -/

/-- The request passes for the identity, which is attached to it, with a renewed token exactly if the
gate renews tokens and the condition holds. -/
structure Admits (g : Gate) (o : Outcome α) (identity : Identity) (renewable : Prop) : Prop where
  decision : ∃ d, o.decision = .ok d ∧ d.identity = some identity ∧
    (g.renew = true ∧ renewable → d.state = .renewed) ∧
    (¬(g.renew = true ∧ renewable) → d.state = .authenticated)
  attached : o.attached? = some (identity, "TOKEN")

/-- The identity of a request that passes is the one that was attached to it. -/
theorem attached?_of_passed {d : Decision α} {o : Outcome α} {renewed : Option String}
    (h : Passed g next d (looks.map .look) o.calls renewed) (hi : d.identity = some identity) :
    o.attached? = some (identity, "TOKEN") := by
  obtain ⟨attached, hd, hcalls⟩ := h
  obtain rfl : attached = identity := by
    rw [hd] at hi
    exact Option.some.inj hi
  rw [Outcome.attached?, hcalls]
  cases renewed with
  | none => simp [List.findSome?_cons, Call.attached?]
  | some token => simp [List.findSome?_cons, Call.attached?]

theorem admits_of_decision {renewable : Prop} {d : Decision α}
    (hd : (g.process request clock nextId next).decision = .ok d) (hi : d.identity = some identity)
    (hr : g.renew = true ∧ renewable → d.state = .renewed)
    (ha : ¬(g.renew = true ∧ renewable) → d.state = .authenticated) :
    Admits g (g.process request clock nextId next) identity renewable := by
  refine ⟨⟨d, hd, hi, hr, ha⟩, ?_⟩
  -- the state tells which calls were made, and in both cases the identity is attached by one of them
  have hsettled := settled_of_process g request clock nextId next hd
  by_cases h : g.renew = true ∧ renewable
  · simp only [Settled, hr h] at hsettled
    obtain ⟨-, token, hpassed⟩ := hsettled
    exact attached?_of_passed hpassed hi
  · simp only [Settled, ha h] at hsettled
    exact attached?_of_passed hsettled.2 hi

/-- **A token that is found in time is let through**, whether the gate renews tokens or not. -/
theorem admits_of_open {claims : ClaimSet} {tokenId : String} (hs : Renewable g claims s identity)
    (hsign : sign g.algorithm g.secret (claims.payload ++ s.claims second tokenId) = .ok token)
    (hc : clock.rational? = some now) (hcon : request.constrained = true)
    (hsearch : g.chain.search request = (some (.text token), looks)) (hle : (second : ℚ) ≤ now) (h0 : 0 ≤ now)
    (he : ¬s.Ended second now) :
    Admits g (g.process request clock nextId next) identity (s.Printable ⌊now⌋) := by
  rcases hr : g.renew with - | -
  · have hd : (g.process request clock nextId next).decision =
        .ok { state := .authenticated, identity := some identity,
              result := some (next (some identity)) } := by
      rw [process_of_open hs hsign hc hcon hsearch (hs.forward.started hle) he,
        (Passage.unchanged hr).grant_eq]
      rfl
    exact admits_of_decision hd rfl (fun h => absurd (hr.symm.trans h.1) Bool.false_ne_true)
      fun _ => rfl
  · obtain ⟨hrenewed, hkept⟩ := decision_of_open hs hsign hc hcon hsearch hr hle h0 he nextId next
    by_cases hw : s.Printable ⌊now⌋
    · obtain ⟨renewed, -, hd⟩ := hrenewed hw
      exact admits_of_decision hd rfl (fun _ => rfl) fun h => absurd ⟨hr, hw⟩ h
    · exact admits_of_decision (hkept hw) rfl (fun h => absurd h.2 hw) fun _ => rfl

/-! ### Tokens of a builder -/

section Drafted

variable {secret : Datum} {key : List UInt8} (hd : Drafts user roles s b)
  (hk : Key.accept b.secret = .ok key) (hu : b.claims.contains Claim.userId = true)
  (hr : b.claims.contains Claim.roles = true)

include hd hu hr

/-- With the usual mapping, the claims speak for the user with the roles, each once. -/
theorem identity_of_drafts (huser : user ≠ "") (second : Int) (tokenId : String) :
    Identity.Mapping.identity {} (b.claims.payload ++ s.claims second tokenId) =
      .ok ⟨user, roles.eraseDups⟩ := by
  have hget : ∀ {name : String} {v : ClaimValue}, name ∉ Claim.reserved →
      b.claims.get? name = some v →
      Record.get? (b.claims.payload ++ s.claims second tokenId) name = some v.payload := by
    intro name v hname hv
    rw [get?_signed_of_notMem hname, ClaimSet.get?_payload, hv, Option.map_some]
  have hempty : user.isEmpty = false := by simp [String.isEmpty_eq_false_iff, huser]
  refine Identity.Mapping.identity_eq_ok.2 ⟨?_, ?_⟩
  · exact Identity.Mapping.userId_of_get? rfl hempty (hget (by decide) (hd.get?_userId hu))
  · rw [Identity.Mapping.roles_of_text rfl, Identity.rolesIn, hget (by decide) (hd.get?_roles hr)]
    exact congrArg Except.ok (Identity.rolesOf_texts roles)

/-- What is signed when the builder makes a token. -/
theorem build_drafts {builtAt : Number} (hc : Token.second builtAt = .ok second) (idNumber : Nat) :
    (b.build builtAt idNumber).outcome =
      sign b.algorithm b.secret (b.claims.payload ++ s.claims second (id idNumber)) := by
  rw [build, hd.policy, issue_schedule hc hd.unreserved hu hr hd.forward]

include hk

theorem renewable_of_drafts (huser : user ≠ "")
    (hp : ∀ claim ∈ b.claims.payload, claim.2.oversized = false) (hs : g.secret = b.secret)
    (hm : g.mapping = {}) : Renewable g b.claims s ⟨user, roles.eraseDups⟩ where
  issuedAt := hd.issuedAt
  forward := hd.forward
  floatFree := hd.floatFree
  unreserved := hd.unreserved
  subject := hd.subjectFits
  userId := hu
  roles := hr
  issuer := hd.issuerFits
  printable := hp
  key := ⟨key, by rw [hs, hk]⟩
  secret := by
    rw [hs]
    exact Key.truth_of_accept hk
  identity := by
    rw [hm]
    exact identity_of_drafts hd hu hr huser

/-- **A token is made exactly if its integers can be written.** -/
theorem exists_build_iff {builtAt : Number} (hc : Token.second builtAt = .ok second)
    (idNumber : Nat) : (∃ token, (b.build builtAt idNumber).outcome = .ok token) ↔
      (∀ claim ∈ b.claims.payload, claim.2.oversized = false) ∧ s.Printable second := by
  rw [build_drafts hd hu hr hc, exists_sign_iff hk, issuerFits_signed, ← Schedule.printable_iff]
  constructor
  · rintro ⟨-, hp⟩
    exact ⟨fun claim h => hp claim (List.mem_append_left _ h),
      fun claim h => hp claim (List.mem_append_right _ h)⟩
  · rintro ⟨hclaims, htimes⟩
    refine ⟨hd.issuerFits, fun claim h => ?_⟩
    rcases List.mem_append.1 h with h | h
    · exact hclaims claim h
    · exact htimes claim h

end Drafted

/-- **From a builder to a gate.**  A builder that is created with a key and edited to describe tokens
for a user with roles makes such tokens, as long as their integers can be written.  Each of them is
compact, and a gate with the same key and algorithm and the usual mapping, which receives it in any of
its places before it expires, lets the request through, with the user and the roles attached to it.
If the gate renews tokens, it sends a new one back, as long as its times can be written. -/
theorem process_delivered {secret : Datum} {key : List UInt8} {edits : List Edit}
    (hk : Key.accept secret = .ok key) (algorithm : Algorithm) (huser : user ≠ "")
    (hedits : ∀ e ∈ edits, Describes user roles e)
    (hu : ∃ e ∈ edits, e.claim? = some Claim.userId)
    (hr : ∃ e ∈ edits, e.claim? = some Claim.roles) :
    ∃ (b : Builder) (s : Schedule), made secret algorithm edits = .ok b ∧ b.policy = s.policy ∧
      s.issuedAt = true ∧
      ∀ builtAt issued idNumber, builtAt.rational? = some issued → 0 ≤ issued →
        ((∃ token, (b.build builtAt idNumber).outcome = .ok token) ↔
          (∀ claim ∈ b.claims.payload, claim.2.oversized = false) ∧ s.Printable ⌊issued⌋) ∧
        ∀ token, (b.build builtAt idNumber).outcome = .ok token →
          (∃ parts, Compact token parts) ∧
          ∀ {α : Type} (g : Gate) (source : Source) (request : Request) (clock : Number) (now : ℚ)
            (nextId : Nat) (next : Option Identity → α),
            g.secret = secret → g.algorithm = algorithm → g.mapping = {} →
            g.Receives request source token → clock.rational? = some now → issued ≤ now →
            ¬s.Ended ⌊issued⌋ now →
            Admits g (g.process request clock nextId next) ⟨user, roles.eraseDups⟩
              (s.Printable ⌊now⌋) := by
  obtain ⟨b, hb, s, hd, rfl, rfl, hcontains⟩ := exists_made hk algorithm hedits
  have hcu := (hcontains Claim.userId).2 hu
  have hcr := (hcontains Claim.roles).2 hr
  refine ⟨b, s, hb, hd.policy, hd.issuedAt, fun builtAt issued idNumber hissued h0 => ?_⟩
  have hsecond := second_of_rational hissued h0
  have hiff := exists_build_iff hd hk hcu hcr hsecond idNumber
  refine ⟨hiff, fun token htoken => ?_⟩
  -- that a token was made says that the integers of the claims can be written, at any second
  obtain ⟨hp, -⟩ := hiff.1 ⟨token, htoken⟩
  rw [build_drafts hd hcu hcr hsecond] at htoken
  refine ⟨compact_sign htoken, ?_⟩
  intro α g source request clock now nextId next hsecret halgorithm hmapping hreceives hnow hle hopen
  have hs := renewable_of_drafts hd hk hcu hcr huser hp hsecret hmapping
  have hsign : sign g.algorithm g.secret (b.claims.payload ++ s.claims ⌊issued⌋ (id idNumber)) =
      .ok token := by
    rw [halgorithm, hsecret, htoken]
  obtain ⟨looks, hsearch⟩ := hreceives.search (clean_signed hsign)
  exact admits_of_open hs hsign hnow hreceives.constrained hsearch (le_trans (Int.floor_le _) hle)
    (le_trans h0 hle) hopen

/-- The edits that describe a guest's tokens. -/
def guestEdits (lifetime : Int) : List Edit :=
  [.userId (.text "guest"), .roles (.list [.text "reader"]), .expiry (.int lifetime)]

theorem describes_guestEdits (lifetime : Int) (h : 0 < lifetime) :
    ∀ e ∈ guestEdits lifetime, Describes "guest" ["reader"] e :=
  List.forall_mem_cons.2 ⟨.userId, List.forall_mem_cons.2 ⟨.roles,
    List.forall_mem_singleton.2 (.expiry h)⟩⟩

theorem made_guestEdits (lifetime : Int) : made (.text "k") .hs256 (guestEdits lifetime) =
    .ok ⟨.hs256, .text "k", guestClaims, ⟨true, some (.int lifetime), none, false⟩⟩ := by
  rfl

/-- The guest's token in the authorization header, behind a scheme in mixed letters and blanks. -/
def bearing (token : String) : Request where
  constrained := true
  value? l :=
    if l = ⟨.header, .text Source.authorizationHeader⟩ then some (" BeaReR \t" ++ token ++ "\n")
    else none

theorem receives_bearing (token : String) : usualGate.Receives (bearing token) .bearer token where
  constrained := rfl
  in_source := by
    refine ⟨[.header (.text Source.defaultHeader)], [], _, rfl, ?_, rfl, ?_⟩
    · refine List.forall_mem_singleton.2 ?_
      rw [Source.read?]
      rfl
    · have hscheme : Text.AnyCase "BeaReR".toList "bearer".toList := by
        refine .cons ?_ (.cons ?_ (.cons ?_ (.cons ?_ (.cons ?_ (.cons ?_ .nil)))))
        all_goals decide
      refine ⟨[' '], "BeaReR".toList ++ ' ' :: ['\t'], ['\n'], ?_, .bearer hscheme ?_, ?_, ?_⟩
      · exact List.forall_mem_singleton.2 rfl
      · exact List.forall_mem_singleton.2 rfl
      · exact List.forall_mem_singleton.2 rfl
      · rw [String.toList_append, String.toList_append]
        simp

/-- A guest's token that was made for ten seconds and comes five seconds later, with the bearer scheme
and blanks around it. -/
theorem process_delivered_guest : ∃ b token d,
    let o := usualGate.process (bearing token) (.int 5) 0 fun _ => ()
    made (.text "k") .hs256 (guestEdits 10) = .ok b ∧ (b.build (.int 0) 0).outcome = .ok token ∧
      (∃ parts, Compact token parts) ∧ usualGate.Receives (bearing token) .bearer token ∧
      o.decision = .ok d ∧ d.state = .renewed ∧ d.identity = some guest ∧
      o.attached? = some (guest, "TOKEN") := by
  obtain ⟨b, s, hb, hpolicy, -, hall⟩ := process_delivered accept_letter .hs256 (by decide)
    (describes_guestEdits 10 (by decide)) ⟨_, List.mem_cons_self, rfl⟩
    ⟨_, List.mem_cons_of_mem _ List.mem_cons_self, rfl⟩
  obtain rfl := Except.ok.inj ((made_guestEdits 10).symm.trans hb)
  obtain rfl : tenSeconds = s := policy_injective hpolicy
  have hzero : (Number.int 0).rational? = some ((0 : Int) : ℚ) := rfl
  have hfive : (Number.int 5).rational? = some ((5 : Int) : ℚ) := rfl
  obtain ⟨hiff, hpasses⟩ := hall (.int 0) _ 0 hzero (by norm_num)
  rw [Int.floor_intCast] at hiff hpasses
  obtain ⟨token, htoken⟩ := hiff.2 ⟨(renewable_guestClaims rfl forward_tenSeconds).printable,
    printable_tenSeconds le_rfl (by decide)⟩
  obtain ⟨hcompact, hadmits⟩ := hpasses token htoken
  have hopen : ¬tenSeconds.Ended 0 ((5 : Int) : ℚ) := by
    rintro ⟨n, ⟨⟩, hle⟩
    norm_num at hle
  obtain ⟨⟨d, hd, hi, hrenewed, -⟩, hattached⟩ := hadmits usualGate .bearer (bearing token) (.int 5) _
    0 (fun _ => ()) rfl rfl rfl (receives_bearing token) hfive (by norm_num) hopen
  have hprintable : tenSeconds.Printable ⌊((5 : Int) : ℚ)⌋ := by
    rw [Int.floor_intCast]
    exact printable_tenSeconds (by decide) (by decide)
  exact ⟨_, token, d, hb, htoken, hcompact, receives_bearing token, hd, hrenewed ⟨rfl, hprintable⟩, hi,
    hattached⟩

/-- **A gate that renews tokens may not renew this one**: a second after it was made with the longest
lifetime that could be written, the new expiry has a digit too many, and the request passes without a
new token. -/
theorem delivered_not_renewed : ∃ edits b token d,
    (∀ e ∈ edits, Describes "guest" ["reader"] e) ∧ made (.text "k") .hs256 edits = .ok b ∧
      b.policy = longest.policy ∧ (b.build (.int 0) 0).outcome = .ok token ∧
      usualGate.secret = .text "k" ∧ usualGate.algorithm = .hs256 ∧ usualGate.mapping = {} ∧
      usualGate.renew = true ∧ usualGate.Receives (bearing token) .bearer token ∧
      ¬longest.Ended 0 1 ∧
      (usualGate.process (bearing token) (.int 1) 0 fun _ => ()).decision = .ok d ∧
      d.state = .authenticated := by
  have hlong := ten_le_tooLong
  have hedits := describes_guestEdits (tooLong - 1) (by omega)
  have hmade := made_guestEdits (tooLong - 1)
  have hrenewable := renewable_guestClaims rfl forward_longest
  obtain ⟨token, hsign⟩ := hrenewable.sign_of_printable (id 0) printable_longest
  have hreceives := receives_bearing token
  obtain ⟨looks, hsearch⟩ := hreceives.search (clean_signed hsign)
  have hone : (Number.int 1).rational? = some ((1 : Int) : ℚ) := rfl
  have hopen : ¬longest.Ended 0 ((1 : Int) : ℚ) := by
    rintro ⟨n, ⟨⟩, hle⟩
    have hle' : 0 + ((tooLong : Int) - 1) ≤ 1 := by exact_mod_cast hle
    omega
  have hnot : ¬longest.Printable ⌊((1 : Int) : ℚ)⌋ := by
    rw [Int.floor_intCast]
    exact not_printable_longest
  have hd := (decision_of_open hrenewable hsign hone rfl hsearch rfl (by norm_num) (by norm_num) hopen 0
    fun _ => ()).2 hnot
  refine ⟨_, _, token, _, hedits, hmade, rfl, ?_, rfl, rfl, rfl, rfl, hreceives, ?_, hd, rfl⟩
  · show (issue .hs256 guestClaims longest.policy (.text "k") (.int 0) 0).outcome = .ok token
    exact issue_of_sign rfl unreserved_guestClaims rfl rfl forward_longest hsign
  · simpa using hopen

end TokenGate.Gate
