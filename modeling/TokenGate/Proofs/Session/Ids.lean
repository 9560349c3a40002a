/-
The ids of a session.

All builders and gates of a session draw their ids from one supply: the numbers from the first free
one on.  `ids_fresh` is the main result, for sessions of any length, with steps in any order.

* A number is taken by a step that builds a token, by a builder of its own or by a gate that renews
  one, if the policy asks for an id and the checks before the signature are passed
  (`Session.TakesId`), and by no other step.  It is lost if the token cannot be signed.
* No two tokens get the same id.
* A token that is renewed gets an id exactly if it had one, and none that was given before; so never
  the one that it had from the same session.

A step does what the builder does that it builds with (`builds_step`): what it gives is the first free
number, and what it leaves is that number or the next one (`newId?_step`, `nextId_step`).
`exists_numbers` is the run, by induction: the numbers of a session rise.

An id that an application writes itself, while its policy asks for none, is not drawn from the supply
and not counted here.
-/
import TokenGate.Proofs.Gate.Renewer
import TokenGate.Proofs.Token.Supply
import TokenGate.Session

namespace TokenGate

open Token

namespace Session

/-! ### What a step builds -/

/-- The token that an answer hands out. -/
def Answer.token? : Answer → Option String
  | .built token _ => some token
  | .processed o => renewedToken? o
  | _ => none

/-- The id that a token was given.  A builder whose policy asks for none gives none; what its claims
have under that name is the application's own. -/
def Answer.newId? : Answer → Option Datum
  | .built token b => if b.policy.tokenId then id? token else none
  | .processed o => (renewedToken? o).bind id?
  | _ => none

/-- The builder that a step builds a token with, if it comes to that. -/
def builder? (s : Session) : Step → Option Builder
  | .build name _ => s.builders.get? name
  | .process name p _ =>
    (s.gates.get? name).bind fun g => g.renewer? (p.request s.tokens) s.clock
  | _ => none

/-- The step builds a token and takes an id for it. -/
def TakesId (s : Session) (x : Step) : Prop := ∃ b, s.builder? x = some b ∧ b.TakesId s.clock

/-- A verified token is renewed: by a gate that finds it in a request, or by a builder that was made of
it and not edited. -/
inductive Renews (s : Session) : Step → Verified → Prop
  | gate {name : String} {p : Presentation} {stored : Option String} {g : Gate} {presented : String}
      {looks : List Lookup} {v : Verified} (hg : s.gates.get? name = some g)
      (hs : g.chain.search (p.request s.tokens) = (some (.text presented), looks))
      (hv : verify g.algorithm g.secret s.clock (.text presented) = .ok v) :
      Renews s (.process name p stored) v
  | builder {name stored : String} {b : Builder} {algorithm algorithm' : Algorithm}
      {secret secret' presented : Datum} {clock : Number} {v : Verified}
      (hb : s.builders.get? name = some b)
      (hv : verify algorithm secret clock presented = .ok v)
      (hr : Builder.ofVerified algorithm' v secret' = .ok b) :
      Renews s (.build name stored) v

variable {s : Session} {x : Step} {b : Builder} {v : Verified} {d : Datum} {token : String}

theorem renewedToken?_eq (o : Gate.Outcome Unit) : renewedToken? o = o.renewedToken? := by
  rw [renewedToken?, Gate.Outcome.renewedToken?]
  rcases o.decision with f | d
  · rfl
  · rfl

theorem afterOutcome_eq (s : Session) (stored : Option String) (o : Gate.Outcome Unit) :
    (s.afterOutcome stored o).nextId = o.nextId ∧
      (s.afterOutcome stored o).builders = s.builders := by
  unfold afterOutcome
  split
  · exact ⟨rfl, rfl⟩
  · exact ⟨rfl, rfl⟩

theorem buildToken_of_build {s : Session} {name token : String} {b : Builder}
    (hb : s.builders.get? name = some b) (h : (b.build s.clock s.nextId).outcome = .ok token)
    (stored : String) : s.buildToken name stored = (.built token b,
      { s with nextId := (b.build s.clock s.nextId).nextId, tokens := s.tokens.set stored token }) := by
  simp only [buildToken, hb, h]

/-- A step hands out a token and an id, and leaves the supply of ids, just as a builder does when it
builds, if there is one. -/
structure Builds (s : Session) (b? : Option Builder) (next : Answer × Session) : Prop where
  token : next.1.token? = b?.bind fun b => (b.build s.clock s.nextId).outcome.toOption
  free : next.2.nextId = b?.elim s.nextId fun b => (b.build s.clock s.nextId).nextId
  newId : next.1.newId? = b?.bind fun b =>
    if b.policy.tokenId then (b.build s.clock s.nextId).outcome.toOption.bind id? else none

theorem Builds.keepBuilder (s : Session) (name : String) (made : Except Failure Builder) :
    s.Builds none (s.keepBuilder name made) := by
  rcases made with f | b
  · exact ⟨rfl, rfl, rfl⟩
  · exact ⟨rfl, rfl, rfl⟩

theorem Builds.editBuilder (s : Session) (name : String) (edit : Builder.Edit) :
    s.Builds none (s.editBuilder name edit) := by
  rw [Session.editBuilder]
  split
  · exact ⟨rfl, rfl, rfl⟩
  · dsimp only
    split
    · exact ⟨rfl, rfl, rfl⟩
    · exact ⟨rfl, rfl, rfl⟩

theorem Builds.buildToken (s : Session) (name stored : String) :
    s.Builds (s.builders.get? name) (s.buildToken name stored) := by
  rw [Session.buildToken]
  rcases hb : s.builders.get? name with - | b
  · exact ⟨rfl, rfl, rfl⟩
  dsimp only
  rcases ht : (b.build s.clock s.nextId).outcome with f | token
  · refine ⟨?_, rfl, ?_⟩
    · rw [Option.bind_some, ht]
      rfl
    · rw [Option.bind_some, ht]
      exact (ite_self none).symm
  · refine ⟨?_, rfl, ?_⟩
    · rw [Option.bind_some, ht]
      rfl
    · rw [Option.bind_some, ht]
      rfl

theorem Builds.processRequest (s : Session) (name : String) (p : Presentation)
    (stored : Option String) :
    s.Builds (s.builder? (.process name p stored)) (s.processRequest name p stored) := by
  rw [Session.processRequest, builder?]
  rcases s.gates.get? name with - | g
  · exact ⟨rfl, rfl, rfl⟩
  dsimp only
  rw [Option.bind_some]
  obtain ⟨htoken, hfree⟩ :=
    Gate.process_renewer g (p.request s.tokens) s.clock s.nextId fun _ => ()
  refine ⟨?_, ?_, ?_⟩
  · rw [Answer.token?, renewedToken?_eq, htoken]
  · rw [(afterOutcome_eq s stored _).1, hfree]
  · rw [Answer.newId?, renewedToken?_eq, htoken]
    rcases hb : g.renewer? (p.request s.tokens) s.clock with - | b
    · rfl
    rw [Option.bind_some, Option.bind_some]
    split
    · rfl
    next hoff =>
    -- a token that is renewed without an id has none
    obtain ⟨-, -, v, -, -, hrebuilds⟩ := Gate.rebuilds_of_renewer? hb
    rcases ht : (b.build s.clock s.nextId).outcome with f | token
    · rfl
    · rw [toOption_ok, Option.bind_some, hrebuilds.id?_eq ht, ← hrebuilds.tokenId, if_neg hoff]

/-- **A step does what its builder does.** -/
theorem builds_step (s : Session) (x : Step) : s.Builds (s.builder? x) (s.step x) := by
  cases x with
  | clock now => exact ⟨rfl, rfl, rfl⟩
  | create | fromToken | fromVerified | restore => exact .keepBuilder s _ _
  | edit name edit => exact .editBuilder s name edit
  | build name stored => exact .buildToken s name stored
  | verify token secret algorithm =>
    rw [step]
    split
    · exact ⟨rfl, rfl, rfl⟩
    · exact ⟨rfl, rfl, rfl⟩
  | gate name fields algorithm sources =>
    rw [step]
    split
    · exact ⟨rfl, rfl, rfl⟩
    · exact ⟨rfl, rfl, rfl⟩
  | process name p stored => exact .processRequest s name p stored

/-! ### One step -/

/-- **The id that a step gives is that of the free number**, which the step has taken. -/
theorem newId?_step (h : (s.step x).1.newId? = some d) :
    d = .text (Token.id s.nextId) ∧ (s.step x).2.nextId = s.nextId + 1 := by
  have hbuilds := builds_step s x
  rw [hbuilds.newId] at h
  obtain ⟨b, hb, h⟩ := Option.bind_eq_some_iff.1 h
  split at h
  · next hid =>
    obtain ⟨token, ht, hd⟩ := Option.bind_eq_some_iff.1 h
    have hbuild := toOption_eq_some.1 ht
    rw [(id?_issue hbuild).1 hid] at hd
    rw [hbuilds.free, hb]
    exact ⟨(Option.some.inj hd).symm, Builder.nextId_of_build hbuild hid⟩
  · cases h

/-- A token that has taken a number has its id. -/
theorem newId?_of_takesId (h : s.TakesId x) (ht : (s.step x).1.token? = some token) :
    (s.step x).1.newId? = id? token ∧ id? token = some (.text (Token.id s.nextId)) := by
  obtain ⟨b, hb, htakes⟩ := h
  have hbuilds := builds_step s x
  rw [hbuilds.token, hb, Option.bind_some] at ht
  have hbuild := toOption_eq_some.1 ht
  rw [hbuilds.newId, hb, Option.bind_some, if_pos htakes.tokenId, ht, Option.bind_some]
  exact ⟨rfl, (id?_issue hbuild).1 htakes.tokenId⟩

theorem le_nextId_step (s : Session) (x : Step) : s.nextId ≤ (s.step x).2.nextId := by
  rw [(builds_step s x).free]
  rcases s.builder? x with - | b
  · exact le_rfl
  · exact b.le_nextId_build s.clock s.nextId

/-- The durations of all builders are whole seconds. -/
def Whole (s : Session) : Prop := ∀ e ∈ s.builders, e.2.Whole

theorem Whole.builder (hs : s.Whole) (hb : s.builder? x = some b) : b.Whole := by
  cases x with
  | build name stored => exact hs _ (Record.mem_of_get? hb)
  | process name p stored =>
    obtain ⟨g, -, hb⟩ := Option.bind_eq_some_iff.1 hb
    obtain ⟨-, -, _, _, v, identity, -, -, -, hb⟩ := Gate.renewer?_eq_some hb
    obtain ⟨claims, -, rfl⟩ := Gate.renewer_eq_ok hb
    exact ⟨v.schedule, rfl⟩
  | _ => cases hb

/-- **A step takes a number, or leaves the supply as it is.** -/
theorem nextId_step (hs : s.Whole) (x : Step) :
    (s.TakesId x → (s.step x).2.nextId = s.nextId + 1) ∧
      (¬s.TakesId x → (s.step x).2.nextId = s.nextId) := by
  rw [(builds_step s x).free]
  refine ⟨?_, fun hnot => ?_⟩
  · rintro ⟨b, hb, htakes⟩
    rw [hb]
    exact Builder.nextId_of_takesId (hs.builder hb) htakes
  · rcases hb : s.builder? x with - | b
    · rfl
    · exact Builder.nextId_of_not_takesId fun htakes => hnot ⟨b, hb, htakes⟩

/-- A renewed token has the id of the free number, or no id, as the token that was renewed. -/
theorem Renews.id?_eq (h : s.Renews x v) (ht : (s.step x).1.token? = some token) :
    id? token = if (v.given? Claim.tokenId).isSome then some (.text (Token.id s.nextId)) else none := by
  rw [(builds_step s x).token] at ht
  obtain ⟨b, hb, hbuild⟩ := Option.bind_eq_some_iff.1 ht
  rw [toOption_eq_some] at hbuild
  suffices hrebuilds : b.Rebuilds v from hrebuilds.id?_eq hbuild
  cases h with
  | @gate name p stored g presented looks v hg hs hv =>
    rw [builder?, hg, Option.bind_some] at hb
    -- what the renewer rebuilds is the token that was found
    obtain ⟨presented', looks', v', hs', hv', hrebuilds⟩ := Gate.rebuilds_of_renewer? hb
    cases hs.symm.trans hs'
    cases hv.symm.trans hv'
    exact hrebuilds
  | builder hname hv hr =>
    cases hname.symm.trans hb
    exact Builder.rebuilds_ofVerified hv hr

/-! ### Whole seconds -/

theorem Whole.keepBuilder (hs : s.Whole) {name : String} {made : Except Failure Builder}
    (hmade : ∀ b, made = .ok b → b.Whole) : (s.keepBuilder name made).2.Whole := by
  rcases made with f | b
  · exact hs
  · exact Record.forall_set hs (hmade b rfl)

theorem Whole.editBuilder (hs : s.Whole) (name : String) (edit : Builder.Edit) :
    (s.editBuilder name edit).2.Whole := by
  rw [Session.editBuilder]
  split
  · exact hs
  next b hb =>
  have hset : Whole { s with builders := s.builders.set name (b.edit edit).1 } :=
    Record.forall_set hs (Builder.whole_edit (hs _ (Record.mem_of_get? hb)) edit)
  dsimp only
  split
  · exact hset
  · exact hset

theorem Whole.of_builders {t : Session} (hs : s.Whole) (h : t.builders = s.builders) : t.Whole := by
  rw [Whole, h]
  exact hs

theorem Whole.buildToken (hs : s.Whole) (name stored : String) :
    (s.buildToken name stored).2.Whole := by
  rw [Session.buildToken]
  split
  · exact hs
  · dsimp only
    split
    · exact hs.of_builders rfl
    · exact hs.of_builders rfl

theorem Whole.processRequest (hs : s.Whole) (name : String) (p : Presentation)
    (stored : Option String) : (s.processRequest name p stored).2.Whole := by
  rw [Session.processRequest]
  split
  · exact hs
  · exact hs.of_builders (afterOutcome_eq s stored _).2

theorem Whole.step (hs : s.Whole) (x : Step) : (s.step x).2.Whole := by
  cases x with
  | clock now => exact hs.of_builders rfl
  | create => exact hs.keepBuilder fun b => Builder.whole_create
  | fromToken => exact hs.keepBuilder fun b => Builder.whole_ofToken
  | fromVerified =>
    refine hs.keepBuilder fun b hb => ?_
    obtain ⟨_, -, hb⟩ := bind_eq_ok.1 hb
    obtain ⟨_, -, hb⟩ := bind_eq_ok.1 hb
    obtain ⟨_, -, hb⟩ := bind_eq_ok.1 hb
    exact Builder.whole_ofVerified hb
  | restore =>
    refine hs.keepBuilder fun b hb => ?_
    obtain ⟨_, -, hb⟩ := bind_eq_ok.1 hb
    exact Builder.whole_ofVerified hb
  | edit name edit => exact hs.editBuilder name edit
  | build name stored => exact hs.buildToken name stored
  | verify =>
    rw [Session.step]
    split
    · exact hs
    · exact hs
  | gate =>
    rw [Session.step]
    split
    · exact hs.of_builders rfl
    · exact hs
  | process name p stored => exact hs.processRequest name p stored

theorem Whole.run (hs : s.Whole) (steps : List Step) : (s.run steps).2.Whole := by
  induction steps generalizing s with
  | nil => exact hs
  | cons x rest ih => exact ih (hs.step x)

/-! ### Any number of steps -/

/-- The ids that the answers to steps give. -/
def newIds (s : Session) (steps : List Step) : List Datum :=
  (s.run steps).1.filterMap Answer.newId?

theorem run_cons (s : Session) (x : Step) (rest : List Step) : s.run (x :: rest) =
    ((s.step x).1 :: ((s.step x).2.run rest).1, ((s.step x).2.run rest).2) := rfl

theorem newIds_cons (s : Session) (x : Step) (rest : List Step) :
    s.newIds (x :: rest) = (s.step x).1.newId?.toList ++ (s.step x).2.newIds rest := by
  rw [newIds, run_cons]
  rcases hd : (s.step x).1.newId? with - | d
  · exact List.filterMap_cons_none hd
  · exact List.filterMap_cons_some hd

theorem run_append (s : Session) (xs ys : List Step) :
    (s.run (xs ++ ys)).2 = ((s.run xs).2.run ys).2 ∧
      s.newIds (xs ++ ys) = s.newIds xs ++ (s.run xs).2.newIds ys := by
  induction xs generalizing s with
  | nil => exact ⟨rfl, rfl⟩
  | cons x xs ih =>
    obtain ⟨hrun, hids⟩ := ih (s.step x).2
    refine ⟨hrun, ?_⟩
    rw [List.cons_append, newIds_cons, newIds_cons, hids, run_cons, List.append_assoc]

/-- **The numbers of the ids rise**, from the first free one to the one that is free in the end. -/
theorem exists_numbers (s : Session) (steps : List Step) :
    s.nextId ≤ (s.run steps).2.nextId ∧ ∃ numbers : List Nat,
      s.newIds steps = numbers.map (fun n => .text (Token.id n)) ∧ numbers.Pairwise (· < ·) ∧
      ∀ n ∈ numbers, s.nextId ≤ n ∧ n < (s.run steps).2.nextId := by
  -- a step may take a number and give no id, so the rest starts from its own first free number
  induction steps generalizing s with
  | nil => exact ⟨le_rfl, [], rfl, .nil, fun n hn => nomatch hn⟩
  | cons x rest ih =>
    obtain ⟨hle, numbers, hids, hrise, hbounds⟩ := ih (s.step x).2
    have hstep := le_nextId_step s x
    have hrun : (s.run (x :: rest)).2 = ((s.step x).2.run rest).2 := rfl
    rw [hrun]
    rw [newIds_cons, hids]
    refine ⟨le_trans hstep hle, ?_⟩
    rcases hd : (s.step x).1.newId? with - | d
    · exact ⟨numbers, rfl, hrise, fun n hn => ⟨le_trans hstep (hbounds n hn).1, (hbounds n hn).2⟩⟩
    · -- the number of this step is free before it, and all others are free after it
      obtain ⟨rfl, hnext⟩ := newId?_step hd
      refine ⟨s.nextId :: numbers, rfl, List.pairwise_cons.2 ⟨fun n hn => ?_, hrise⟩,
        List.forall_mem_cons.2 ⟨⟨le_rfl, by omega⟩, fun n hn => ?_⟩⟩
      · have hn' := (hbounds n hn).1
        omega
      · exact ⟨le_trans hstep (hbounds n hn).1, (hbounds n hn).2⟩

/-- **The ids of a session are fresh.**  After any steps of a new session, the ids that were given are
distinct; the next step takes one number if it comes to build a token with an id, which is then the id
of that token, and otherwise none; and a token that it renews has an id exactly if the one that was
presented had one, and then an id that was not given before. -/
theorem ids_fresh (clock : Number) (first : Nat) (steps : List Step) (x : Step) :
    let start : Session := { clock, nextId := first }
    let s := (start.run steps).2
    (start.newIds steps).Nodup ∧
      (s.TakesId x → (s.step x).2.nextId = s.nextId + 1 ∧
        ∀ token, (s.step x).1.token? = some token →
          (s.step x).1.newId? = id? token ∧ id? token = some (.text (Token.id s.nextId))) ∧
      (¬s.TakesId x → (s.step x).2.nextId = s.nextId) ∧
      ∀ v token, s.Renews x v → (s.step x).1.token? = some token →
        (id? token).isSome = (v.given? Claim.tokenId).isSome ∧
        ∀ d, id? token = some d → d ∉ start.newIds steps := by
  intro start s
  have hwhole : s.Whole := Whole.run (fun e he => absurd he List.not_mem_nil) steps
  obtain ⟨-, numbers, hids, hrise, hbounds⟩ := exists_numbers start steps
  have hinjective : Function.Injective fun n => Datum.text (Token.id n) := fun n m h =>
    id_injective (Datum.text.inj h)
  obtain ⟨htakes, hnot⟩ := nextId_step hwhole x
  refine ⟨?_, fun h => ⟨htakes h, fun token ht => newId?_of_takesId h ht⟩, hnot,
    fun v token hrenews ht => ?_⟩
  · rw [hids]
    exact (hrise.imp fun hlt => Nat.ne_of_lt hlt).map _ fun n m hne heq => hne (hinjective heq)
  · rw [hrenews.id?_eq ht]
    refine ⟨?_, fun d hd hm => ?_⟩
    · rcases (v.given? Claim.tokenId).isSome with - | -
      · rfl
      · rfl
    · split at hd
      · cases hd
        rw [hids] at hm
        obtain ⟨n, hn, heq⟩ := List.mem_map.1 hm
        have hlt := (hbounds n hn).2
        rw [hinjective heq] at hlt
        exact lt_irrefl _ hlt
      · cases hd

/-! ### A session of the guest -/

/-- Ten seconds, with an id. -/
def numbered : Schedule := ⟨true, some 10, none, true⟩

/-- The builder of the guest's tokens with an id. -/
def numberedBuilder : Builder := ⟨.hs256, .text "k", guestClaims, numbered.policy⟩

/-- A builder for the guest is made. -/
def guestEdits : List Step := [
  .create "first" (.text "k") (.text "HS256"),
  .edit "first" (.userId (.text "guest")),
  .edit "first" (.roles (.text "reader")),
  .edit "first" (.expiry (.int 10)),
  .edit "first" (.tokenId (.bool true))]

/-- It builds a token, and another builder is made of the token. -/
def guestSteps : List Step := guestEdits ++ [
  .build "first" "token",
  .fromToken "second" (.stored "" "token") (.text "k") (.text "HS256")]

theorem forward_numbered : numbered.Forward := forward_tenSeconds

/-- At second zero a token with any id is built, and accepted. -/
theorem exists_numberedToken (n : Nat) : ∃ token v,
    (numberedBuilder.build (.int 0) n).outcome = .ok token ∧
      verify .hs256 (.text "k") (.int 0) (.text token) = .ok v := by
  have hprintable : numbered.Printable 0 := by
    refine ⟨fun _ => Datum.unprintable_of_lt (by decide), ?_, ?_⟩
    · rintro m ⟨⟩
      exact Datum.unprintable_of_lt (by decide)
    · rintro m ⟨⟩
  obtain ⟨token, hsign⟩ :=
    (Gate.renewable_guestClaims rfl forward_numbered).sign_of_printable (Token.id n) hprintable
  have hstarted : numbered.Started 0 ((0 : Int) : ℚ) := forward_numbered.started le_rfl
  have hended : ¬numbered.Ended 0 ((0 : Int) : ℚ) := by
    rintro ⟨m, ⟨⟩, hle⟩
    exact absurd (by exact_mod_cast hle : (0 : Int) + 10 ≤ 0) (by decide)
  exact ⟨token, _, issue_of_sign rfl unreserved_guestClaims rfl rfl forward_numbered hsign,
    verify_open unreserved_guestClaims rfl floatFree_guestClaims subjectFits_guestClaims hsign
      hstarted hended⟩

theorem restorable_numberedBuilder : numberedBuilder.Restorable :=
  { Builder.restorable_guestBuilder with }

/-- The guest's session before the first token is built. -/
def guestSession : Session := ⟨.int 0, 1, [("first", numberedBuilder)], [], []⟩

/-- The guest's session after the second builder is made. -/
def guestSession' (old : String) : Session :=
  ⟨.int 0, 2, [("first", numberedBuilder), ("second", numberedBuilder)], [("token", old)], []⟩

/-- The guest's session after the first token, and after the second builder. -/
theorem run_guestSteps {old : String} (hold : (numberedBuilder.build (.int 0) 1).outcome = .ok old)
    (hof : Builder.ofToken (.text old) (.text "k") (.text "HS256") (.int 0) = .ok numberedBuilder) :
    let start : Session := { clock := .int 0, nextId := 1 }
    (start.run guestSteps).2 = guestSession' old ∧
      start.newIds guestSteps = [.text (Token.id 1)] := by
  intro start
  have hbuild : guestSession.step (.build "first" "token") = (.built old numberedBuilder,
      ⟨.int 0, 2, [("first", numberedBuilder)], [("token", old)], []⟩) := by
    have hget : guestSession.builders.get? "first" = some numberedBuilder := rfl
    rw [step, buildToken_of_build hget hold]
    simp only [guestSession, Builder.nextId_of_build hold rfl]
    rfl
  have hfrom : (Session.mk (.int 0) 2 [("first", numberedBuilder)] [("token", old)] []).step
      (.fromToken "second" (.stored "" "token") (.text "k") (.text "HS256")) =
      (.builder numberedBuilder, guestSession' old) := by
    have hvalue : (TokenText.stored "" "token").value [("token", old)] = .text old := by
      show RawText.text ("" ++ old) = .text old
      rw [String.empty_append]
    rw [step, hvalue, hof]
    rfl
  obtain ⟨hrun, hids⟩ := run_append start guestEdits [.build "first" "token",
    .fromToken "second" (.stored "" "token") (.text "k") (.text "HS256")]
  have hmade : (start.run guestEdits).2 = guestSession := rfl
  have hnone : start.newIds guestEdits = [] := rfl
  have hid : (Answer.built old numberedBuilder).newId? = some (.text (Token.id 1)) :=
    (id?_issue hold).1 rfl
  rw [guestSteps, hrun, hids, hmade, hnone, run_cons, run_cons, newIds_cons, newIds_cons, hbuild,
    hfrom, hid]
  exact ⟨rfl, rfl⟩

/-- The second builder renews the first token, and its token has the second id. -/
theorem ids_fresh_guest :
    let start : Session := { clock := .int 0, nextId := 1 }
    let s := (start.run guestSteps).2
    ∃ v token, s.Renews (.build "second" "again") v ∧
      (s.step (.build "second" "again")).1.token? = some token ∧
      id? token = some (.text (Token.id 2)) ∧ start.newIds guestSteps = [.text (Token.id 1)] ∧
      .text (Token.id 2) ∉ start.newIds guestSteps := by
  obtain ⟨old, v, hold, hv⟩ := exists_numberedToken 1
  obtain ⟨new, -, hnew, -⟩ := exists_numberedToken 2
  have hof := Builder.ofToken_build restorable_numberedBuilder hold hv
  obtain ⟨hrun, hids⟩ := run_guestSteps hold hof
  have hfresh := ids_fresh (.int 0) 1 guestSteps (.build "second" "again")
  dsimp only at hrun hids hfresh ⊢
  rw [hrun] at hfresh ⊢
  obtain ⟨-, htaken, -, hfresh⟩ := hfresh
  have hget : (guestSession' old).builders.get? "second" = some numberedBuilder := rfl
  have htoken : ((guestSession' old).step (.build "second" "again")).1.token? = some new := by
    rw [step, buildToken_of_build hget hnew]
    rfl
  have hrenews : (guestSession' old).Renews (.build "second" "again") v := by
    rw [Builder.ofToken, Algorithm.check_name, ok_bind] at hof
    obtain ⟨w, hw, hof⟩ := bind_eq_ok.1 hof
    cases hv.symm.trans hw
    exact .builder hget hv hof
  have htakes : (guestSession' old).TakesId (.build "second" "again") :=
    ⟨numberedBuilder, hget, rfl, rfl, rfl, validate_schedule.2 forward_numbered, 0, rfl⟩
  obtain ⟨-, hid⟩ := (htaken htakes).2 new htoken
  exact ⟨v, new, hrenews, htoken, hid, hids, (hfresh v new hrenews htoken).2 _ hid⟩

end Session

end TokenGate
