/-
Two ways to guard a view.

A view can guard itself (`App.guardViews`), and a predicate on paths can guard it before it is looked
for (`App.guardPaths`).  The gate is asked at different moments then, and with another next stage.
`guarding_agrees` says that it makes no difference: both give the same reply, and it is the one that
the gate's decision calls for (`Obeys`).  A path that the predicate lets go is served as if there
were no gate, whatever token comes with the request.

* `Gate.process_alike` is why the next stage does not matter to the decision: the gate never looks at
  its answer (`Gate.process_map`).  One of the two next stages is the view, and the other does nothing.
* `App.run_of_passed` and `App.run_of_rejected` read off what an application is told, from the two
  shapes of a settled decision: the calls of the gate say how often the next stage ran, what was
  attached, which header is to be written and what an unauthorized client is told.
* `App.obeys_of_run` puts the two together, for any reply that is made of what the application is told.
  `App.obeys_require` and `App.obeys_protect` are its two cases, and a decision calls for one reply only
  (`App.Obeys.unique`).
* `Destination.map` follows a message to the same view, whether this guards itself or not.
-/
import TokenGate.Proofs.Config
import TokenGate.Proofs.Gate.Delivery
import TokenGate.Web.Showcase

namespace TokenGate

/-! ### The next stage -/

namespace Gate

variable {α β : Type} {g : Gate} {request : Request} {clock : Number} {nextId : Nat}
  {next : Option Identity → α} {o : Outcome α}

/-- The decision with another answer of the next stage. -/
def Decision.map (f : α → β) (d : Decision α) : Decision β :=
  ⟨d.state, d.identity, d.renewedToken, d.refusal, d.result.map f⟩

/-- The outcome with another answer of the next stage. -/
def Outcome.map (f : α → β) (o : Outcome α) : Outcome β :=
  ⟨o.decision.map (Decision.map f), o.calls, o.events, o.nextId⟩

theorem Passage.map {v : Verified} {identity : Identity} {looks : List Call} (f : α → β)
    (h : Passage g next v identity clock looks nextId o) :
    Passage g (f ∘ next) v identity clock looks nextId (o.map f) := by
  cases h with
  | unchanged hr => exact .unchanged hr
  | renewed hr ht => exact .renewed hr ht
  | kept hr ht hf => exact .kept hr ht hf
  | broken hr ht hf => exact .broken hr ht hf

theorem Way.map (f : α → β) (h : Way g request clock nextId next o) :
    Way g request clock nextId (f ∘ next) (o.map f) := by
  cases h with
  | free hc => exact .free hc
  | missing hc hs => exact .missing hc hs
  | failed hc hs hv => exact .failed hc hs hv
  | defective hc hs hv => exact .defective hc hs hv
  | nameless hc hs hv hi => exact .nameless hc hs hv hi
  | unmapped hc hs hv hi hf => exact .unmapped hc hs hv hi hf
  | granted hc hs hv hi hp => exact .granted hc hs hv hi (hp.map f)

/-- **A gate never looks at the answer of the next stage.** -/
theorem process_map (g : Gate) (request : Request) (clock : Number) (nextId : Nat)
    (next : Option Identity → α) (f : α → β) :
    g.process request clock nextId (f ∘ next) = (g.process request clock nextId next).map f :=
  ((process_way g request clock nextId next).map f).process_eq

/-- Two decisions that differ in the answer of the next stage at most. -/
structure Decision.Alike (d : Decision α) (d' : Decision β) : Prop where
  state : d'.state = d.state
  identity : d'.identity = d.identity
  renewedToken : d'.renewedToken = d.renewedToken
  message : d'.message = d.message

/-- Two outcomes that differ in the answer of the next stage at most. -/
structure Outcome.Alike (o : Outcome α) (o' : Outcome β) : Prop where
  decision : ∀ d, o.decision = .ok d → ∃ d', o'.decision = .ok d' ∧ d.Alike d'
  failed : ∀ f, o.decision = .error f → o'.decision = .error f
  nextId : o'.nextId = o.nextId

/-- **A gate decides the same, whatever the next stage is.** -/
theorem process_alike (g : Gate) (request : Request) (clock : Number) (nextId : Nat)
    (next : Option Identity → α) (next' : Option Identity → β) :
    (g.process request clock nextId next).Alike (g.process request clock nextId next') := by
  have hunit : (g.process request clock nextId next).map (fun _ => ()) =
      (g.process request clock nextId next').map fun _ => () := by
    rw [← process_map, ← process_map]
    rfl
  have hdecision := congrArg Outcome.decision hunit
  have hnextId := congrArg Outcome.nextId hunit
  refine ⟨fun d hd => ?_, fun f hf => ?_, hnextId.symm⟩
  · simp only [Outcome.map, hd] at hdecision
    obtain ⟨d', hd', hmap⟩ := map_eq_ok.1 hdecision.symm
    exact ⟨d', hd', congrArg Decision.state hmap, congrArg Decision.identity hmap,
      congrArg Decision.renewedToken hmap, congrArg Decision.message hmap⟩
  · simp only [Outcome.map, hf] at hdecision
    rcases hd' : (g.process request clock nextId next').decision with f' | d'
    · rw [hd'] at hdecision
      cases hdecision
      rfl
    · rw [hd'] at hdecision
      cases hdecision

/-- A gate sends tokens back in the header of its configuration. -/
theorem headerName_of_ofConfig {config : Config} {algorithm : Option Datum}
    {sources : Option (List Source.Description)}
    (h : ofConfig config algorithm sources = .ok g) : g.headerName = config.headerName := by
  obtain ⟨checked, hchecked, h⟩ := bind_eq_ok.1 h
  obtain ⟨found, -, h⟩ := bind_eq_ok.1 h
  obtain ⟨chain, -, h⟩ := bind_eq_ok.1 h
  cases h
  obtain ⟨rfl, -⟩ := Config.check_eq_ok.1 hchecked
  rfl

/-- The headers that were set for a request that passed: one for a renewed token. -/
theorem headers_of_passed {d : Decision α} {looks : List Lookup} {calls : List Call}
    {renewed : Option String} (h : Passed g next d (looks.map .look) calls renewed) :
    calls.filterMap Call.header? = d.renewedToken.toList.map fun token => (g.headerName, token) := by
  obtain ⟨identity, hd, rfl⟩ := h
  have hlooks : (looks.map Call.look).filterMap Call.header? = [] := by
    rw [List.filterMap_map]
    exact List.filterMap_eq_nil_iff.2 fun _ _ => rfl
  rw [hd, List.filterMap_append, List.filterMap_append, List.filterMap_append, hlooks]
  cases renewed with
  | none => rfl
  | some token => rfl

theorem countP_looks (looks : List Lookup) :
    (looks.map Call.look).countP Call.isNext = 0 := by
  rw [List.countP_map]
  exact List.countP_eq_zero.2 fun _ _ => Bool.false_ne_true

/-- The next stage of a request that passes runs once. -/
theorem countP_of_passed {d : Decision α} {looks : List Lookup} {calls : List Call}
    {renewed : Option String} (h : Passed g next d (looks.map .look) calls renewed) :
    calls.countP Call.isNext = 1 := by
  obtain ⟨identity, -, rfl⟩ := h
  rw [List.countP_append, List.countP_append, List.countP_append, countP_looks]
  cases renewed with
  | none => rfl
  | some token => rfl

section Rejected

variable {d : Decision α} {looks : List Lookup} {calls : List Call} {r : Refusal}
  (h : Rejected d (looks.map .look) calls r)

include h

/-- The next stage of a request that is rejected does not run. -/
theorem countP_of_rejected : calls.countP Call.isNext = 0 := by
  obtain ⟨-, message, -, rfl⟩ := h
  rw [List.countP_append, countP_looks]
  rfl

theorem headers_of_rejected : calls.filterMap Call.header? = [] := by
  obtain ⟨-, message, -, rfl⟩ := h
  rw [List.filterMap_append, List.filterMap_map]
  exact List.append_eq_nil_iff.2 ⟨List.filterMap_eq_nil_iff.2 fun _ _ => rfl, rfl⟩

theorem attached?_of_rejected {o : Outcome α} (ho : o.calls = calls) : o.attached? = none := by
  obtain ⟨-, message, -, rfl⟩ := h
  rw [Outcome.attached?, ho, List.findSome?_eq_none_iff]
  intro call hcall
  rw [List.mem_reverse, List.mem_append, List.mem_map, List.mem_singleton] at hcall
  obtain ⟨lookup, -, rfl⟩ | rfl := hcall
  · rfl
  · rfl

end Rejected

theorem Passage.countP_of_failed {v : Verified} {identity : Identity} {looks : List Lookup}
    {f : Failure} (h : Passage g next v identity clock (looks.map .look) nextId o)
    (hf : o.decision = .error f) : o.calls.countP Call.isNext = 0 := by
  cases h with
  | broken =>
    show (looks.map Call.look ++ [Call.attach identity marker]).countP Call.isNext = 0
    rw [List.countP_append, countP_looks]
    rfl
  | _ => cases hf

/-- A request that fails has not run the next stage. -/
theorem Way.countP_of_failed {f : Failure} (h : Way g request clock nextId next o)
    (hf : o.decision = .error f) : o.calls.countP Call.isNext = 0 := by
  cases h with
  | failed => exact countP_looks _
  | unmapped => exact countP_looks _
  | granted hc hs hv hi hp => exact hp.countP_of_failed hf
  | _ => cases hf

/-- A guarded request passes in one of two ways. -/
theorem Settled.passed {d : Decision α} {calls : List Call} (h : Settled g request next d calls)
    (hc : request.constrained = true) (hp : d.state.passes = true) :
    ∃ renewed, Passed g next d ((g.chain.search request).2.map .look) calls renewed := by
  rcases hs : d.state with - | - | - | - | - <;> simp only [Settled, hs] at h
  · cases hc.symm.trans h.1
  · exact ⟨none, h.2⟩
  · obtain ⟨-, token, h⟩ := h
    exact ⟨some token, h⟩
  · cases hs ▸ hp
  · cases hs ▸ hp

/-- A request that does not pass is rejected, and the client is unauthorized. -/
theorem Settled.rejected {d : Decision α} {calls : List Call} (h : Settled g request next d calls)
    (hp : d.state.passes = false) :
    ∃ r, Rejected d ((g.chain.search request).2.map .look) calls r := by
  rcases hs : d.state with - | - | - | - | - <;> simp only [Settled, hs] at h
  · cases hs ▸ hp
  · cases hs ▸ hp
  · cases hs ▸ hp
  · obtain ⟨-, r, h, -⟩ := h
    exact ⟨r, h⟩
  · obtain ⟨-, r, h, -⟩ := h
    exact ⟨r, h⟩

end Gate

namespace Web

/-! ### Headers of a response -/

namespace Response

theorem header?_setHeader (r : Response) (name value : String) :
    (r.setHeader name value).header? name = some value := by
  have hothers : (r.headers.filter fun h => Text.lower h.1 != Text.lower name).find?
      (fun h => Text.lower h.1 == Text.lower name) = none := by
    rw [List.find?_filter, List.find?_eq_none]
    intro h _
    simp
  rw [header?, firstValue?, setHeader, List.map_append, List.find?_append, List.find?_map]
  simp only [Function.comp_def, hothers]
  simp

theorem header?_setHeader_of_ne (r : Response) (value : String) {name other : String}
    (h : Text.lower other ≠ Text.lower name) :
    (r.setHeader name value).header? other = r.header? other := by
  have hnew : (Text.lower name == Text.lower other) = false := by simpa using h.symm
  have hsame : ∀ e : String × String, decide ((Text.lower e.1 != Text.lower name) = true ∧
      (Text.lower e.1 == Text.lower other) = true) = (Text.lower e.1 == Text.lower other) := by
    intro e
    by_cases he : Text.lower e.1 = Text.lower other
    · simp [he, h]
    · simp [he]
  rw [header?, header?, firstValue?, firstValue?, setHeader, List.map_append, List.find?_append,
    List.map_singleton, List.find?_singleton, hnew, if_neg Bool.false_ne_true, Option.or_none,
    List.find?_map, List.find?_map, List.find?_filter]
  simp only [Function.comp_def, hsame]

/-- The response is another one with a header written. -/
structure Writes (name value : String) (before after : Response) : Prop where
  status : after.status = before.status
  body : after.body = before.body
  header : after.header? name = some value
  others : ∀ other, Text.lower other ≠ Text.lower name → after.header? other = before.header? other

end Response

namespace App

theorem header?_trimBody (m : Message) (r : Response) (name : String) :
    (trimBody m r).header? name = r.header? name := by
  rw [trimBody]
  split <;> rfl

theorem writes_trimBody (m : Message) (r : Response) (name value : String) :
    Response.Writes name value (trimBody m r) (trimBody m (r.setHeader name value)) := by
  refine ⟨?_, ?_, ?_, fun other h => ?_⟩
  · rw [trimBody, trimBody]
    split <;> rfl
  · rw [trimBody, trimBody]
    split <;> rfl
  · rw [header?_trimBody, r.header?_setHeader]
  · rw [header?_trimBody, header?_trimBody, r.header?_setHeader_of_ne value h]

end App

/-! ### Guarding -/

/-- The same destination with another route. -/
def Destination.map (f : Route → Route) : Destination → Destination
  | .route r => .route (f r)
  | d => d

/-- What a route is for does not depend on what its view is and whether it is guarded. -/
theorem destination_map {f : Route → Route} (hpath : ∀ r, (f r).path = r.path)
    (hmethods : ∀ r, (f r).methods = r.methods) (routes : List Route) (path method : String) :
    destination (routes.map f) path method = (destination routes path method).map f := by
  have hallows : ∀ r, (f r).allows method = r.allows method := fun r => by
    rw [Route.allows, Route.allows, hmethods]
  simp only [destination, List.find?_map, List.any_map, Function.comp_def, hpath, hallows]
  cases routes.find? fun r => r.path == path && r.allows method with
  | none =>
    dsimp only [Option.map_none]
    split_ifs <;> rfl
  | some route => rfl

theorem path_of_destination {routes : List Route} {route : Route} {path method : String}
    (h : destination routes path method = .route route) : route.path = path := by
  rw [destination] at h
  split at h
  · next found hfound =>
    cases h
    have := List.find?_some hfound
    rw [Bool.and_eq_true, beq_iff_eq] at this
    exact this.1
  · split_ifs at h

namespace App

/-- The application with the views at some paths guarding themselves. -/
def guardViews (app : App) (views : String → Bool) : App :=
  { app with routes := app.routes.map fun r => { r with guarded := views r.path } }

/-- The application with a predicate that guards paths. -/
def guardPaths (app : App) (guarded : String → Bool) : App := { app with guardedPath := some guarded }

/-- A reply with the body of its response trimmed. -/
def trimReply (m : Message) (reply : Reply) : Reply :=
  { reply with outcome := reply.outcome.map (trimBody m) }

variable {α β : Type} {app : App} {g : Gate} {route : Route} {m : Message} {clock : Number}
  {nextId : Nat} {next : Option Identity → α} {views guarded : String → Bool}

/-! ### Asking the gate -/

section Asked

variable (hgate : app.gate = some g)

include hgate

/-- A request that fails is told so, and the next stage has not run. -/
theorem run_of_error {f : Failure}
    (hf : (g.process (m.request true) clock nextId next).decision = .error f) :
    ∃ attached headers, app.run true m clock nextId next =
      ⟨.error f, attached, headers, 0, (g.process (m.request true) clock nextId next).nextId⟩ := by
  rw [run, hgate]
  dsimp only
  rw [hf, (Gate.process_way g _ clock nextId next).countP_of_failed hf]
  exact ⟨_, _, rfl⟩

/-- A request that passes is told its decision, which holds the answer of the next stage, its identity,
and the header for a renewed token.  The next stage has run once. -/
theorem run_of_passed {d : Gate.Decision α}
    (hd : (g.process (m.request true) clock nextId next).decision = .ok d)
    (hp : d.state.passes = true) : ∃ identity, d.identity = some identity ∧
      d.result = some (next (some identity)) ∧
      app.run true m clock nextId next =
        ⟨.ok (.passes d), some (identity, "TOKEN"),
          d.renewedToken.toList.map fun token => (g.headerName, token), 1,
          (g.process (m.request true) clock nextId next).nextId⟩ := by
  obtain ⟨renewed, h⟩ := (Gate.settled_of_process g _ clock nextId next hd).passed rfl hp
  obtain ⟨identity, hfields, -⟩ := id h
  have hi : d.identity = some identity := by rw [hfields]
  refine ⟨identity, hi, by rw [hfields], ?_⟩
  rw [run, hgate]
  dsimp only
  rw [hd, Gate.attached?_of_passed h hi, Gate.countP_of_passed h]
  dsimp only [Except.map, Sink.ofCalls]
  rw [verdict, if_pos hp, Gate.headers_of_passed h]

/-- A request that is rejected is broken off as unauthorized, with the message of the decision, and the
next stage has not run. -/
theorem run_of_rejected {d : Gate.Decision α}
    (hd : (g.process (m.request true) clock nextId next).decision = .ok d)
    (hp : d.state.passes = false) : ∃ message, d.message = some message ∧
      app.run true m clock nextId next =
        ⟨.ok (.broken (.document 401 (app.rejection message))), none, [], 0,
          (g.process (m.request true) clock nextId next).nextId⟩ := by
  obtain ⟨r, h⟩ := (Gate.settled_of_process g _ clock nextId next hd).rejected hp
  obtain ⟨-, message, hm, hcalls⟩ := id h
  refine ⟨message, hm, ?_⟩
  have hsink : Sink.ofCalls (g.process (m.request true) clock nextId next).calls =
      ⟨[], some (401, message)⟩ := by
    rw [Sink.ofCalls, Gate.headers_of_rejected h, hcalls]
    simp [List.findSome?_cons, Gate.Call.unauthorized?]
  rw [run, hgate]
  dsimp only
  rw [hd, hsink, Gate.attached?_of_rejected h rfl, Gate.countP_of_rejected h]
  dsimp only [Except.map]
  rw [verdict, if_neg (hp ▸ Bool.false_ne_true)]
  rfl

/-- A path that is not guarded passes at once. -/
theorem run_free (m : Message) (clock : Number) (nextId : Nat) (next : Option Identity → α) :
    app.run false m clock nextId next =
      ⟨.ok (.passes { state := .noConstraint, result := some (next none) }), none, [], 1, nextId⟩ := by
  rw [run, hgate]
  rfl

end Asked

/-! ### The reply -/

/-- The reply is what the gate's decision calls for.  If the request passes, the view runs once, with
the identity of the decision, and a renewed token goes into the header of what it answers.  If not, no
view runs, and the response says what the decision does. -/
structure Obeys (app : App) (headerName : Datum) (route : Route) (m : Message) (clock : Number)
    (o : Gate.Outcome α) (reply : Reply) : Prop where
  renewed_iff : ∀ d, o.decision = .ok d → (d.renewedToken.isSome ↔ d.state = .renewed)
  passed : ∀ d, o.decision = .ok d → d.state.passes = true → ∃ identity,
    d.identity = some identity ∧
      let served := route.view ⟨m, some (identity, "TOKEN"), clock, o.nextId⟩
      reply.views = [route.path] ∧ reply.nextId = served.nextId ∧
        (d.renewedToken = none → reply.outcome = served.outcome.map (trimBody m)) ∧
        ∀ token, d.renewedToken = some token →
          reply.outcome = (served.outcome.bind (setHeader · headerName token)).map (trimBody m) ∧
            ∀ name before, headerName = .text name → served.outcome = .ok before → ∃ after,
              reply.outcome = .ok after ∧ Response.Writes name token (trimBody m before) after
  rejected : ∀ d, o.decision = .ok d → d.state.passes = false → ∃ message,
    d.message = some message ∧
      reply = ⟨.ok (trimBody m (.document 401 (app.rejection message))), [], o.nextId⟩
  failed : ∀ f, o.decision = .error f → reply = ⟨.error f, [], o.nextId⟩

/-- **A decision calls for one reply only.** -/
theorem Obeys.unique {headerName : Datum} {o : Gate.Outcome α} {reply reply' : Reply}
    (h : Obeys app headerName route m clock o reply)
    (h' : Obeys app headerName route m clock o reply') : reply = reply' := by
  rcases hd : o.decision with f | d
  · rw [h.failed f hd, h'.failed f hd]
  rcases hp : d.state.passes with - | -
  · obtain ⟨message, hm, hreply⟩ := h.rejected d hd hp
    obtain ⟨message', hm', hreply'⟩ := h'.rejected d hd hp
    cases hm.symm.trans hm'
    rw [hreply, hreply']
  · obtain ⟨identity, hi, hviews, hnext, hplain, hrenewed⟩ := h.passed d hd hp
    obtain ⟨identity', hi', hviews', hnext', hplain', hrenewed'⟩ := h'.passed d hd hp
    cases hi.symm.trans hi'
    have houtcome : reply.outcome = reply'.outcome := by
      rcases ht : d.renewedToken with - | token
      · rw [hplain ht, hplain' ht]
      · rw [(hrenewed token ht).1, (hrenewed' token ht).1]
    obtain ⟨outcome, views, free⟩ := reply
    obtain ⟨outcome', views', free'⟩ := reply'
    cases houtcome
    cases hviews.trans hviews'.symm
    cases hnext.trans hnext'.symm
    rfl

/-- A reply obeys if it is the view's, with the headers of the decision, or a response that breaks the
request off, or the gate's failure. -/
theorem obeys_of {reply : Reply}
    (hpassed : ∀ d identity, (g.process (m.request true) clock nextId next).decision = .ok d →
      d.state.passes = true → d.identity = some identity →
      reply = setHeaders (d.renewedToken.toList.map fun token => (g.headerName, token))
        (visit route ⟨m, some (identity, "TOKEN"), clock,
          (g.process (m.request true) clock nextId next).nextId⟩))
    (hrejected : ∀ d message, (g.process (m.request true) clock nextId next).decision = .ok d →
      d.state.passes = false → d.message = some message →
      reply = plain (.document 401 (app.rejection message))
        (g.process (m.request true) clock nextId next).nextId)
    (hfailed : ∀ f, (g.process (m.request true) clock nextId next).decision = .error f →
      reply = ⟨.error f, [], (g.process (m.request true) clock nextId next).nextId⟩) :
    Obeys app g.headerName route m clock (g.process (m.request true) clock nextId next)
      (trimReply m reply) where
  renewed_iff d hd := (Gate.settled_of_process g _ clock nextId next hd).complete.renewedToken_iff
  passed d hd hp := by
    obtain ⟨renewed, identity, hfields, -⟩ :=
      (Gate.settled_of_process g _ clock nextId next hd).passed rfl hp
    have hi : d.identity = some identity := by rw [hfields]
    refine ⟨identity, hi, ?_⟩
    rw [hpassed d identity hd hp hi]
    simp only [trimReply, setHeaders, visit, true_and]
    refine ⟨fun hnone => ?_, fun token hsome => ?_⟩
    · rw [hnone]
      rfl
    · rw [hsome]
      refine ⟨rfl, fun name before hname hbefore => ⟨trimBody m (before.setHeader name token), ?_,
        writes_trimBody m before name token⟩⟩
      rw [hname, hbefore]
      rfl
  rejected d hd hp := by
    obtain ⟨r, -, message, hm, -⟩ :=
      (Gate.settled_of_process g _ clock nextId next hd).rejected hp
    refine ⟨message, hm, ?_⟩
    rw [hrejected d message hd hp hm]
    rfl
  failed f hf := by
    rw [hfailed f hf]
    rfl

theorem setHeaders_of_error (headers : List (Datum × String)) (f : Failure) (views : List String)
    (nextId : Nat) : setHeaders headers ⟨.error f, views, nextId⟩ = ⟨.error f, views, nextId⟩ := by
  rw [setHeaders]
  congr 1
  induction headers with
  | nil => rfl
  | cons header headers ih => exact ih

/-- A reply obeys if it is the right one for each of the three things that an application is told when it
asks the gate, with whatever next stage: the gate decides the same with any other one. -/
theorem obeys_of_run (hgate : app.gate = some g) (next : Option Identity → α)
    (next' : Option Identity → β) {reply : Reply}
    (hpassed : ∀ d identity headers free,
      app.run true m clock nextId next' =
        ⟨.ok (.passes d), some (identity, "TOKEN"), headers, 1, free⟩ →
      d.result = some (next' (some identity)) →
      reply = setHeaders headers (visit route ⟨m, some (identity, "TOKEN"), clock, free⟩))
    (hrejected : ∀ response free,
      app.run true m clock nextId next' = ⟨.ok (.broken response), none, [], 0, free⟩ →
      reply = plain response free)
    (hfailed : ∀ f attached headers free,
      app.run true m clock nextId next' = ⟨.error f, attached, headers, 0, free⟩ →
      reply = ⟨.error f, [], free⟩) :
    Obeys app g.headerName route m clock (g.process (m.request true) clock nextId next)
      (trimReply m reply) := by
  have halike := Gate.process_alike g (m.request true) clock nextId next next'
  refine obeys_of (fun d identity hd hp hi => ?_) (fun d message hd hp hm => ?_) (fun f hf => ?_)
  · obtain ⟨d', hd', hsame⟩ := halike.decision d hd
    obtain ⟨identity', hi', hresult, hrun⟩ := run_of_passed hgate hd' (hsame.state ▸ hp)
    cases (hsame.identity.trans hi).symm.trans hi'
    rw [hpassed d' identity _ _ hrun hresult, hsame.renewedToken, halike.nextId]
  · obtain ⟨d', hd', hsame⟩ := halike.decision d hd
    obtain ⟨message', hm', hrun⟩ := run_of_rejected hgate hd' (hsame.state ▸ hp)
    cases (hsame.message.trans hm).symm.trans hm'
    rw [hrejected _ _ hrun, halike.nextId]
  · obtain ⟨attached, headers, hrun⟩ := run_of_error hgate (halike.failed f hf)
    rw [hfailed f attached headers _ hrun, halike.nextId]

/-- **The reply of a view that guards itself is what the gate's decision calls for**, whatever the
decision is asked for. -/
theorem obeys_require (hgate : app.gate = some g) (route : Route) (m : Message)
    (clock : Number) (nextId : Nat) (next : Option Identity → α) :
    Obeys app g.headerName route m clock (g.process (m.request true) clock nextId next)
      (trimReply m (app.require route ⟨m, none, clock, nextId⟩)) := by
  rw [require]
  -- the view is the next stage
  refine obeys_of_run hgate next (stage route ⟨m, none, clock, nextId⟩)
    (fun d identity headers free hrun hresult => ?_) (fun response free hrun => ?_)
    (fun f attached headers free hrun => ?_)
  · rw [hrun]
    dsimp only
    rw [hresult]
    rfl
  · rw [hrun]
    rfl
  · rw [hrun]
    exact setHeaders_of_error headers f _ _

/-- Without a predicate on paths, the views are looked for at once. -/
theorem serve_of_none (hunguarded : app.guardedPath = none) (m : Message) (clock : Number)
    (nextId : Nat) : app.serve m clock nextId = app.dispatch ⟨m, none, clock, nextId⟩ := by
  rw [serve, hunguarded]

section Routed

variable (hroute : destination app.routes m.path m.method = .route route)
  (hmethod : m.method ≠ "OPTIONS")

include hroute hmethod

/-- A view that guards itself is visited once the gate has been asked. -/
theorem dispatch_guarded (hguarded : route.guarded = true) (attached : Option (Identity × String))
    (clock : Number) (nextId : Nat) : app.dispatch ⟨m, attached, clock, nextId⟩ =
      app.require route ⟨m, attached, clock, nextId⟩ := by
  rw [dispatch, hroute]
  dsimp only
  rw [if_neg hmethod, hguarded, if_pos rfl]

/-- A view that does not guard itself is visited at once. -/
theorem dispatch_unguarded (hopen : route.guarded = false)
    (attached : Option (Identity × String)) (clock : Number) (nextId : Nat) :
    app.dispatch ⟨m, attached, clock, nextId⟩ = visit route ⟨m, attached, clock, nextId⟩ := by
  rw [dispatch, hroute]
  dsimp only
  rw [if_neg hmethod, hopen, if_neg Bool.false_ne_true]

theorem serve_guardViews (hunguarded : app.guardedPath = none) (hviews : views m.path = true)
    (clock : Number) (nextId : Nat) :
    (app.guardViews views).serve m clock nextId =
      app.require route ⟨m, none, clock, nextId⟩ := by
  have hdestination : destination (app.guardViews views).routes m.path m.method =
      .route { route with guarded := views route.path } := by
    have hmap := destination_map (f := fun r : Route => { r with guarded := views r.path })
      (fun _ => rfl) (fun _ => rfl) app.routes m.path m.method
    rw [hroute] at hmap
    exact hmap
  have hguarded : views route.path = true := by rw [path_of_destination hroute, hviews]
  have hnone : (app.guardViews views).guardedPath = none := hunguarded
  rw [serve_of_none hnone, dispatch_guarded hdestination hmethod hguarded]
  rfl

variable (hgate : app.gate = some g) (hopen : route.guarded = false)

include hgate hopen

/-- **The reply on a guarded path is what the gate's decision calls for**, whatever the decision is asked
for. -/
theorem obeys_protect (hguarded : guarded m.path = true) (clock : Number) (nextId : Nat)
    (next : Option Identity → α) :
    Obeys app g.headerName route m clock (g.process (m.request true) clock nextId next)
      (trimReply m (app.protect guarded m clock nextId)) := by
  rw [protect, hguarded]
  -- the next stage does nothing, and the view is visited when the gate is done
  refine obeys_of_run hgate next (fun _ => ()) (fun d identity headers free hrun _ => ?_)
    (fun response free hrun => ?_) (fun f attached headers free hrun => ?_)
  · rw [hrun]
    dsimp only
    rw [dispatch_unguarded hroute hmethod hopen]
  · rw [hrun]
    rfl
  · rw [hrun]
    exact setHeaders_of_error headers f _ _

/-- A path that is not guarded has its view visited at once. -/
theorem protect_free (hguarded : guarded m.path = false) (clock : Number) (nextId : Nat) :
    app.protect guarded m clock nextId = visit route ⟨m, none, clock, nextId⟩ := by
  rw [protect, hguarded, run_free hgate]
  dsimp only
  rw [dispatch_unguarded hroute hmethod hopen]
  rfl

end Routed

/-- **It makes no difference how a view is guarded.**  Let a gate be that of a configuration, and let
a message lead to a view.  If the view guards itself, or a predicate guards its path, the reply is the
same, and it is what the gate's decision on the request of the message calls for.  If the predicate
does not guard the path, the view runs once without an identity.  Asking for the methods leads to no
view. -/
theorem guarding_agrees {config : Config} {algorithm : Option Datum}
    {sources : Option (List Source.Description)} (hgate : app.gate = some g)
    (hconfig : Gate.ofConfig config algorithm sources = .ok g)
    (hunguarded : app.guardedPath = none) (hopen : route.guarded = false)
    (hroute : destination app.routes m.path m.method = .route route)
    (hmethod : m.method ≠ "OPTIONS") (clock : Number) (nextId : Nat)
    (next : Option Identity → α) (views guarded : String → Bool) :
    (views m.path = true → guarded m.path = true →
      (app.guardViews views).answer m clock nextId = (app.guardPaths guarded).answer m clock nextId ∧
        Obeys app config.headerName route m clock (g.process (m.request true) clock nextId next)
          ((app.guardViews views).answer m clock nextId)) ∧
    (guarded m.path = false →
      let served := route.view ⟨m, none, clock, nextId⟩
      (app.guardPaths guarded).answer m clock nextId =
        ⟨served.outcome.map (trimBody m), [route.path], served.nextId⟩) := by
  refine ⟨fun hviews hguarded => ?_, fun hfree => ?_⟩
  · have hview := obeys_require hgate route m clock nextId next
    rw [← serve_guardViews hroute hmethod hunguarded hviews,
      Gate.headerName_of_ofConfig hconfig] at hview
    have hpath := obeys_protect hroute hmethod hgate hopen hguarded clock nextId next
    rw [Gate.headerName_of_ofConfig hconfig] at hpath
    exact ⟨hview.unique hpath, hview⟩
  · have hvisit : (app.guardPaths guarded).serve m clock nextId =
        visit route ⟨m, none, clock, nextId⟩ :=
      protect_free hroute hmethod hgate hopen hfree clock nextId
    rw [answer, hvisit]
    rfl

end App

/-! ### Headers of a message -/

/-- The only header of a message, unless it is about a body, has the value it is sent with. -/
theorem Message.header?_of_headers {m : Message} {name value : String}
    (hm : m.headers = [(name, value)]) (htype : headerKey name ≠ headerKey typeHeader)
    (hlength : headerKey name ≠ headerKey lengthHeader) : m.header? name = some value := by
  have hsent : m.sent name = [value] := by simp [sent, hm]
  rw [header?, if_neg (by simpa using htype), if_neg (by simpa using hlength), hsent]
  exact congrArg some String.intercalate_singleton

theorem Message.value?_header (m : Message) (constrained : Bool) (name : String) :
    (m.request constrained).value? ⟨.header, .text name⟩ = (m.header? name).map .text := by
  simp only [request, PlaceName.text?, Option.bind_some, value?]

/-- A gate finds the token of a message that has it in the usual header. -/
theorem Message.value?_defaultHeader {m : Message} {token : String}
    (hm : m.headers = [(Source.defaultHeader, token)]) (constrained : Bool) :
    (m.request constrained).value? ⟨.header, .text Source.defaultHeader⟩ =
      some (.text token) := by
  have hheader : m.header? Source.defaultHeader = some token :=
    header?_of_headers hm (by decide) (by decide)
  rw [value?_header, hheader]
  rfl

/-! ### A guest at the showcase -/

namespace Showcase

open Gate Token

/-- The application with all its views open. -/
def openApp : App := { app (some usualGate) (some "/") with guardedPath := none }

/-- A message to the first view with a token in the usual header. -/
def showing (token : String) : Message :=
  ⟨"/x", "GET", false, [(TokenGate.Source.defaultHeader, token)], [], none⟩

theorem presents_showing (token : String) :
    usualGate.Presents ((showing token).request true) token := by
  refine ⟨rfl, .text TokenGate.Source.defaultHeader, [], [.bearer], rfl, rfl,
    fun _ hs => (nomatch hs), ?_⟩
  exact Message.value?_defaultHeader rfl true

/-- The guest's token is renewed however the view is guarded, and the view shows the guest; where the
predicate guards no path, it shows nobody. -/
theorem guarding_agrees_guest : ∃ token renewed reply response route,
    Gate.ofConfig { secret := .text "k", renew := .bool true } none
        (some [.header none, .bearer none]) = .ok usualGate ∧
      openApp.gate = some usualGate ∧ openApp.guardedPath = none ∧ route.guarded = false ∧
      destination openApp.routes (showing token).path (showing token).method = .route route ∧
      (showing token).method ≠ "OPTIONS" ∧
      (openApp.guardViews (· != "/public")).answer (showing token) (.int 0) 0 = reply ∧
      (openApp.guardPaths (· == "/x")).answer (showing token) (.int 0) 0 = reply ∧
      reply.outcome = .ok response ∧ reply.views = ["/x"] ∧
      response.body = some (attachedDocument (some (guest, "TOKEN"))) ∧
      response.header? "X-Auth" = some renewed ∧
      ((openApp.guardPaths (· == "/api/x")).answer (showing token) (.int 0) 0).outcome =
        .ok (.document 200 (attachedDocument none)) := by
  have hs := renewable_guestClaims rfl forward_tenSeconds
  obtain ⟨token, hsign⟩ := hs.sign_of_printable (id 0) (printable_tenSeconds le_rfl (by decide))
  obtain ⟨looks, hsearch⟩ := (presents_showing token).search (clean?_signed hsign)
  have hnow : (Number.int 0).rational? = some ((0 : Int) : ℚ) := rfl
  have hended : ¬tenSeconds.Ended 0 ((0 : Int) : ℚ) := by
    rintro ⟨n, ⟨⟩, hle⟩
    norm_num at hle
  have hprintable : tenSeconds.Printable ⌊((0 : Int) : ℚ)⌋ := by
    rw [Int.floor_intCast]
    exact printable_tenSeconds le_rfl (by decide)
  obtain ⟨renewed, -, hd⟩ := (decision_of_open hs hsign hnow rfl hsearch rfl le_rfl (by norm_num)
    hended 0 fun _ => ()).1 hprintable
  have hconfig : Gate.ofConfig { secret := .text "k", renew := .bool true } none
      (some [.header none, .bearer none]) = .ok usualGate := rfl
  have hmethod : (showing token).method ≠ "OPTIONS" := by
    show "GET" ≠ "OPTIONS"
    decide
  have hgate : openApp.gate = some usualGate := rfl
  obtain ⟨hagree, hobeys⟩ := (App.guarding_agrees hgate hconfig rfl rfl rfl hmethod
    (.int 0) 0 (fun _ => ()) (· != "/public") (· == "/x")).1 rfl rfl
  have hfree := (App.guarding_agrees hgate hconfig rfl rfl rfl hmethod
    (.int 0) 0 (fun _ => ()) (· != "/public") (· == "/api/x")).2 rfl
  obtain ⟨identity, hi, hviews, -, -, hrenewed⟩ := hobeys.passed _ hd rfl
  cases hi
  obtain ⟨after, hafter, hwrites⟩ := (hrenewed renewed rfl).2 _ _ rfl rfl
  exact ⟨token, renewed, _, after, _, hconfig, hgate, rfl, rfl, rfl, hmethod, rfl, hagree.symm, hafter,
    hviews, hwrites.body, hwrites.header, congrArg Reply.outcome hfree⟩

end Showcase

end Web

end TokenGate
