/-
What a login service answers.

A body names a known user with the password, or it does not, or it breaks the view that reads it;
`Knows` and `Breaks` tell the first and the last from the value in the body alone.  `login_answers` is
the main result, for every body: a known user gets a token, a body that breaks the view an error of the
server, and every other body the same refusal.  A known user whose token would expire in a second that
cannot be written gets an error of the server, too.

The token is good for what it was made for: whichever way it is sent to the profile, the profile shows
the user with the roles (`shows_profile`).  This runs through everything that a gate does, and rests on
`Gate.admits_of_open` for the gate and on `Web.App.obeys_require` for the view behind it.
-/
import TokenGate.LoginService
import TokenGate.Proofs.Web.Guarding

namespace TokenGate

/-! ### Documents in responses -/

/-- The kind of a document is that of documents. -/
theorem Web.isDocumentType_documentType :
    isDocumentType (mediaType documentType) = true := by decide

namespace Web.Response

theorem document?_document (status : Nat) (body : Datum) :
    (document status body).document? = some body := by
  have hkind : (document status body).header? typeHeader = some documentType := by
    simp [header?, document, firstValue?]
  rw [document?, hkind, Option.any_some, if_pos isDocumentType_documentType]
  rfl

/-- Writing a header other than the one for the kind leaves the document. -/
theorem Writes.document? {name value : String} {before after : Response}
    (h : Writes name value before after) (hn : Text.lower typeHeader ≠ Text.lower name) :
    after.document? = before.document? := by
  rw [Response.document?, Response.document?, h.others _ hn, h.body]

end Web.Response

namespace LoginService

open Token Builder Web

variable {env : EnvFile.Environment} {s : LoginService} {u : User} {m : Message} {clock : Number}
  {now : ℚ} {nextId : Nat} {key : List UInt8} {token : String} {source : Source}

/-! ### The gate of the service -/

/-- The gate of a service has the usual names for claims and for its header. -/
theorem gate_of_ofEnvironment (h : ofEnvironment env = .ok s) :
    s.gate.mapping = {} ∧ s.gate.headerName = .text Source.defaultHeader := by
  rw [ofEnvironment] at h
  split at h
  · cases h
  obtain ⟨config, hconfig, h⟩ := bind_eq_ok.1 h
  obtain ⟨installation, hinstallation, h⟩ := bind_eq_ok.1 h
  cases h
  obtain ⟨g, hg, rfl⟩ := map_eq_ok.1 hinstallation
  have hd := Config.described_of_ofMapping hconfig
  obtain ⟨a, -, hmade⟩ := Gate.ofConfig_of_check hd.check
  rw [hmade] at hg
  obtain ⟨chain, -, rfl⟩ := map_eq_ok.1 hg
  -- the environment has nothing to say about these names, so that they are the usual ones
  have huser : Datum.text Claim.userId = config.userIdClaim := Except.ok.inj hd.userIdClaim
  have hroles : Datum.text Claim.roles = config.rolesClaim := Except.ok.inj hd.rolesClaim
  have hheader : Datum.text Source.defaultHeader = config.headerName := Except.ok.inj hd.headerName
  rw [← huser, ← hroles, ← hheader]
  exact ⟨rfl, rfl⟩

/-! ### Making a token -/

/-- When a token of the service is valid. -/
def schedule (s : LoginService) : Schedule := ⟨true, some s.lifetime, none, true⟩

/-- The second at which a token of the service expires can be written. -/
def Timely (s : LoginService) (second : Int) : Prop :=
  Datum.unprintable (second + s.lifetime) = false

theorem printable_iff (hl : 0 < s.lifetime) {second : Int} (h0 : 0 ≤ second) :
    s.schedule.Printable second ↔ s.Timely second := by
  constructor
  · intro h
    exact h.2.1 _ rfl
  · intro h
    refine ⟨fun _ => ?_, ?_, ?_⟩
    · rw [Timely, Gate.unprintable_eq_false_iff] at h
      rw [Gate.unprintable_eq_false_iff]
      omega
    · rintro n ⟨⟩
      exact h
    · rintro n ⟨⟩

theorem named_userId : Claim.userId ≠ "" := by decide

theorem named_roles : Claim.roles ≠ "" := by decide

/-- What a user's token says. -/
def User.claims (u : User) : ClaimSet :=
  (ClaimSet.empty.write Claim.userId (.text u.name) named_userId).write Claim.roles (.texts u.roles)
    named_roles

/-- The builder for a user's token. -/
def drafted (s : LoginService) (u : User) : Builder :=
  ⟨s.gate.algorithm, s.gate.secret, u.claims, s.schedule.policy⟩

theorem builderFor_eq (hk : Key.accept s.gate.secret = .ok key) (u : User) :
    s.builderFor u = .ok (s.drafted u) := by
  have huser : ∀ b : Builder, b.edit (.userId (.text u.name)) =
      ({ b with claims := b.claims.write Claim.userId (.text u.name) named_userId }, none) :=
    fun _ => rfl
  have hroles : ∀ b : Builder, b.edit (.roles (.list (u.roles.map .text))) =
      ({ b with claims := b.claims.write Claim.roles (.texts u.roles) named_roles }, none) := by
    intro b
    rw [Builder.edit, Builder.roleItems]
    dsimp only
    rw [Builder.putClaim, ClaimSet.step, ClaimSet.put, dif_neg named_roles, ofDatum?_tuple]
  rw [builderFor, Builder.make, if_pos (Key.truth_of_accept hk), ok_bind, Builder.chain,
    List.foldlM_cons, huser, unlessFailed, ok_bind, List.foldlM_cons, hroles, unlessFailed, ok_bind]
  rfl

theorem drafts_drafted (hl : 0 < s.lifetime) (u : User) :
    Drafts u.name u.roles s.schedule (s.drafted u) where
  policy := rfl
  issuedAt := rfl
  expiry := by
    rintro n ⟨⟩
    exact hl
  leeway := by rintro n ⟨⟩
  claims := List.forall_mem_cons.2 ⟨fits_userId u.name u.roles,
    List.forall_mem_singleton.2 (fits_roles u.name u.roles)⟩

theorem printable_claims (u : User) : ∀ claim ∈ u.claims.payload, claim.2.oversized = false := by
  refine List.forall_mem_cons.2 ⟨rfl, List.forall_mem_singleton.2 ?_⟩
  refine Datum.oversized_list_eq_false_iff.2 fun d hd => ?_
  obtain ⟨role, -, rfl⟩ := List.mem_map.1 hd
  rfl

section Made

variable (hl : 0 < s.lifetime) (hk : Key.accept s.gate.secret = .ok key)
  (hc : clock.rational? = some now) (h0 : 0 ≤ now)

include hl hk hc h0

/-- A user's token is made exactly if its expiry can be written. -/
theorem exists_build_drafted (u : User) (nextId : Nat) :
    (∃ token, ((s.drafted u).build clock nextId).outcome = .ok token) ↔ s.Timely ⌊now⌋ := by
  rw [Gate.exists_build_iff (drafts_drafted hl u) hk rfl rfl (second_of_rational hc h0),
    ← printable_iff hl (Int.floor_nonneg.2 h0)]
  exact and_iff_right (printable_claims u)

/-- **The answer to a known user** is a token, or an error of the server if its expiry cannot be
written. -/
theorem welcome_answers (u : User) (v : Visit) (hv : v.clock = clock) :
    (s.Timely ⌊now⌋ → ∃ token, ((s.drafted u).build clock v.nextId).outcome = .ok token ∧
      (s.welcome u v).outcome = .ok (success token)) ∧
    (¬s.Timely ⌊now⌋ → (s.welcome u v).outcome = .ok serverError) := by
  have hiff := exists_build_drafted hl hk hc h0 u v.nextId
  rw [welcome, builderFor_eq hk, hv]
  refine ⟨fun ht => ?_, fun ht => ?_⟩
  · obtain ⟨token, htoken⟩ := hiff.2 ht
    exact ⟨token, htoken, by simp only [htoken]⟩
  · rcases htoken : ((s.drafted u).build clock v.nextId).outcome with f | token
    · simp only [htoken]
    · exact absurd (hiff.1 ⟨token, htoken⟩) ht

end Made

/-! ### What a body says -/

/-- The body is a document with this value. -/
def Says (m : Message) (d : Datum) : Prop :=
  ∃ bytes, m.document? = some bytes ∧ Json.read bytes = .ok d

theorem Says.unique {d d' : Datum} (h : Says m d) (h' : Says m d') : d = d' := by
  obtain ⟨bytes, hbytes, hread⟩ := h
  obtain ⟨bytes', hbytes', hread'⟩ := h'
  cases hbytes.symm.trans hbytes'
  exact Except.ok.inj (hread.symm.trans hread')

/-- The body is an object with the name and the password of a user. -/
def Knows (m : Message) (u : User) : Prop :=
  u ∈ users ∧ ∃ members, Says m (.dict members) ∧
    Record.get? members "username" = some (.text u.name) ∧
    Record.get? members "password" = some (.text u.password)

/-- The body breaks the view: it is nested too deeply to be read (by the bound `Json.depthLimit`); or it is no object, but a value that
counts as set; or it is an object whose user name cannot be looked up. -/
inductive Breaks (m : Message) : Prop
  | tooDeep {bytes : List UInt8} {container : Json.Container} (hd : m.document? = some bytes)
      (hr : Json.read bytes = .error (.tooDeep container))
  | noObject {d : Datum} (hs : Says m d) (ht : d.truth = true) (hn : ∀ members, d ≠ .dict members)
  | noName {members : Record Datum} {d : Datum} (hs : Says m (.dict members))
      (hu : members.get? "username" = some d) (hd : d.changeable?.isSome)

theorem bind_text?_eq_some_iff {d? : Option Datum} {text : String} :
    d?.bind Datum.text? = some text ↔ d? = some (.text text) := by
  simp only [Option.bind_eq_some_iff, Datum.text?_eq_some_iff, exists_eq_right]

/-- A user is found by name and password, which have to be texts. -/
theorem user?_eq_some_iff {name password : Option Datum} : user? name password = some u ↔
    u ∈ users ∧ name = some (.text u.name) ∧ password = some (.text u.password) := by
  constructor
  · intro h
    have hfound := List.find?_some h
    rw [Bool.and_eq_true, beq_iff_eq, beq_iff_eq, bind_text?_eq_some_iff,
      bind_text?_eq_some_iff] at hfound
    exact ⟨List.mem_of_find?_eq_some h, hfound⟩
  · rintro ⟨hu, rfl, rfl⟩
    -- no two users have the same name
    rcases List.mem_pair.1 hu with rfl | rfl
    · rfl
    · rfl

theorem credentials_of_says {members : Record Datum} (h : Says m (.dict members)) :
    Credentials.ofMessage m = .fields members := by
  obtain ⟨bytes, hbytes, hread⟩ := h
  rw [Credentials.ofMessage, hbytes, Option.elim_some, Credentials.ofDocument, hread]

/-- The members that a view looks at are those of the body, or there are none. -/
theorem says_of_fields {members : Record Datum} (h : Credentials.ofMessage m = .fields members) :
    members = [] ∨ Says m (.dict members) := by
  rw [Credentials.ofMessage] at h
  rcases hbytes : m.document? with - | bytes
  · rw [hbytes] at h
    cases h
    exact .inl rfl
  · rw [hbytes, Option.elim_some, Credentials.ofDocument] at h
    split at h
    · next hread =>
      cases h
      exact .inr ⟨bytes, hbytes, hread⟩
    · split at h
      · cases h
      · cases h
        exact .inl rfl
    · cases h
    · cases h
      exact .inl rfl

theorem breaks_of_unusable (h : Credentials.ofMessage m = .unusable) : Breaks m := by
  rw [Credentials.ofMessage] at h
  rcases hbytes : m.document? with - | bytes
  · rw [hbytes] at h
    cases h
  · rw [hbytes, Option.elim_some, Credentials.ofDocument] at h
    split at h
    · cases h
    · next d hn hread =>
      split at h
      · next ht => exact .noObject ⟨bytes, hbytes, hread⟩ ht hn
      · cases h
    · next hread => exact .tooDeep hbytes hread
    · cases h

/-! ### The view that logs in -/

theorem login_of_knows (h : Knows m u) (clock : Number) (nextId : Nat) :
    s.login ⟨m, none, clock, nextId⟩ = s.welcome u ⟨m, none, clock, nextId⟩ := by
  obtain ⟨hu, members, hsays, hname, hpassword⟩ := h
  have huser : user? (Record.get? members "username") (Record.get? members "password") = some u :=
    user?_eq_some_iff.2 ⟨hu, hname, hpassword⟩
  rw [login, credentials_of_says hsays]
  dsimp only
  rw [huser, hname, if_neg (by exact Bool.false_ne_true)]

theorem login_of_breaks (h : Breaks m) (clock : Number) (nextId : Nat) :
    s.login ⟨m, none, clock, nextId⟩ = ⟨.ok serverError, nextId⟩ := by
  cases h with
  | tooDeep hd hr =>
    rw [login, Credentials.ofMessage, hd, Option.elim_some, Credentials.ofDocument, hr]
  | @noObject d hs ht hn =>
    obtain ⟨bytes, hbytes, hread⟩ := hs
    have hunusable : Credentials.ofDocument bytes = .unusable := by
      rw [Credentials.ofDocument, hread]
      cases d with
      | dict members => exact absurd rfl (hn members)
      | _ => exact if_pos ht
    rw [login, Credentials.ofMessage, hbytes, Option.elim_some, hunusable]
  | noName hs hu hd =>
    rw [login, credentials_of_says hs]
    dsimp only
    rw [hu, if_pos (by exact hd)]

theorem login_of_neither (hk : ∀ u, ¬Knows m u) (hb : ¬Breaks m) (clock : Number) (nextId : Nat) :
    s.login ⟨m, none, clock, nextId⟩ = ⟨.ok badCredentials, nextId⟩ := by
  rcases hm : Credentials.ofMessage m with members | -
  · have hsays := says_of_fields hm
    have hname : ¬((members.get? "username").any fun d => d.changeable?.isSome) = true := by
      intro hany
      rcases hd : members.get? "username" with - | d
      · rw [hd] at hany
        cases hany
      · rw [hd, Option.any_some] at hany
        rcases hsays with rfl | hsays
        · cases hd
        · exact hb (.noName hsays hd hany)
    have huser : user? (members.get? "username") (members.get? "password") = none := by
      rw [Option.eq_none_iff_forall_ne_some]
      intro u hu
      obtain ⟨hmem, hname, hpassword⟩ := user?_eq_some_iff.1 hu
      rcases hsays with rfl | hsays
      · cases hname
      · exact hk u ⟨hmem, members, hsays, hname, hpassword⟩
    rw [login, hm]
    dsimp only
    rw [if_neg hname, huser]
  · exact absurd (breaks_of_unusable hm) hb

/-! ### Requests to the service -/

/-- The message asks for a path by a method, and not for the headers of the answer alone. -/
structure Asks (m : Message) (method path : String) : Prop where
  method : m.method = method
  path : m.path = path
  whole : m.headersOnly = false

theorem Asks.trimBody {method path : String} (h : Asks m method path) (r : Response) :
    App.trimBody m r = r := by
  rw [App.trimBody, h.whole, if_neg Bool.false_ne_true]

theorem answer_of_reply {r : Response} (h : (s.app.answer m clock nextId).outcome = .ok r) :
    (s.answer m clock nextId).1 = r := by
  rw [answer]
  simp only [h]

/-- The answer to a login is that of its view. -/
theorem answer_login (hm : Asks m "POST" "/login") {r : Response}
    (h : (s.login ⟨m, none, clock, nextId⟩).outcome = .ok r) :
    (s.answer m clock nextId).1 = r := by
  have hroute : destination s.app.routes m.path m.method =
      .route ⟨"/login", ["POST"], false, s.login⟩ := by
    rw [hm.path, hm.method]
    rfl
  have hmethod : m.method ≠ "OPTIONS" := by
    rw [hm.method]
    decide
  refine answer_of_reply ?_
  rw [App.answer, App.serve_of_none rfl, App.dispatch_unguarded hroute hmethod rfl, App.visit]
  dsimp only
  rw [h]
  exact congrArg Except.ok (hm.trimBody r)

/-- The response shows an identity. -/
def Shows (r : Response) (i : Identity) : Prop :=
  r.status = 200 ∧ r.document? = some (.dict
    [("status", .text "success"), ("user", .text i.userId), ("roles", .list (i.roles.map .text))])

/-- **The profile shows whom the gate admits**, with and without a renewed token. -/
theorem shows_of_admits {identity : Identity} {renewable : Prop}
    (hname : s.gate.headerName = .text Source.defaultHeader) (hm : Asks m "GET" "/api/profile")
    (ha : Gate.Admits s.gate (s.gate.process (m.request true) clock nextId fun _ => ()) identity
      renewable) : Shows (s.answer m clock nextId).1 identity := by
  have hroute : destination s.app.routes m.path m.method =
      .route ⟨"/api/profile", ["GET"], true, showProfile⟩ := by
    rw [hm.path, hm.method]
    rfl
  have hmethod : m.method ≠ "OPTIONS" := by
    rw [hm.method]
    decide
  have hreply : s.app.answer m clock nextId = App.trimReply m
      (s.app.require ⟨"/api/profile", ["GET"], true, showProfile⟩ ⟨m, none, clock, nextId⟩) := by
    rw [App.answer, App.serve_of_none rfl, App.dispatch_guarded hroute hmethod rfl]
    rfl
  have hgate : s.app.gate = some s.gate := rfl
  have hobeys := App.obeys_require hgate ⟨"/api/profile", ["GET"], true, showProfile⟩ m clock
    nextId fun _ => ()
  rw [← hreply, hname] at hobeys
  obtain ⟨⟨d, hd, hi, hrenewed, hkept⟩, -⟩ := ha
  have hpasses : d.state.passes = true := by
    by_cases h : s.gate.renew = true ∧ renewable
    · rw [hrenewed h]
      rfl
    · rw [hkept h]
      rfl
  obtain ⟨identity', hi', -, -, hplain, hwritten⟩ := hobeys.passed d hd hpasses
  cases hi.symm.trans hi'
  have hshows : Shows (profile identity) identity := ⟨rfl, Response.document?_document _ _⟩
  rcases ht : d.renewedToken with - | token
  · have houtcome := (hplain ht).trans (congrArg Except.ok (hm.trimBody (profile identity)))
    rw [answer_of_reply houtcome]
    exact hshows
  · obtain ⟨after, hafter, hwrites⟩ := (hwritten token ht).2 _ _ rfl rfl
    rw [hm.trimBody] at hwrites
    rw [answer_of_reply hafter]
    exact ⟨hwrites.status.trans hshows.1, (hwrites.document? (by decide)).trans hshows.2⟩

theorem user_spec (h : u ∈ users) : u.name ≠ "" ∧ u.roles.eraseDups = u.roles := by
  rcases List.mem_pair.1 h with rfl | rfl
  · exact ⟨by decide, rfl⟩
  · exact ⟨by decide, rfl⟩

/-- **A token of the service shows its user the profile**, at the clock it was made at and in any of its
places. -/
theorem shows_profile (hs : ofEnvironment env = .ok s) (hl : 0 < s.lifetime)
    (hk : Key.accept s.gate.secret = .ok key) (hc : clock.rational? = some now) (h0 : 0 ≤ now)
    (hu : u ∈ users) (htoken : ((s.drafted u).build clock nextId).outcome = .ok token)
    {nextId' : Nat} (hm : Asks m "GET" "/api/profile")
    (hreceives : s.gate.Receives (m.request true) source token) :
    Shows (s.answer m clock nextId').1 ⟨u.name, u.roles⟩ := by
  obtain ⟨hmapping, hheader⟩ := gate_of_ofEnvironment hs
  obtain ⟨hname, hroles⟩ := user_spec hu
  have hd := drafts_drafted hl u
  rw [Gate.build_drafts hd rfl rfl (second_of_rational hc h0)] at htoken
  have hrenewable : Gate.Renewable s.gate u.claims s.schedule ⟨u.name, u.roles.eraseDups⟩ :=
    Gate.renewable_of_drafts hd hk rfl rfl hname (printable_claims u) rfl hmapping
  rw [hroles] at hrenewable
  obtain ⟨looks, hsearch⟩ := hreceives.search (clean_signed htoken)
  -- less than a second has passed since the token was made, and it lasts one at least
  have hopen : ¬s.schedule.Ended ⌊now⌋ now := by
    rintro ⟨n, hn, hle⟩
    cases hn
    have hlt := Int.lt_floor_add_one now
    have hone : ((⌊now⌋ + 1 : Int) : ℚ) ≤ ((⌊now⌋ + s.lifetime : Int) : ℚ) := by
      exact_mod_cast Int.add_le_add_left hl _
    push_cast at hone hle
    linarith
  exact shows_of_admits hheader hm
    (Gate.admits_of_open hrenewable htoken hc rfl hsearch (Int.floor_le now) h0 hopen)

/-! ### Every body -/

section Answers

variable (hm : Asks m "POST" "/login")

include hm

theorem answer_of_breaks (h : Breaks m) (clock : Number) (nextId : Nat) :
    (s.answer m clock nextId).1 = serverError :=
  answer_login hm (congrArg Served.outcome (login_of_breaks h clock nextId))

theorem answer_of_neither (hk : ∀ u, ¬Knows m u) (hb : ¬Breaks m) (clock : Number)
    (nextId : Nat) : (s.answer m clock nextId).1 = badCredentials :=
  answer_login hm (congrArg Served.outcome (login_of_neither hk hb clock nextId))

variable (hl : 0 < s.lifetime) (hk : Key.accept s.gate.secret = .ok key)
  (hc : clock.rational? = some now) (h0 : 0 ≤ now)

include hl hk hc h0

theorem answer_of_knows (h : Knows m u) (nextId : Nat) :
    (s.Timely ⌊now⌋ → ∃ token, ((s.drafted u).build clock nextId).outcome = .ok token ∧
      (s.answer m clock nextId).1 = success token) ∧
    (¬s.Timely ⌊now⌋ → (s.answer m clock nextId).1 = serverError) := by
  obtain ⟨htimely, hlate⟩ := welcome_answers hl hk hc h0 u ⟨m, none, clock, nextId⟩ rfl
  rw [← login_of_knows h] at htimely hlate
  refine ⟨fun ht => ?_, fun ht => answer_login hm (hlate ht)⟩
  obtain ⟨token, htoken, houtcome⟩ := htimely ht
  exact ⟨token, htoken, answer_login hm houtcome⟩

/-- Nobody but a known user is let in. -/
theorem status_answer_iff (nextId : Nat) :
    (s.answer m clock nextId).1.status = 200 ↔ (∃ u, Knows m u) ∧ s.Timely ⌊now⌋ := by
  constructor
  · intro hstatus
    by_cases hknows : ∃ u, Knows m u
    · refine ⟨hknows, ?_⟩
      obtain ⟨u, hu⟩ := hknows
      by_contra ht
      rw [(answer_of_knows hm hl hk hc h0 hu nextId).2 ht] at hstatus
      cases hstatus
    · by_cases hb : Breaks m
      · rw [answer_of_breaks hm hb] at hstatus
        cases hstatus
      · rw [answer_of_neither hm (not_exists.1 hknows) hb] at hstatus
        cases hstatus
  · rintro ⟨⟨u, hu⟩, ht⟩
    obtain ⟨token, -, hanswer⟩ := (answer_of_knows hm hl hk hc h0 hu nextId).1 ht
    rw [hanswer]
    rfl

end Answers

/-- **What a login service answers to every body.**  Let its tokens last, and let its secret serve as a
key.  The answer to a known user is a token, and whoever sends it to the profile at the same clock is
shown the user with the roles; to a body that breaks the view, and to a user whose token would expire
too late to be written, it is an error of the server; and to every other body that the credentials are
bad. -/
theorem login_answers (hs : ofEnvironment env = .ok s) (hl : 0 < s.lifetime)
    (hk : Key.accept s.gate.secret = .ok key) (hm : Asks m "POST" "/login")
    (hc : clock.rational? = some now) (h0 : 0 ≤ now) (nextId : Nat) :
    let response := (s.answer m clock nextId).1
    (response.status = 200 ↔ (∃ u, Knows m u) ∧ s.Timely ⌊now⌋) ∧
    (∀ u, Knows m u → s.Timely ⌊now⌋ → ∃ token, response = success token ∧
      ∀ (m' : Message) (source : Source) (nextId' : Nat), Asks m' "GET" "/api/profile" →
        s.gate.Receives (m'.request true) source token →
          Shows (s.answer m' clock nextId').1 ⟨u.name, u.roles⟩) ∧
    (∀ u, Knows m u → ¬s.Timely ⌊now⌋ → response = serverError) ∧
    (Breaks m → response = serverError) ∧
    ((∀ u, ¬Knows m u) → ¬Breaks m → response = badCredentials) := by
  refine ⟨status_answer_iff hm hl hk hc h0 nextId, fun u hu ht => ?_, fun u hu => ?_, fun hb => ?_,
    fun hn hb => ?_⟩
  · obtain ⟨token, htoken, hanswer⟩ := (answer_of_knows hm hl hk hc h0 hu nextId).1 ht
    refine ⟨token, hanswer, fun m' source nextId' hm' hreceives => ?_⟩
    exact shows_profile hs hl hk hc h0 hu.1 htoken hm' hreceives
  · exact (answer_of_knows hm hl hk hc h0 hu nextId).2
  · exact answer_of_breaks hm hb clock nextId
  · exact answer_of_neither hm hn hb clock nextId

/-- An environment with a secret of one letter, and ten seconds for tokens. -/
def letterEnvironment : EnvFile.Environment := [("JWT_SECRET", "k"), ("TOKEN_TTL_SECONDS", "10")]

/-- The service of this environment. -/
def letterService : LoginService where
  gate :=
    { secret := .text "k"
      algorithm := .hs256
      renew := true
      mapping := {}
      headerName := .text Source.defaultHeader
      chain := ⟨[.header (.text Source.defaultHeader), .bearer,
        .parameter (.text Source.defaultParameter), .cookie (.text "auth_token")],
        List.cons_ne_nil _ _⟩ }
  lifetime := 10

theorem ofEnvironment_letter : ofEnvironment letterEnvironment = .ok letterService := rfl

/-- A login with a value in the body. -/
def posting (d : Datum) : Message :=
  ⟨"/login", "POST", false, [], [],
    some ⟨documentType, Encoding.encodeUtf8 (Json.write .compact d)⟩⟩

theorem asks_posting (d : Datum) : Asks (posting d) "POST" "/login" := ⟨rfl, rfl, rfl⟩

theorem says_posting {d : Datum} (h : Json.Writable Json.depthLimit d) : Says (posting d) d := by
  refine ⟨Encoding.encodeUtf8 (Json.write .compact d), ?_, Json.read_write h⟩
  have hkind : (posting d).kind? = some documentType := rfl
  rw [Message.document?, hkind, Option.any_some, if_pos isDocumentType_documentType, posting,
    Option.map_some]

theorem says_list : Says (posting (.list [.int 1])) (.list [.int 1]) := by
  have hone : Datum.unprintable 1 = false := Datum.unprintable_of_lt (by decide)
  exact says_posting (.list (List.forall_mem_singleton.2 (.int hone)))

/-- A list is no object. -/
theorem breaks_list : Breaks (posting (.list [.int 1])) := by
  refine .noObject says_list rfl ?_
  rintro members ⟨⟩

/-- A request for the profile with a token in the usual header. -/
def visiting (token : String) : Message :=
  ⟨"/api/profile", "GET", false, [(Source.defaultHeader, token)], [], none⟩

theorem receives_visiting (token : String) :
    letterService.gate.Receives ((visiting token).request true) (.header (.text Source.defaultHeader))
      token where
  constrained := rfl
  in_source := by
    refine ⟨[], _, token, rfl, fun _ hs => (nomatch hs), ?_, [], [], [], ?_, .header _, ?_, ?_⟩
    · exact Message.value?_defaultHeader rfl true
    · exact List.forall_mem_nil _
    · exact List.forall_mem_nil _
    · simp

/-- A name and a password. -/
def named (name password : String) : Datum :=
  .dict [("username", .text name), ("password", .text password)]

theorem says_named (name password : String) :
    Says (posting (named name password)) (named name password) := by
  have hdistinct : ["username", "password"].Nodup := by decide
  exact says_posting (.dict hdistinct
    (List.forall_mem_cons.2 ⟨.text name, List.forall_mem_singleton.2 (.text password)⟩))

/-- Null is no login, and counts as nothing said. -/
theorem null_neither : (∀ u, ¬Knows (posting .null) u) ∧ ¬Breaks (posting .null) := by
  have hnull : Says (posting .null) .null := says_posting .null
  have hnot : ∀ members, ¬Says (posting .null) (.dict members) := fun members h =>
    nomatch hnull.unique h
  refine ⟨fun u hu => ?_, fun hb => ?_⟩
  · obtain ⟨-, members, hsays, -⟩ := hu
    exact hnot members hsays
  · cases hb with
    | tooDeep hd hr =>
      obtain ⟨bytes, hbytes, hread⟩ := hnull
      cases hbytes.symm.trans hd
      cases hread.symm.trans hr
    | noObject hs ht hn =>
      cases hnull.unique hs
      cases ht
    | noName hs hu hd => exact hnot _ hs

/-- Alice logs in and is shown her profile; a list is an error of the server; and with null for a body the
credentials are bad. -/
theorem login_answers_alice : ∃ token,
    ofEnvironment letterEnvironment = .ok letterService ∧ 0 < letterService.lifetime ∧
      Key.accept letterService.gate.secret = .ok [0x6b] ∧
      (Number.int 0).rational? = some ((0 : Int) : ℚ) ∧
      Asks (posting (named "alice" "wonderland")) "POST" "/login" ∧
      (letterService.answer (posting (named "alice" "wonderland")) (.int 0) 0).1 = success token ∧
      Asks (visiting token) "GET" "/api/profile" ∧
      letterService.gate.Receives ((visiting token).request true)
        (.header (.text Source.defaultHeader)) token ∧
      Shows (letterService.answer (visiting token) (.int 0) 1).1 ⟨"alice", ["admin", "user"]⟩ ∧
      (letterService.answer (posting (.list [.int 1])) (.int 0) 0).1 = serverError ∧
      (letterService.answer (posting .null) (.int 0) 0).1 = badCredentials := by
  have hl : 0 < letterService.lifetime := by decide
  have hnow : (Number.int 0).rational? = some ((0 : Int) : ℚ) := rfl
  have hanswers := fun d => login_answers ofEnvironment_letter hl accept_letter (asks_posting d) hnow
    le_rfl 0
  have htimely : letterService.Timely ⌊((0 : Int) : ℚ)⌋ := by
    rw [Int.floor_intCast]
    exact Datum.unprintable_of_lt (by decide)
  have halice : Knows (posting (named "alice" "wonderland"))
      ⟨"alice", "wonderland", ["admin", "user"]⟩ :=
    ⟨List.mem_cons_self, _, says_named "alice" "wonderland", rfl, rfl⟩
  obtain ⟨token, htoken, hshows⟩ := (hanswers _).2.1 _ halice htimely
  have hvisits : Asks (visiting token) "GET" "/api/profile" := ⟨rfl, rfl, rfl⟩
  have hreceives := receives_visiting token
  refine ⟨token, ofEnvironment_letter, hl, accept_letter, hnow, asks_posting _, htoken, hvisits,
    hreceives, hshows _ _ 1 hvisits hreceives, (hanswers _).2.2.2.1 breaks_list, ?_⟩
  exact (hanswers _).2.2.2.2 null_neither.1 null_neither.2

/-- **A body can break the view that logs in**: a list is answered with an error of the server, and not
with bad credentials. -/
theorem list_breaks_login :
    ofEnvironment letterEnvironment = .ok letterService ∧ 0 < letterService.lifetime ∧
      Key.accept letterService.gate.secret = .ok [0x6b] ∧
      Asks (posting (.list [.int 1])) "POST" "/login" ∧
      Says (posting (.list [.int 1])) (.list [.int 1]) ∧
      (letterService.answer (posting (.list [.int 1])) (.int 0) 0).1.status = 500 := by
  refine ⟨ofEnvironment_letter, by decide, accept_letter, asks_posting _, says_list, ?_⟩
  rw [answer_of_breaks (asks_posting _) breaks_list]
  rfl

end LoginService

end TokenGate
