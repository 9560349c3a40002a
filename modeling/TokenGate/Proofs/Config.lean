/-
What an accepted configuration is good for.

A configuration is checked in three layers: its own, which asks for a secret and an algorithm, that of
the sources, which ask for names that are not blank, and that of keys.  `accepted_usable` says how far
the first one reaches.  Of an accepted configuration of texts a gate is made, unless one of the names
is blank, which is noticed right there and blamed on the first such place.  The gate signs, reaches a
verdict on every token and decides on requests (`Gate.Usable`) exactly if the secret serves as a key.
Otherwise it fails on every well-formed token (`Gate.Broken`), as it does with a public key for its
secret (`public_key_accepted`).

A configuration of texts comes from a caller who gives it texts, or from settings that are texts
(`Config.Described.textual`).
-/
import TokenGate.Proofs.Gate.Renewability
import TokenGate.Proofs.Gate.Totality

namespace TokenGate

open Token

/-- The value is a text. -/
def Datum.IsText (d : Datum) : Prop := ∃ s, d = .text s

/-! ### Usual sources -/

theorem PlaceName.ofDatum_text (place : Place) (name : String) : ofDatum place (.text name) =
    if Text.blank name then .error (.placeName place) else .ok (.text name) := rfl

namespace Chain.Names

/-- The names by which the usual sources look for tokens, in their order. -/
def places (n : Names) : List (Place × Datum) :=
  [(.header, n.header), (.parameter, n.parameter)] ++
    (if n.cookie.truth then [(.cookie, n.cookie)] else [])

/-- The first place whose name is blank. -/
def blankPlace? (n : Names) : Option Place :=
  (n.places.find? fun p => p.2.text?.any Text.blank).map Prod.fst

/-- The usual sources can be made unless a name is blank; the first such place is blamed. -/
theorem usual_of_texts {n : Names} (hh : n.header.IsText) (hp : n.parameter.IsText)
    (hc : n.cookie.truth = true → n.cookie.IsText) :
    match n.blankPlace? with
    | some place => usual n = .error (.placeName place)
    | none => ∃ chain, usual n = .ok chain := by
  obtain ⟨header, hh⟩ := hh
  obtain ⟨parameter, hp⟩ := hp
  have husual : usual n = n.sources.mapM Source.ofDescription >>= ofSources := rfl
  rw [husual, sources, blankPlace?, places, hh, hp]
  simp only [List.cons_append, List.nil_append, List.mapM_cons, Source.ofDescription,
    Option.getD_some, PlaceName.ofDatum_text, Datum.text?, List.find?_cons, Option.any_some]
  cases Text.blank header with
  | true => rfl
  | false =>
    cases Text.blank parameter with
    | true => rfl
    | false =>
      cases ht : n.cookie.truth with
      | false => exact ⟨_, rfl⟩
      | true =>
        obtain ⟨cookie, hc⟩ := hc ht
        rw [hc]
        simp only [if_pos, List.mapM_cons, Source.ofDescription, PlaceName.ofDatum_text,
          List.find?_cons, Option.any_some]
        cases Text.blank cookie with
        | true => rfl
        | false => exact ⟨_, rfl⟩

end Chain.Names

/-! ### Secrets -/

/-- A text that is set may be refused as a key for two reasons: it looks like a key of another kind, or
it describes one. -/
theorem Key.fault_of_text {s : String} {fault : Fault} (hs : s ≠ "")
    (h : accept (.text s) = .error fault) : fault = .asymmetric ∨ fault = .document := by
  have hbytes : (Encoding.encodeUtf8 s.toList).isEmpty = false := by
    rw [List.isEmpty_eq_false_iff]
    rcases hchars : s.toList with - | ⟨c, cs⟩
    · exact absurd (String.toList_eq_nil_iff.1 hchars) hs
    · rw [Encoding.encodeUtf8_cons]
      exact List.append_ne_nil_of_left_ne_nil String.utf8EncodeChar_ne_nil _
  have haccept : acceptBytes (Encoding.encodeUtf8 s.toList) = .error fault := h
  rw [acceptBytes, hbytes, if_neg Bool.false_ne_true] at haccept
  split at haccept
  · cases haccept
    exact .inl rfl
  · split at haccept
    · cases haccept
      exact .inr rfl
    · cases haccept

/-! ### Configurations of texts -/

namespace Config

variable {c c' : Config} {settings : Record Datum} {stem name : String} {d default : Datum}

/-- The settings that are texts are texts; a cookie need not be named. -/
structure Textual (c : Config) : Prop where
  secret : c.secret.IsText
  userIdClaim : c.userIdClaim.IsText
  rolesClaim : c.rolesClaim.IsText
  headerName : c.headerName.IsText
  parameterName : c.parameterName.IsText
  cookieName : c.cookieName = .null ∨ c.cookieName.IsText

theorem check_eq_ok : c.check = .ok c' ↔
    c' = c ∧ c.secret.truth = true ∧ ∃ a, Algorithm.check c.algorithm = .ok a := by
  rw [check]
  rcases c.secret.truth with - | -
  · simp
  · rw [Bool.not_true, if_neg Bool.false_ne_true, map_eq_ok]
    constructor
    · rintro ⟨a, ha, rfl⟩
      exact ⟨rfl, rfl, a, ha⟩
    · rintro ⟨rfl, -, a, ha⟩
      exact ⟨a, ha, rfl⟩

/-! ### Settings that are texts -/

theorem textSetting_eq_ok (h : textSetting settings stem name default = .ok d) :
    d = default ∨ d.IsText := by
  rw [textSetting] at h
  split at h
  · cases h
    exact .inl rfl
  · obtain ⟨s, -, rfl⟩ := map_eq_ok.1 h
    exact .inr ⟨s, rfl⟩

theorem isText_of_textSetting (hd : default.IsText)
    (h : textSetting settings stem name default = .ok d) : d.IsText := by
  rcases textSetting_eq_ok h with rfl | ht
  · exact hd
  · exact ht

theorem isText_secretSetting (hs : ∀ e ∈ settings, e.2.IsText) :
    (secretSetting settings stem).IsText := by
  rw [secretSetting]
  split
  · next d hd =>
    have ht : d.IsText := by
      rw [setting?] at hd
      split at hd
      · cases hd
      · cases hd
      · split at hd
        · cases hd
        · cases hd
          exact ⟨_, rfl⟩
      · next found _ _ hget =>
        cases hd
        exact hs _ (Record.mem_of_get? hget)
    split
    · exact ht
    · exact ⟨_, rfl⟩
  · exact ⟨_, rfl⟩

/-- What is known of a configuration that settings describe: it passes its own check, and its texts are
those of the settings. -/
structure Described (settings : Record Datum) (stem : String) (c : Config) : Prop where
  check : c.check = .ok c
  secret : c.secret = secretSetting settings stem
  userIdClaim : textSetting settings stem "USER_ID_CLAIM" (.text Claim.userId) = .ok c.userIdClaim
  rolesClaim : textSetting settings stem "ROLES_CLAIM" (.text Claim.roles) = .ok c.rolesClaim
  cookieName : textSetting settings stem "COOKIE_NAME" .null = .ok c.cookieName
  headerName : textSetting settings stem "HEADER_NAME" (.text Source.defaultHeader) =
    .ok c.headerName
  parameterName : textSetting settings stem "PARAMETER_NAME" (.text Source.defaultParameter) =
    .ok c.parameterName

theorem described_of_ofMapping (h : ofMapping settings stem = .ok c) :
    c.Described settings stem := by
  rw [ofMapping] at h
  obtain ⟨algorithm, -, h⟩ := bind_eq_ok.1 h
  obtain ⟨renew, -, h⟩ := bind_eq_ok.1 h
  obtain ⟨userIdClaim, huser, h⟩ := bind_eq_ok.1 h
  obtain ⟨rolesClaim, hroles, h⟩ := bind_eq_ok.1 h
  obtain ⟨cookieName, hcookie, h⟩ := bind_eq_ok.1 h
  obtain ⟨headerName, hheader, h⟩ := bind_eq_ok.1 h
  obtain ⟨parameterName, hparameter, h⟩ := bind_eq_ok.1 h
  obtain ⟨rfl, hchecked⟩ := check_eq_ok.1 h
  exact ⟨check_eq_ok.2 ⟨rfl, hchecked⟩, rfl, huser, hroles, hcookie, hheader, hparameter⟩

/-- **Settings that are texts make a configuration of texts.** -/
theorem Described.textual (h : c.Described settings stem) (hs : ∀ e ∈ settings, e.2.IsText) :
    c.Textual where
  secret := by
    rw [h.secret]
    exact isText_secretSetting hs
  userIdClaim := isText_of_textSetting ⟨_, rfl⟩ h.userIdClaim
  rolesClaim := isText_of_textSetting ⟨_, rfl⟩ h.rolesClaim
  headerName := isText_of_textSetting ⟨_, rfl⟩ h.headerName
  parameterName := isText_of_textSetting ⟨_, rfl⟩ h.parameterName
  cookieName := textSetting_eq_ok h.cookieName

/-- A configuration of texts that is accepted: from a caller, or from settings that are texts. -/
inductive Accepted (c : Config) : Prop
  | given (ht : c.Textual) (hc : c.check = .ok c)
  | described {settings : Record Datum} {stem : String} (hs : ∀ e ∈ settings, e.2.IsText)
      (h : ofMapping settings stem = .ok c)

theorem Accepted.textual (h : c.Accepted) : c.Textual ∧ c.check = .ok c := by
  cases h with
  | given ht hc => exact ⟨ht, hc⟩
  | described hs h =>
    have hd := described_of_ofMapping h
    exact ⟨hd.textual hs, hd.check⟩

/-- The names by which the gate of a configuration looks for tokens. -/
def names (c : Config) : Chain.Names := ⟨c.headerName, c.parameterName, c.cookieName⟩

end Config

/-! ### Gates that are made -/

namespace Gate

variable {c : Config} {g : Gate} {key : List UInt8}

/-- What a gate can do: it signs what can be written, reaches a verdict on every token, and decides on
every request whose token is not torn while its clock does not stand at plus infinity. -/
structure Usable (g : Gate) : Prop where
  signs : ∀ payload, (∃ token, sign g.algorithm g.secret payload = .ok token) ↔
    issuerFits payload = true ∧ ∀ e ∈ payload, e.2.oversized = false
  checks : ∀ clock token, ∃ verdict, check g.algorithm g.secret clock token = .ok verdict
  decides : ∀ {α : Type} (request : Request) (clock : Number) (nextId : Nat)
    (next : Option Identity → α), clock ≠ .float (.infinite false) → ∀ f,
      (g.process request clock nextId next).decision = .error f ↔
        ∃ torn, g.MeetsTorn request torn ∧ f = .unencodable torn

/-- With a key, and names of claims that can be looked up, nothing makes a gate fail. -/
theorem usable_of_accept (hk : Key.accept g.secret = .ok key) (hm : g.mapping.Usable) : g.Usable where
  signs _ := exists_sign_iff hk
  checks clock token := exists_check hk g.algorithm clock token
  decides _ _ _ _ hc _ := decision_eq_error_iff hk hm hc

/-- What a gate cannot do: it fails for its secret wherever it would sign, and on every token that is
well-formed up to its signature.  Tokens that were signed for its algorithm, under any key, are. -/
structure Broken (g : Gate) (fault : Key.Fault) : Prop where
  signs : ∀ payload, issuerFits payload = true → (∀ e ∈ payload, e.2.oversized = false) →
    sign g.algorithm g.secret payload = .error (.key fault)
  checks : ∀ clock text, check g.algorithm g.secret clock (.text text) = .error (.key fault) ↔
    ∃ opened, openFor g.algorithm text.toList = .ok opened
  processes : ∀ {α : Type} (request : Request) (text : String) (looks : List Lookup)
    (clock : Number) (nextId : Nat) (next : Option Identity → α), request.constrained = true →
      g.chain.search request = (some (.text text), looks) →
      (∃ opened, openFor g.algorithm text.toList = .ok opened) →
      g.process request clock nextId next = ⟨.error (.key fault), looks.map .look, [], nextId⟩
  signed : ∀ key payload, ∃ opened,
    openFor g.algorithm (signedSegments g.algorithm key payload).text = .ok opened

/-- Under a secret that is no key, a text is either found defective before the key is asked for, or
fails for the key. -/
theorem check_eq_key_iff {fault : Key.Fault} (hf : Key.accept g.secret = .error fault)
    (clock : Number) (text : String) :
    check g.algorithm g.secret clock (.text text) = .error (.key fault) ↔
      ∃ opened, openFor g.algorithm text.toList = .ok opened := by
  rw [check, verify]
  by_cases hempty : text.isEmpty = true
  -- an empty text has no segments
  · rw [if_pos hempty, String.isEmpty_iff.1 hempty]
    constructor
    · rintro ⟨⟩
    · rintro ⟨opened, h⟩
      cases h
  · rw [if_neg hempty, verifyText]
    rcases openFor g.algorithm text.toList with d | opened
    · constructor
      · rintro ⟨⟩
      · rintro ⟨opened, ⟨⟩⟩
    · rw [orDefect, ok_bind, hf]
      exact ⟨fun _ => ⟨opened, rfl⟩, fun _ => rfl⟩

/-- **A secret that is no key breaks the gate.** -/
theorem broken_of_fault {fault : Key.Fault} (hf : Key.accept g.secret = .error fault) :
    g.Broken fault where
  signs payload hi ho := by
    have hsize : (Datum.dict payload).oversized = false := Datum.oversized_dict_eq_false_iff.2 ho
    simp only [sign, hi, hsize, hf, Bool.not_true, Bool.false_eq_true, if_false]
  checks := check_eq_key_iff hf
  processes request text looks clock nextId next hc hs hopened :=
    (Way.failed hc hs ((check_eq_key_iff hf clock text).2 hopened)).process_eq
  signed key payload := ⟨_, openFor_signed g.algorithm key payload⟩

/-- A broken gate fails on a request that presents a token signed for its algorithm. -/
theorem Broken.decision {α : Type} {fault : Key.Fault} {request : Request} {key : List UInt8}
    {payload : Record Datum} (h : g.Broken fault)
    (hp : g.Presents request (String.ofList (signedSegments g.algorithm key payload).text))
    (clock : Number) (nextId : Nat) (next : Option Identity → α) :
    (g.process request clock nextId next).decision = .error (.key fault) := by
  obtain ⟨looks, hsearch⟩ := hp.search (Token.clean_text g.algorithm key payload).clean?_self
  obtain ⟨opened, hopened⟩ := h.signed key payload
  rw [h.processes _ _ _ _ _ _ hp.constrained hsearch
    ⟨opened, by rw [String.toList_ofList, hopened]⟩]

/-- A broken gate is of no use. -/
theorem Broken.not_usable {fault : Key.Fault} (h : g.Broken fault) : ¬g.Usable := by
  intro husable
  obtain ⟨opened, hopened⟩ := h.signed [] []
  obtain ⟨verdict, hverdict⟩ :=
    husable.checks (.int 0) (.text (String.ofList (signedSegments g.algorithm [] []).text))
  have hfails := (h.checks (.int 0) (String.ofList (signedSegments g.algorithm [] []).text)).2
    ⟨opened, by rw [String.toList_ofList, hopened]⟩
  cases hverdict.symm.trans hfails

/-- Of a configuration that passes its own check a gate is made as soon as there are sources. -/
theorem ofConfig_of_check (h : c.check = .ok c) : ∃ a, Algorithm.check c.algorithm = .ok a ∧
    ofConfig c none none = (Chain.usual c.names).map fun chain =>
      ⟨c.secret, a, c.renew.truth, ⟨c.userIdClaim, c.rolesClaim⟩, c.headerName, chain⟩ := by
  obtain ⟨-, -, a, ha⟩ := Config.check_eq_ok.1 h
  refine ⟨a, ha, ?_⟩
  rw [ofConfig, h, ok_bind, Option.getD_none, ha, ok_bind]
  rfl

end Gate

/-- **What an accepted configuration of texts is good for.**  A gate is made of it unless one of the
names it looks for is blank, and then the first such place is blamed, before any request.  The gate has
its secret, and it signs, checks and decides exactly if this serves as a key.  The configuration does
not ask for that: a secret that is set may still look like a key of another kind or describe one, and
then the gate fails on every token that is well-formed, such as one in its header that was signed for
its algorithm, by anyone. -/
theorem Config.accepted_usable {c : Config} (h : c.Accepted) :
    (∀ place, c.names.blankPlace? = some place →
      Gate.ofConfig c none none = .error (.placeName place)) ∧
    (c.names.blankPlace? = none → ∃ g, Gate.ofConfig c none none = .ok g ∧ g.secret = c.secret ∧
      (g.Usable ↔ ∃ key, Key.accept c.secret = .ok key) ∧
      ∀ fault, Key.accept c.secret = .error fault → g.Broken fault ∧
        ∃ name, c.headerName = name.toDatum ∧ ∀ {α : Type} (request : Request) key payload clock nextId
          (next : Option Identity → α), request.constrained = true →
            request.value? ⟨.header, name⟩ =
              some (.text (String.ofList (signedSegments g.algorithm key payload).text)) →
            (g.process request clock nextId next).decision = .error (.key fault)) ∧
    ∀ fault, Key.accept c.secret = .error fault → fault = .asymmetric ∨ fault = .document := by
  obtain ⟨ht, hc⟩ := h.textual
  obtain ⟨a, -, hmade⟩ := Gate.ofConfig_of_check hc
  have hcookie : c.cookieName.truth = true → c.cookieName.IsText := by
    rintro htruth
    rcases ht.cookieName with hnull | htext
    · rw [hnull] at htruth
      cases htruth
    · exact htext
  have husual := Chain.Names.usual_of_texts (n := c.names) ht.headerName ht.parameterName hcookie
  refine ⟨fun place hplace => ?_, fun hnone => ?_, fun fault hfault => ?_⟩
  · rw [hplace] at husual
    rw [hmade, husual]
    rfl
  · rw [hnone] at husual
    obtain ⟨chain, hchain⟩ := husual
    obtain ⟨user, huser⟩ := ht.userIdClaim
    obtain ⟨roles, hroles⟩ := ht.rolesClaim
    rw [hchain] at hmade
    refine ⟨_, hmade, rfl, ⟨fun husable => ?_, fun ⟨key, hk⟩ => ?_⟩, fun fault hfault => ?_⟩
    · rcases hk : Key.accept c.secret with fault | key
      · exact absurd husable (Gate.broken_of_fault hk).not_usable
      · exact ⟨key, rfl⟩
    · exact Gate.usable_of_accept hk (Identity.Mapping.usable_of_texts huser hroles)
    · have hbroken := Gate.broken_of_fault (g := ⟨c.secret, a, c.renew.truth,
        ⟨c.userIdClaim, c.rolesClaim⟩, c.headerName, chain⟩) hfault
      -- the configured header is the first place that the gate looks at
      obtain ⟨name, hname, hpresents⟩ := Gate.presents_of_ofConfig hmade
      exact ⟨hbroken, name, hname, fun request key payload clock nextId next hcon hv =>
        hbroken.decision (hpresents hcon hv) clock nextId next⟩
  · obtain ⟨s, hs⟩ := ht.secret
    obtain ⟨-, htruth, -⟩ := check_eq_ok.1 hc
    rw [hs] at hfault htruth
    refine Key.fault_of_text ?_ hfault
    rintro rfl
    cases htruth

/-- The settings of a secret alone describe a configuration of which a usable gate is made; a cookie
whose name is blank is blamed. -/
theorem Config.accepted_usable_letter : ∃ g,
    ofMapping [("JWT_SECRET", .text "k")] usualStem = .ok { secret := .text "k" } ∧
      Gate.ofConfig { secret := .text "k" } none none = .ok g ∧
      Key.accept (.text "k") = .ok [0x6b] ∧ g.Usable ∧
      (∃ token, sign g.algorithm g.secret [] = .ok token) ∧
      ofMapping [("JWT_SECRET", .text "k"), ("JWT_COOKIE_NAME", .text "\t")] usualStem =
        .ok { secret := .text "k", cookieName := .text "\t" } ∧
      Gate.ofConfig { secret := .text "k", cookieName := .text "\t" } none none =
        .error (.placeName .cookie) := by
  have hletter : ofMapping [("JWT_SECRET", .text "k")] usualStem = .ok { secret := .text "k" } := rfl
  have htab : ofMapping [("JWT_SECRET", .text "k"), ("JWT_COOKIE_NAME", .text "\t")] usualStem =
      .ok { secret := .text "k", cookieName := .text "\t" } := rfl
  obtain ⟨-, hmade, -⟩ := accepted_usable (.described (List.forall_mem_singleton.2 ⟨_, rfl⟩) hletter)
  obtain ⟨g, hg, hsecret, husable, -⟩ := hmade rfl
  obtain ⟨hblamed, -, -⟩ := accepted_usable (.described (List.forall_mem_cons.2
    ⟨⟨_, rfl⟩, List.forall_mem_singleton.2 ⟨_, rfl⟩⟩) htab)
  have hg' := husable.2 ⟨_, accept_letter⟩
  exact ⟨g, hletter, hg, accept_letter, hg', (hg'.signs []).2 ⟨rfl, List.forall_mem_nil _⟩, htab,
    hblamed .cookie rfl⟩

/-- Settings whose secret is a public key. -/
def publicKeySettings : Record Datum := [("JWT_SECRET", .text "ssh-rsa AAAA")]

/-- The gate that is made of them. -/
def publicKeyGate : Gate where
  secret := .text "ssh-rsa AAAA"
  algorithm := .hs256
  renew := false
  mapping := {}
  headerName := .text Source.defaultHeader
  chain := ⟨[.header (.text Source.defaultHeader), .bearer, .parameter (.text Source.defaultParameter)],
    List.cons_ne_nil _ _⟩

/-- **A public key is accepted as a secret, and refused as a key on the first request.**  The settings
describe a configuration and a gate is made of it, but a token in the usual header, signed with any
bytes, ends in a failure. -/
theorem Config.public_key_accepted :
    (∀ e ∈ publicKeySettings, e.2.IsText) ∧
      ofMapping publicKeySettings usualStem = .ok { secret := .text "ssh-rsa AAAA" } ∧
      Gate.ofConfig { secret := .text "ssh-rsa AAAA" } none none = .ok publicKeyGate ∧
      Key.accept publicKeyGate.secret = .error .asymmetric ∧
      ∀ key payload,
        let token := String.ofList (signedSegments publicKeyGate.algorithm key payload).text
        (publicKeyGate.process (Gate.carrying token) (.int 0) 0 fun _ => ()).decision =
          .error (.key .asymmetric) := by
  have hfault : Key.accept publicKeyGate.secret = .error .asymmetric := by decide +kernel
  refine ⟨List.forall_mem_singleton.2 ⟨_, rfl⟩, rfl, rfl, hfault, fun key payload => ?_⟩
  have hpresents : ∀ token, publicKeyGate.Presents (Gate.carrying token) token := fun token =>
    ⟨rfl, .text Source.defaultHeader, [], _, rfl, rfl, fun _ hs => (nomatch hs), rfl⟩
  exact (Gate.broken_of_fault hfault).decision (hpresents _) (.int 0) 0 fun _ => ()

/-- An armoured key and a document that describes a key are refused as keys as well, and both are set.
-/
example :
    Key.accept (.text "-----BEGIN PUBLIC KEY-----\nx\n-----END PUBLIC KEY-----") =
        .error .asymmetric ∧
      Key.accept (.text "\x7b\"kty\": \"oct\"\x7d") = .error .document := by
  decide +kernel

/-- Settings that name a header of one space are accepted, and blamed when the gate is made. -/
example :
    Config.ofMapping [("JWT_SECRET", .text "k"), ("JWT_HEADER_NAME", .text " ")] Config.usualStem =
        .ok { secret := .text "k", headerName := .text " " } ∧
      Gate.ofConfig { secret := .text "k", headerName := .text " " } none none =
        .error (.placeName .header) :=
  ⟨rfl, rfl⟩

end TokenGate
