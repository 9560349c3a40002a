/-
Which source a token comes from.

A source reads the tokens that the value it finds yields (`read?_eq_some_iff`).  A chain asks its
sources in their order, up to the first that reads a token, and takes one look for each that it asks
(`search_eq_iff`).  A source that finds nothing but blanks counts as one that finds nothing, so that
requests which differ in this alone are searched alike (`search_congr`).

`chain_search` is the main result, for chains of any sources in any number.  For the usual chain it
spells out the order: the header, the bearer scheme, the parameter, and then the cookie, which is
looked at only if one is named and the others have no token.
-/
import TokenGate.Proofs.Outcome
import TokenGate.Proofs.Source.Bearer

namespace TokenGate

/-! ### Blank values -/

/-- Nothing stands there, or only blanks do. -/
def Void (value? : Option RawText) : Prop := ∀ value, value? = some value → value.blank = true

theorem Void.none : Void none := by
  rintro value ⟨⟩

namespace Request

/-- At each place the requests have the same value, or neither has more than blanks. -/
def SameButBlank (r r' : Request) : Prop :=
  ∀ l, r.value? l = r'.value? l ∨ Void (r.value? l) ∧ Void (r'.value? l)

theorem lastValue?_append (pairs extra : List (String × RawText)) (name : String) :
    lastValue? (pairs ++ extra) name = (lastValue? extra name).or (lastValue? pairs name) := by
  rw [lastValue?, List.reverse_append, List.find?_append, Option.map_or]
  rfl

/-- Names that have no value may be given blanks. -/
theorem lastValue?_or_void {pairs extra : List (String × RawText)}
    (h : ∀ e ∈ extra, lastValue? pairs e.1 = none ∧ e.2.blank = true) (name : String) :
    lastValue? pairs name = lastValue? (pairs ++ extra) name ∨
      Void (lastValue? pairs name) ∧ Void (lastValue? (pairs ++ extra) name) := by
  rw [lastValue?_append]
  rcases hextra : lastValue? extra name with - | value
  · exact .inl (Option.none_or).symm
  · obtain ⟨e, hfind, rfl⟩ := Option.map_eq_some_iff.1 hextra
    obtain ⟨habsent, hblank⟩ := h e (List.mem_reverse.1 (List.mem_of_find?_eq_some hfind))
    have hname := List.find?_some (p := fun pair : String × RawText => pair.1 == name) hfind
    rw [beq_iff_eq.1 hname] at habsent
    refine .inr ⟨habsent ▸ .none, ?_⟩
    rintro value ⟨⟩
    exact hblank

/-- Blanks under names that are not there make no difference. -/
theorem sameButBlank_ofPairs {constrained : Bool}
    {headers headers' parameters parameters' cookies cookies' : List (String × RawText)}
    (hh : ∀ e ∈ headers', headerValue? headers e.1 = none ∧ e.2.blank = true)
    (hp : ∀ e ∈ parameters', lastValue? parameters e.1 = none ∧ e.2.blank = true)
    (hc : ∀ e ∈ cookies', lastValue? cookies e.1 = none ∧ e.2.blank = true) :
    (ofPairs constrained headers parameters cookies).SameButBlank
      (ofPairs constrained (headers ++ headers') (parameters ++ parameters')
        (cookies ++ cookies')) := by
  rintro ⟨place, name | name⟩
  · cases place with
    | header =>
      show headerValue? _ _ = headerValue? _ _ ∨ Void (headerValue? _ _) ∧ Void (headerValue? _ _)
      rw [headerValue?, headerValue?, List.map_append]
      refine lastValue?_or_void (fun e he => ?_) (Text.lower name)
      obtain ⟨entry, hentry, rfl⟩ := List.mem_map.1 he
      exact hh entry hentry
    | parameter => exact lastValue?_or_void hp name
    | cookie => exact lastValue?_or_void hc name
  · exact .inl rfl

end Request

namespace Source

open Text

variable {r r' : Request} {sources : List Source} {answer : Option RawText} {looks : List Lookup}
  {value token : RawText}

/-! ### One source -/

/-- What a value holds for a source: the token without the blanks around it, and behind the scheme for
the bearer scheme. -/
inductive Yields : Source → RawText → RawText → Prop
  | bearer {value token : String} (h : Bears value token) :
      Yields .bearer (.text value) (.text token)
  | bearerTorn {value token : Torn} (h : BearsTorn value token) :
      Yields .bearer (.torn value) (.torn token)
  | plain {s : Source} {value token : String} (hs : s ≠ .bearer) (hne : token.toList ≠ [])
      (h : Trims value.toList token.toList) : Yields s (.text value) (.text token)
  | plainTorn {s : Source} {value token : Torn} (hs : s ≠ .bearer) (h : TrimsTorn value token) :
      Yields s (.torn value) (.torn token)

theorem textToken?_of_ne_bearer {s : Source} (hs : s ≠ .bearer) (value : String) :
    s.textToken? value = clean? value := by
  cases s with
  | bearer => exact absurd rfl hs
  | header | parameter | cookie => rfl

theorem tornToken?_of_ne_bearer {s : Source} (hs : s ≠ .bearer) (value : Torn) :
    s.tornToken? value = some value.trim := by
  cases s with
  | bearer => exact absurd rfl hs
  | header | parameter | cookie => rfl

theorem yields_text_iff {s : Source} {value token : String} :
    s.Yields (.text value) (.text token) ↔ s.textToken? value = some token := by
  by_cases hs : s = .bearer
  · subst hs
    rw [textToken?, bearerToken?_eq_some_iff]
    refine ⟨fun h => ?_, .bearer⟩
    cases h with
    | bearer h => exact h
    | plain hs _ _ => exact absurd rfl hs
  · rw [textToken?_of_ne_bearer hs, clean?_eq_some_iff]
    refine ⟨fun h => ?_, fun h => .plain hs h.1 h.2⟩
    cases h with
    | bearer _ => exact absurd rfl hs
    | plain _ hne h => exact ⟨hne, h⟩

theorem yields_torn_iff {s : Source} {value token : Torn} :
    s.Yields (.torn value) (.torn token) ↔ s.tornToken? value = some token := by
  by_cases hs : s = .bearer
  · subst hs
    rw [tornToken?, bearerTorn?_eq_some_iff]
    refine ⟨fun h => ?_, .bearerTorn⟩
    cases h with
    | bearerTorn h => exact h
    | plainTorn hs _ => exact absurd rfl hs
  · rw [tornToken?_of_ne_bearer hs, Option.some.injEq, trim_eq_iff]
    refine ⟨fun h => ?_, .plainTorn hs⟩
    cases h with
    | bearerTorn _ => exact absurd rfl hs
    | plainTorn _ h => exact h

/-- **A source reads what the value that it finds yields.** -/
theorem read?_eq_some_iff {s : Source} : s.read? r = some token ↔
    ∃ value, r.value? s.lookup = some value ∧ s.Yields value token := by
  rcases token with token | token
  · rw [read?_eq_text_iff]
    constructor
    · rintro ⟨value, hvalue, h⟩
      exact ⟨.text value, hvalue, yields_text_iff.2 h⟩
    · rintro ⟨value | value, hvalue, h⟩
      · exact ⟨value, hvalue, yields_text_iff.1 h⟩
      · cases h
  · rw [read?_eq_torn_iff]
    constructor
    · rintro ⟨value, hvalue, h⟩
      exact ⟨.torn value, hvalue, yields_torn_iff.2 h⟩
    · rintro ⟨value | value, hvalue, h⟩
      · cases h
      · exact ⟨value, hvalue, yields_torn_iff.1 h⟩

theorem Yields.trimmed {s : Source} (h : s.Yields value token) : Trimmed token := by
  cases h with
  | bearer h =>
    obtain ⟨scheme, rest, -, -, htoken, hne⟩ := h
    exact trimmed_of_trims hne htoken
  | bearerTorn h =>
    obtain ⟨scheme, rest, after, -, -, htoken⟩ := h
    exact htoken.trimmed
  | plain _ hne h => exact trimmed_of_trims hne h
  | plainTorn _ h => exact h.trimmed

theorem clean?_of_blank {value : String} (h : Text.blank value = true) : clean? value = none := by
  have htrim : trimChars value.toList = [] := trimChars_eq_nil_iff.2 (List.all_eq_true.1 h)
  rw [clean?, trim, htrim]
  rfl

theorem token?_of_blank (s : Source) (h : value.blank = true) : s.token? value = none := by
  rcases value with value | value
  · refine Option.map_eq_none_iff.2 ?_
    cases s with
    | bearer =>
      show bearerToken? value = none
      rw [bearerToken?, clean?_of_blank h]
    | header | parameter | cookie =>
      show clean? value = none
      exact clean?_of_blank h
  · cases h

/-- No token is read where there is nothing but blanks. -/
theorem read?_of_void {s : Source} (h : Void (r.value? s.lookup)) : s.read? r = none := by
  rw [read?, Option.bind_eq_none_iff]
  intro value hvalue
  exact s.token?_of_blank (h value hvalue)

theorem read?_congr (h : r.SameButBlank r') (s : Source) : s.read? r = s.read? r' := by
  rcases h s.lookup with he | ⟨hr, hr'⟩
  · rw [read?, read?, he]
  · rw [read?_of_void hr, read?_of_void hr']

/-! ### Sources in order -/

/-- The sources that are asked: all of them up to the first that reads a token, and all if none does.
Each takes its one look. -/
inductive Finds (r : Request) : List Source → Option RawText → List Lookup → Prop
  | found {before after : List Source} {s : Source} {token : RawText}
      (hb : ∀ s ∈ before, s.read? r = none) (hs : s.read? r = some token) :
      Finds r (before ++ s :: after) (some token) (before.map lookup ++ [s.lookup])
  | nothing {sources : List Source} (h : ∀ s ∈ sources, s.read? r = none) :
      Finds r sources none (sources.map lookup)

theorem finds_search (r : Request) (sources : List Source) :
    Finds r sources (search r sources).1 (search r sources).2 := by
  induction sources with
  | nil => exact .nothing (List.forall_mem_nil _)
  | cons s rest ih =>
    rw [search]
    rcases hs : s.read? r with - | token
    · dsimp only
      -- one more source is asked before those that the rest asks
      generalize (search r rest).1 = answer at ih ⊢
      generalize (search r rest).2 = looks at ih ⊢
      cases ih with
      | @found before after found token hb hfound =>
        have hbefore : ∀ s' ∈ s :: before, s'.read? r = none := List.forall_mem_cons.2 ⟨hs, hb⟩
        exact .found hbefore hfound
      | nothing h => exact .nothing (List.forall_mem_cons.2 ⟨hs, h⟩)
    · have hbefore : ∀ s' ∈ ([] : List Source), s'.read? r = none := List.forall_mem_nil _
      exact .found hbefore hs

/-- **Sources are asked in their order, up to the first that reads a token.** -/
theorem search_eq_iff : search r sources = (answer, looks) ↔ Finds r sources answer looks := by
  constructor
  · intro h
    have hfinds := finds_search r sources
    rwa [h] at hfinds
  · intro h
    cases h with
    | found hb hs =>
      rw [search_append hb, search, hs]
    | nothing h =>
      have hall : search r (sources ++ []) = _ := search_append h
      rw [List.append_nil, search, List.append_nil] at hall
      exact hall

theorem Finds.trimmed (h : Finds r sources (some token) looks) : Trimmed token := by
  cases h with
  | found _ hs =>
    obtain ⟨value, -, htoken⟩ := read?_eq_some_iff.1 hs
    exact htoken.trimmed

theorem search_congr (h : r.SameButBlank r') (sources : List Source) :
    search r sources = search r' sources := by
  induction sources with
  | nil => rfl
  | cons s rest ih => rw [search, search, read?_congr h, ih]

end Source

/-! ### Chains -/

namespace Chain

open Source

variable {c : Chain} {names : Names}

/-- The chain asks the usual sources under the given names, and a cookie only if one is named. -/
structure Usual (names : Names) (header parameter : PlaceName) (cookie? : Option PlaceName)
    (c : Chain) : Prop where
  headerName : PlaceName.ofDatum .header names.header = .ok header
  parameterName : PlaceName.ofDatum .parameter names.parameter = .ok parameter
  named : cookie?.isSome = names.cookie.truth
  cookieName : ∀ name ∈ cookie?, PlaceName.ofDatum .cookie names.cookie = .ok name
  sources : c.sources =
    [.header header, .bearer, .parameter parameter] ++ (cookie?.map Source.cookie).toList

theorem ofSources_eq_ok {sources : List Source} (h : ofSources sources = .ok c) :
    c.sources = sources := by
  rw [ofSources] at h
  split at h
  · cases h
  · cases h
    rfl

theorem exists_usual (h : usual names = .ok c) :
    ∃ header parameter cookie?, Usual names header parameter cookie? c := by
  obtain ⟨sources, hsources, hc⟩ := bind_eq_ok.1 h
  have hmade := ofSources_eq_ok hc
  simp only [Names.sources, List.mapM_append, List.mapM_cons, List.mapM_nil, bind_eq_ok, ofDescription,
    map_eq_ok, Option.getD_some, pure, Except.pure, Except.ok.injEq, exists_eq_left'] at hsources
  obtain ⟨-, ⟨-, ⟨header, hheader, rfl⟩, -, ⟨-, ⟨-, ⟨parameter, hparameter, rfl⟩, rfl⟩, rfl⟩, rfl⟩,
    cookies, hcookies, rfl⟩ := hsources
  -- without a name there is no cookie among the sources
  split at hcookies
  · next hnamed =>
    obtain ⟨-, ⟨cookie, hcookie, rfl⟩, rfl⟩ := by
      simpa only [List.mapM_cons, List.mapM_nil, bind_eq_ok, ofDescription, map_eq_ok, pure,
        Except.pure, Except.ok.injEq, exists_eq_left'] using hcookies
    refine ⟨header, parameter, some cookie, hheader, hparameter, hnamed.symm, ?_, hmade⟩
    rintro name ⟨⟩
    exact hcookie
  · next hnamed =>
    cases hcookies
    refine ⟨header, parameter, none, hheader, hparameter, (Bool.eq_false_iff.2 hnamed).symm, ?_, hmade⟩
    rintro name ⟨⟩

section Usual

variable {header parameter : PlaceName} {cookie? : Option PlaceName}

/-- The order of the usual sources, and the looks that are taken at cookies. -/
theorem Usual.search (h : Usual names header parameter cookie? c) (r : Request) :
    (c.search r).1 = ((Source.header header).read? r).or ((bearer.read? r).or
        (((Source.parameter parameter).read? r).or
          (cookie?.bind fun name => (Source.cookie name).read? r))) ∧
      ((∃ l ∈ (c.search r).2, l.place = .cookie) ↔ names.cookie.truth = true ∧
        (Source.header header).read? r = none ∧ bearer.read? r = none ∧
        (Source.parameter parameter).read? r = none) := by
  rw [Chain.search, h.sources, ← h.named]
  -- the first source with a token ends the search, and only the last one looks at a cookie
  rcases hh : (Source.header header).read? r with - | token
  · rcases hb : bearer.read? r with - | token
    · rcases hp : (Source.parameter parameter).read? r with - | token
      · rcases cookie? with - | cookie
        · simp [Source.search, lookup, hh, hb, hp]
        · rcases hc : (Source.cookie cookie).read? r with - | token
          · simp [Source.search, lookup, hh, hb, hp, hc]
          · simp [Source.search, lookup, hh, hb, hp, hc]
      · simp [Source.search, lookup, hh, hb, hp]
    · simp [Source.search, lookup, hh, hb]
  · simp [Source.search, lookup, hh]

end Usual

/-- **A chain takes its token from the first of its sources that has one**, after one look for each
source up to this one, and the token is trimmed and not empty.  A source has a token if the value that
it finds yields one; blanks count as nothing.  The usual chain asks the header, the bearer scheme, the
parameter and then the cookie, and looks at no cookie unless one is named. -/
theorem chain_search (c : Chain) (r : Request) :
    (∀ answer looks, c.search r = (answer, looks) ↔ Finds r c.sources answer looks) ∧
      (∀ (s : Source) token, s.read? r = some token ↔
        ∃ value, r.value? s.lookup = some value ∧ s.Yields value token) ∧
      (∀ token, (c.search r).1 = some token → Trimmed token) ∧
      (∀ r', r.SameButBlank r' → c.search r' = c.search r) ∧
      ∀ names, usual names = .ok c → ∃ header parameter cookie?,
        Usual names header parameter cookie? c ∧
        (c.search r).1 = ((Source.header header).read? r).or ((bearer.read? r).or
          (((Source.parameter parameter).read? r).or
            (cookie?.bind fun name => (Source.cookie name).read? r))) ∧
        ((∃ l ∈ (c.search r).2, l.place = .cookie) ↔ names.cookie.truth = true ∧
          (Source.header header).read? r = none ∧ bearer.read? r = none ∧
          (Source.parameter parameter).read? r = none) := by
  refine ⟨fun answer looks => search_eq_iff, fun s token => read?_eq_some_iff, fun token ht => ?_,
    fun r' hr => (search_congr hr c.sources).symm, fun names h => ?_⟩
  · have hfinds := finds_search r c.sources
    change (Source.search r c.sources).1 = some token at ht
    rw [ht] at hfinds
    exact hfinds.trimmed
  · obtain ⟨header, parameter, cookie?, husual⟩ := exists_usual h
    exact ⟨header, parameter, cookie?, husual, husual.search r⟩

/-- The usual sources and a cookie. -/
def withCookie : Chain where
  sources := [.header (.text defaultHeader), .bearer, .parameter (.text defaultParameter),
    .cookie (.text "session")]
  nonempty := by simp

/-- A token in a cookie, behind a header of another scheme. -/
def inCookie : Request := .ofPairs true [(authorizationHeader, "Basic T")] [] [("session", " T ")]

/-- The same with a blank header and an empty parameter. -/
def inCookieAmongBlanks : Request :=
  .ofPairs true [(authorizationHeader, "Basic T"), (defaultHeader, " \t")] [(defaultParameter, "")]
    [("session", " T ")]

/-- The cookie is asked last, and blanks in the places before it do not hide it. -/
theorem chain_search_inCookie :
    usual { cookie := .text "session" } = .ok withCookie ∧
      inCookie.SameButBlank inCookieAmongBlanks ∧
      withCookie.search inCookieAmongBlanks = withCookie.search inCookie ∧
      withCookie.search inCookie =
        (some (.text "T"), [⟨.header, .text "X-Auth"⟩, ⟨.header, .text "Authorization"⟩,
          ⟨.parameter, .text "access_token"⟩, ⟨.cookie, .text "session"⟩]) := by
  have hblank : inCookie.SameButBlank inCookieAmongBlanks :=
    Request.sameButBlank_ofPairs
      (List.forall_mem_singleton.2 ⟨by decide +kernel, by decide⟩)
      (List.forall_mem_singleton.2 ⟨by decide, by decide⟩) (List.forall_mem_nil _)
  obtain ⟨hfinds, -, -, hsame, -⟩ := chain_search withCookie inCookie
  refine ⟨rfl, hblank, hsame _ hblank, (hfinds _ _).2 ?_⟩
  have hnothing : ∀ s ∈ [Source.header (.text defaultHeader), .bearer,
      .parameter (.text defaultParameter)], s.read? inCookie = none := by
    decide +kernel
  exact .found hnothing (by decide +kernel)

end Chain

end TokenGate
