/-
A token in its place is found.

Sources trim what they find (`clean?_eq_some_iff`), and the bearer scheme is cut off.  `Wraps`
describes the values in which a source has a token: with blanks around it, and with the scheme before
it where one belongs, in any case of its letters.  A text without blanks is read out of such a value
as it stands (`textToken?_of_wraps`), a signed token is such a text (`clean_signed`), and a chain finds it
if the sources that are asked before read nothing (`search_of_read?`).
-/
import Mathlib.Data.Bool.AllAny
import Mathlib.Data.List.Forall2
import TokenGate.Proofs.Token.RoundTrip
import TokenGate.Source

namespace TokenGate

/-! ### Trimming -/

namespace Text

/-- Blanks, or nothing. -/
def Blanks (cs : List Char) : Prop := ∀ c ∈ cs, isBlank c = true

theorem Blanks.nil : Blanks [] := List.forall_mem_nil _

section Ends

variable {α : Type} {p : α → Bool} {items : List α} {a : α}

theorem dropWhile_of_head (h : ∀ a ∈ items.head?, p a = false) : items.dropWhile p = items := by
  rcases items with - | ⟨a, items⟩
  · rfl
  · have ha : p a = false := h a rfl
    simp [ha]

theorem of_mem_head?_dropWhile (h : a ∈ (items.dropWhile p).head?) : p a = false := by
  have hhead := List.head?_dropWhile_not p items
  rw [h] at hhead
  simpa using hhead

theorem of_mem_getLast?_dropEndWhile (h : a ∈ (dropEndWhile p items).getLast?) : p a = false := by
  rw [dropEndWhile, List.getLast?_reverse] at h
  exact of_mem_head?_dropWhile h

/-- What is dropped at the end satisfies the predicate. -/
theorem exists_dropEndWhile (p : α → Bool) (items : List α) :
    ∃ tail, (∀ a ∈ tail, p a = true) ∧ items = dropEndWhile p items ++ tail := by
  refine ⟨(items.reverse.takeWhile p).reverse, fun a ha => ?_, ?_⟩
  · exact List.all_eq_true.1 List.all_takeWhile _ (List.mem_reverse.1 ha)
  · rw [dropEndWhile, ← List.reverse_append, List.takeWhile_append_dropWhile, List.reverse_reverse]

/-- Items are dropped at the end up to the last that does not satisfy the predicate. -/
theorem dropEndWhile_append {core tail : List α} (ht : ∀ a ∈ tail, p a = true)
    (hlast : ∀ a ∈ core.getLast?, p a = false) : dropEndWhile p (core ++ tail) = core := by
  rw [dropEndWhile, List.reverse_append,
    List.dropWhile_append_of_pos fun a ha => ht a (List.mem_reverse.1 ha), dropWhile_of_head,
    List.reverse_reverse]
  rwa [List.head?_reverse]

end Ends

/-- Trimming takes off blanks, up to the first and the last character that are none. -/
theorem trimChars_surrounded {before core after : List Char} (hb : Blanks before) (ha : Blanks after)
    (hne : core ≠ []) (hhead : ∀ c ∈ core.head?, isBlank c = false)
    (hlast : ∀ c ∈ core.getLast?, isBlank c = false) :
    trimChars (before ++ (core ++ after)) = core := by
  have hfront : (core ++ after).dropWhile isBlank = core ++ after := by
    refine dropWhile_of_head fun c hc => hhead c ?_
    rwa [List.head?_append_of_ne_nil _ hne] at hc
  rw [trimChars, List.dropWhile_append_of_pos hb, hfront, trimEndChars, dropEndWhile_append ha hlast]

/-- The text is the core with blanks around it, and the core has none at its ends. -/
structure Trims (text core : List Char) : Prop where
  around : ∃ before after, Blanks before ∧ Blanks after ∧ text = before ++ (core ++ after)
  head : ∀ c ∈ core.head?, isBlank c = false
  last : ∀ c ∈ core.getLast?, isBlank c = false

theorem blanks_takeWhile (cs : List Char) : Blanks (cs.takeWhile isBlank) :=
  fun _ hc => List.all_eq_true.1 (List.all_takeWhile) _ hc

/-- What trimming leaves is the text without the blanks around it. -/
theorem trims_trimChars (text : List Char) : Trims text (trimChars text) := by
  obtain ⟨tail, htail, hsplit⟩ := exists_dropEndWhile isBlank (text.dropWhile isBlank)
  change text.dropWhile isBlank = trimChars text ++ tail at hsplit
  refine ⟨⟨text.takeWhile isBlank, tail, blanks_takeWhile text, htail, ?_⟩, fun c hc => ?_,
    fun c hc => of_mem_getLast?_dropEndWhile hc⟩
  · rw [← hsplit, List.takeWhile_append_dropWhile]
  · have hfirst : c ∈ (text.dropWhile isBlank).head? := by
      rw [hsplit, List.head?_append, Option.mem_def.1 hc, Option.some_or]
      rfl
    exact of_mem_head?_dropWhile hfirst

theorem trimChars_eq_iff {text core : List Char} : trimChars text = core ↔ Trims text core := by
  constructor
  · rintro rfl
    exact trims_trimChars text
  · rintro ⟨⟨before, after, hb, ha, rfl⟩, hhead, hlast⟩
    by_cases hne : core = []
    · subst hne
      refine trimChars_eq_nil_iff.2 fun c hc => ?_
      rcases List.mem_append.1 hc with hc | hc
      · exact hb c hc
      · exact ha c hc
    · exact trimChars_surrounded hb ha hne hhead hlast

/-- A word in any case of its letters: each of them small or capital. -/
def AnyCase (written word : List Char) : Prop :=
  List.Forall₂ (fun c d => c = d ∨ c = d.toUpper) written word

end Text

theorem Base64Url.isBlank_of_mem_encode {bytes : List UInt8} {c : Char} (h : c ∈ encode bytes) :
    Text.isBlank c = false := by
  obtain ⟨n, hn, rfl⟩ := mem_encode h
  exact (show ∀ m < 64, Text.isBlank (symbol m) = false by decide) n hn

namespace Token

variable {algorithm : Algorithm} {secret : Datum} {payload : Record Datum} {token : String}

theorem not_blank_of_mem_signed (algorithm : Algorithm) (key : List UInt8) (payload : Record Datum) :
    ∀ c ∈ (signedSegments algorithm key payload).text, Text.isBlank c = false := by
  intro c hc
  rw [Segments.text, Segments.signingInput, List.mem_append, List.mem_append, List.mem_cons,
    List.mem_cons] at hc
  rcases hc with (hc | rfl | hc) | rfl | hc
  · exact Base64Url.isBlank_of_mem_encode hc
  · rfl
  · exact Base64Url.isBlank_of_mem_encode hc
  · rfl
  · exact Base64Url.isBlank_of_mem_encode hc

end Token

/-! ### Values with a token in them -/

namespace Source

open Text

variable {request : Request} {source : Source} {token value : String}

/-- A token that trimming leaves as it is: not empty, and without a blank. -/
structure Clean (token : String) : Prop where
  ne_nil : token.toList ≠ []
  solid : ∀ c ∈ token.toList, isBlank c = false

/-- What stands before the token: the bearer scheme with a space, in any case of its letters, in the
authorization header, and nothing in the other places. -/
inductive Leads : Source → List Char → Prop
  | header (name : PlaceName) : Leads (.header name) []
  | bearer {scheme gap : List Char} (hs : AnyCase scheme "bearer".toList) (hg : Blanks gap) :
      Leads .bearer (scheme ++ ' ' :: gap)
  | parameter (name : PlaceName) : Leads (.parameter name) []
  | cookie (name : PlaceName) : Leads (.cookie name) []

/-- The value is the token for the source, with any blanks around it. -/
def Wraps (source : Source) (token value : String) : Prop :=
  ∃ before lead after, Blanks before ∧ source.Leads lead ∧ Blanks after ∧
    value.toList = before ++ (lead ++ token.toList ++ after)

theorem clean?_of_trimChars {core : List Char} (h : trimChars value.toList = core) (hne : core ≠ []) :
    clean? value = some (String.ofList core) := by
  have hnot : (String.ofList core).isEmpty = false := by
    simp [String.isEmpty_eq_false_iff, hne]
  simp [clean?, trim, h, hnot]

/-- A value is read as a token exactly if the token is left of it, without the blanks around it. -/
theorem clean?_eq_some_iff :
    clean? value = some token ↔ token.toList ≠ [] ∧ Trims value.toList token.toList := by
  constructor
  · intro h
    rw [clean?] at h
    split at h
    · cases h
    · next hne =>
      cases h
      rw [trim, String.toList_ofList]
      refine ⟨?_, trims_trimChars _⟩
      rintro hnil
      exact hne (by rw [trim, hnil]; rfl)
  · rintro ⟨hne, htrims⟩
    rw [clean?_of_trimChars (trimChars_eq_iff.2 htrims) hne, String.ofList_toList]

/-- A received text that is not empty, with no blank at its ends. -/
structure Trimmed (token : RawText) : Prop where
  ne_nil : token.codePoints ≠ []
  head : ∀ c ∈ token.codePoints.head?, c.isBlank = false
  last : ∀ c ∈ token.codePoints.getLast?, c.isBlank = false

theorem trimmed_of_trims {text : List Char} (hne : token.toList ≠ [])
    (htrims : Trims text token.toList) : Trimmed (.text token) := by
  refine ⟨fun hnil => hne (List.map_eq_nil_iff.1 hnil), ?_, ?_⟩
  · intro c hc
    rw [RawText.codePoints, List.head?_map] at hc
    obtain ⟨d, hd, rfl⟩ := Option.map_eq_some_iff.1 hc
    exact htrims.head d hd
  · intro c hc
    rw [RawText.codePoints, List.getLast?_map] at hc
    obtain ⟨d, hd, rfl⟩ := Option.map_eq_some_iff.1 hc
    exact htrims.last d hd

/-- A half is no blank, so that only what stands before the first half, and after it, is looked at. -/
theorem trimmed_torn_iff {t : Torn} : Trimmed (.torn t) ↔
    (∀ c ∈ t.before.toList.head?, isBlank c = false) ∧
      ∀ c ∈ t.after.getLast?, c.isBlank = false := by
  constructor
  · rintro ⟨-, hhead, hlast⟩
    refine ⟨fun c hc => hhead (.char c) ?_, fun c hc => hlast c ?_⟩
    · rw [RawText.codePoints, Torn.codePoints, List.head?_append, List.head?_map, Option.mem_def.1 hc]
      rfl
    · rw [RawText.codePoints, Torn.codePoints, List.getLast?_append, List.getLast?_cons,
        Option.mem_def.1 hc]
      rfl
  · rintro ⟨hbefore, hafter⟩
    refine ⟨List.append_ne_nil_of_right_ne_nil _ (List.cons_ne_nil _ _), fun c hc => ?_,
      fun c hc => ?_⟩
    · rw [RawText.codePoints, Torn.codePoints, List.head?_append, List.head?_map] at hc
      rcases hfirst : t.before.toList.head? with - | d
      · rw [hfirst] at hc
        obtain rfl := Option.some.inj hc
        rfl
      · rw [hfirst] at hc
        obtain rfl := Option.some.inj hc
        exact hbefore d hfirst
    · rw [RawText.codePoints, Torn.codePoints, List.getLast?_append, List.getLast?_cons] at hc
      rcases hend : t.after.getLast? with - | d
      · rw [hend] at hc
        obtain rfl := Option.some.inj hc
        rfl
      · rw [hend] at hc
        obtain rfl := Option.some.inj hc
        exact hafter d hend

/-- The torn text is the core with blanks around it, and the core has none at its ends. -/
structure TrimsTorn (text core : Torn) : Prop where
  around : ∃ before after, Blanks before ∧ (∀ c ∈ after, c.isBlank = true) ∧
    text.before.toList = before ++ core.before.toList ∧ text.after = core.after ++ after
  half : text.half = core.half
  trimmed : Trimmed (.torn core)

theorem trimsTorn_trim (text : Torn) : TrimsTorn text text.trim := by
  obtain ⟨after, hafter, hsplit⟩ := exists_dropEndWhile CodePoint.isBlank text.after
  refine ⟨⟨text.before.toList.takeWhile isBlank, after, blanks_takeWhile _, hafter, ?_, hsplit⟩, rfl,
    trimmed_torn_iff.2 ⟨fun c hc => ?_, fun c hc => of_mem_getLast?_dropEndWhile hc⟩⟩
  · rw [Torn.trim, String.toList_ofList, List.takeWhile_append_dropWhile]
  · rw [Torn.trim, String.toList_ofList] at hc
    exact of_mem_head?_dropWhile hc

theorem trim_eq_iff {text core : Torn} : text.trim = core ↔ TrimsTorn text core := by
  constructor
  · rintro rfl
    exact trimsTorn_trim text
  · rintro ⟨⟨before, after, hb, ha, hbefore, hafter⟩, hhalf, htrimmed⟩
    obtain ⟨hhead, hlast⟩ := trimmed_torn_iff.1 htrimmed
    rw [Torn.trim, hbefore, List.dropWhile_append_of_pos hb, dropWhile_of_head hhead,
      String.ofList_toList, hafter, dropEndWhile_append ha hlast, hhalf]

namespace Clean

variable (ht : Clean token)

include ht

theorem head?_solid (c : Char) (hc : c ∈ token.toList.head?) : isBlank c = false :=
  ht.solid c (List.mem_of_mem_head? hc)

theorem getLast?_solid (c : Char) (hc : c ∈ token.toList.getLast?) : isBlank c = false :=
  ht.solid c (List.mem_of_mem_getLast? hc)

/-- Blanks around a token are not read. -/
theorem clean?_eq {before after : List Char} (hb : Blanks before) (ha : Blanks after)
    (hv : value.toList = before ++ (token.toList ++ after)) : clean? value = some token := by
  have htrim : trimChars value.toList = token.toList := by
    rw [hv]
    exact trimChars_surrounded hb ha ht.ne_nil ht.head?_solid ht.getLast?_solid
  rw [clean?_of_trimChars htrim ht.ne_nil, String.ofList_toList]

theorem clean?_self : clean? token = some token :=
  ht.clean?_eq .nil .nil (by simp)

end Clean

section Scheme

variable {scheme : List Char} (hs : AnyCase scheme "bearer".toList)

include hs

/-- The small form of the scheme's letters is the scheme. -/
theorem flatMap_lowerChar_scheme : scheme.flatMap lowerChar = "bearer".toList := by
  have hletters : ∀ d ∈ "bearer".toList, lowerChar d = [d] ∧ lowerChar d.toUpper = [d] :=
    List.all_iff_forall_prop.1 (by decide)
  generalize "bearer".toList = word at hs hletters
  induction hs with
  | nil => rfl
  | @cons c d written word hc _ ih =>
    obtain ⟨⟨hsmall, hcapital⟩, hword⟩ := List.forall_mem_cons.1 hletters
    have hlower : lowerChar c = [d] := by
      rcases hc with rfl | rfl
      · exact hsmall
      · exact hcapital
    rw [List.flatMap_cons, hlower, ih hword, List.singleton_append]

theorem head?_scheme (rest : List Char) : ∀ c ∈ (scheme ++ rest).head?, isBlank c = false := by
  cases hs with
  | @cons c d written word hc _ =>
    rintro c' ⟨⟩
    rcases hc with rfl | rfl
    · decide
    · decide

theorem starts_scheme (rest : List Char) :
    bearerScheme.isPrefixOf (lower (String.ofList (scheme ++ ' ' :: rest))).toList = true := by
  have hspace : lowerChar ' ' = [' '] := by decide
  have hlower : (scheme ++ ' ' :: rest).flatMap lowerChar = bearerScheme ++ rest.flatMap lowerChar := by
    rw [List.flatMap_append, flatMap_lowerChar_scheme hs, List.flatMap_cons, hspace,
      ← List.append_assoc]
    rfl
  rw [List.isPrefixOf_iff_prefix, lower, String.toList_ofList, String.toList_ofList, hlower]
  exact List.prefix_append _ _

theorem drop_scheme (rest : List Char) :
    (scheme ++ ' ' :: rest).drop bearerScheme.length = rest := by
  have hlength : (scheme ++ [' ']).length = bearerScheme.length := by
    rw [List.length_append, hs.length_eq]
    rfl
  have hsplit : scheme ++ ' ' :: rest = (scheme ++ [' ']) ++ rest := by simp
  rw [hsplit, List.drop_left' hlength]

/-- The token is what follows the scheme, without the blanks on either side of it. -/
theorem bearerToken?_eq (ht : Clean token) {before gap after : List Char} (hb : Blanks before)
    (hg : Blanks gap) (ha : Blanks after)
    (hv : value.toList = before ++ (scheme ++ ' ' :: gap ++ token.toList ++ after)) :
    bearerToken? value = some token := by
  have hcore : scheme ++ ' ' :: gap ++ token.toList = scheme ++ ' ' :: (gap ++ token.toList) := by simp
  have hlast : ∀ c ∈ (scheme ++ ' ' :: gap ++ token.toList).getLast?, isBlank c = false := by
    intro c hc
    rw [List.getLast?_append_of_ne_nil _ ht.ne_nil] at hc
    exact ht.getLast?_solid c hc
  rw [hcore] at hv hlast
  have htrim : trimChars value.toList = scheme ++ ' ' :: (gap ++ token.toList) := by
    rw [hv]
    exact trimChars_surrounded hb ha (by simp) (head?_scheme hs _) hlast
  have hrest : clean? (String.ofList (gap ++ token.toList)) = some token :=
    ht.clean?_eq hg .nil (by simp)
  rw [bearerToken?, clean?_of_trimChars htrim (by simp)]
  dsimp only
  rw [if_pos (starts_scheme hs _), String.toList_ofList, drop_scheme hs, hrest]

end Scheme

/-- **A source reads the token out of a value that wraps it.** -/
theorem textToken?_of_wraps (ht : Clean token) (h : source.Wraps token value) :
    source.textToken? value = some token := by
  obtain ⟨before, lead, after, hb, hl, ha, hv⟩ := h
  cases hl with
  | bearer hs hg =>
    show bearerToken? value = some token
    exact bearerToken?_eq hs ht hb hg ha hv
  | header | parameter | cookie =>
    show clean? value = some token
    exact ht.clean?_eq hb ha hv

/-- A text is read out of texts. -/
theorem read?_eq_text_iff : source.read? request = some (.text token) ↔
    ∃ value, request.value? source.lookup = some (.text value) ∧
      source.textToken? value = some token := by
  rw [read?, Option.bind_eq_some_iff]
  constructor
  · rintro ⟨value | torn, hv, h⟩
    · obtain ⟨found, hfound, ⟨⟩⟩ := Option.map_eq_some_iff.1 h
      exact ⟨value, hv, hfound⟩
    · obtain ⟨found, -, ⟨⟩⟩ := Option.map_eq_some_iff.1 h
  · rintro ⟨value, hv, h⟩
    exact ⟨.text value, hv, Option.map_eq_some_iff.2 ⟨token, h, rfl⟩⟩

/-- A torn token is read out of torn values. -/
theorem read?_eq_torn_iff {torn : Torn} : source.read? request = some (.torn torn) ↔
    ∃ value, request.value? source.lookup = some (.torn value) ∧
      source.tornToken? value = some torn := by
  rw [read?, Option.bind_eq_some_iff]
  constructor
  · rintro ⟨text | value, hv, h⟩
    · obtain ⟨found, -, ⟨⟩⟩ := Option.map_eq_some_iff.1 h
    · obtain ⟨found, hfound, ⟨⟩⟩ := Option.map_eq_some_iff.1 h
      exact ⟨value, hv, hfound⟩
  · rintro ⟨value, hv, h⟩
    exact ⟨.torn value, hv, Option.map_eq_some_iff.2 ⟨torn, h, rfl⟩⟩

theorem read?_of_wraps (ht : Clean token) (hv : request.value? source.lookup = some (.text value))
    (h : source.Wraps token value) : source.read? request = some (.text token) :=
  read?_eq_text_iff.2 ⟨value, hv, textToken?_of_wraps ht h⟩

/-! ### Chains -/

/-- Sources that read nothing are passed over. -/
theorem search_append {before after : List Source} (h : ∀ s ∈ before, s.read? request = none) :
    search request (before ++ after) =
      ((search request after).1, before.map lookup ++ (search request after).2) := by
  induction before with
  | nil => rfl
  | cons s before ih =>
    obtain ⟨hs, hbefore⟩ := List.forall_mem_cons.1 h
    rw [List.cons_append, search, hs]
    dsimp only
    rw [ih hbefore, List.map_cons, List.cons_append]

/-- A token is found in the first source that reads one. -/
theorem search_of_read? {before after : List Source} {found : RawText}
    (h : ∀ s ∈ before, s.read? request = none) (hr : source.read? request = some found) :
    (search request (before ++ source :: after)).1 = some found := by
  rw [search_append h, search, hr]

theorem exists_read?_of_search {sources : List Source} {found : RawText}
    (h : (search request sources).1 = some found) : ∃ s ∈ sources, s.read? request = some found := by
  induction sources with
  | nil => cases h
  | cons s rest ih =>
    rw [search] at h
    rcases hs : s.read? request with - | token
    · rw [hs] at h
      obtain ⟨s', hmem, hread⟩ := ih h
      exact ⟨s', List.mem_cons_of_mem s hmem, hread⟩
    · rw [hs] at h
      exact ⟨s, List.mem_cons_self, hs.trans h⟩

theorem read?_header {name : PlaceName} (hv : request.value? ⟨.header, name⟩ = some (.text token))
    (hc : clean? token = some token) : (header name).read? request = some (.text token) :=
  read?_eq_text_iff.2 ⟨token, hv, hc⟩

end Source

namespace Token

variable {algorithm : Algorithm} {secret : Datum} {payload : Record Datum} {token : String}

theorem clean_text (algorithm : Algorithm) (key : List UInt8) (payload : Record Datum) :
    Source.Clean (String.ofList (signedSegments algorithm key payload).text) := by
  refine ⟨?_, ?_⟩
  · simp [Segments.text]
  · rw [String.toList_ofList]
    exact not_blank_of_mem_signed algorithm key payload

theorem clean_signed (h : sign algorithm secret payload = .ok token) : Source.Clean token := by
  obtain ⟨-, -, key, -, rfl⟩ := sign_eq_ok h
  exact clean_text algorithm key payload

/-- A signed token is read as it stands. -/
theorem clean?_signed (h : sign algorithm secret payload = .ok token) :
    Source.clean? token = some token :=
  (clean_signed h).clean?_self

end Token

end TokenGate
