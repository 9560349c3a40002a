/-
What the bearer scheme accepts.

The scheme is looked for in the small form of a text, and cut off the text itself.  The two can have
different lengths, since one character has a small form of two, and a character that is not ASCII can
have an ASCII small form: the Kelvin sign becomes a `k`.  Neither happens in the scheme's own letters
(`eq_of_lowerChar_cons`), so that a match in the small form is a match in the text, at the same place
(`prefix_lower_iff`).

`bearer_reads` is the main result: a token is read exactly out of the values that spell the scheme, a
space and the token, with blanks around either, and it is read as it stands there.  Of a value that is
torn the same is true, and the token is torn.
-/
import TokenGate.Proofs.Source

namespace TokenGate

namespace Source

open Text

/-! ### Small forms -/

section SmallForms

variable {c d : Char} {rest word cs : List Char}

/-- What is decided of the letters of the scheme and the space, one after the other. -/
theorem forall_letter {p : Char → Prop} [DecidablePred p]
    (h : (bearerScheme.all fun d => decide (p d)) = true) : ∀ d ∈ bearerScheme, p d := by
  intro d hd
  exact of_decide_eq_true (List.all_eq_true.1 h d hd)

/-- The one small form of several characters starts with an `i`. -/
theorem eq_of_lookup_lowerExpansions {n : Nat} {codes : List Nat}
    (h : lowerExpansions.lookup n = some codes) : codes = [0x69, 0x307] := by
  rw [lowerExpansions, List.lookup_cons] at h
  split at h
  · exact (Option.some.inj h).symm
  · cases h

/-- A small form has at least one character. -/
theorem exists_lowerChar (c : Char) : ∃ d rest, lowerChar c = d :: rest := by
  rw [lowerChar, mapCase]
  split
  · next codes hcodes =>
    rw [eq_of_lookup_lowerExpansions hcodes]
    exact ⟨_, _, rfl⟩
  · exact ⟨_, _, rfl⟩

/-- Of all ranges of capital letters, only the ASCII one reaches letters of the scheme, and none
reaches the space. -/
theorem eq_toUpper_of_covers : ∀ d ∈ bearerScheme, ∀ r ∈ lowerRanges,
    r.covers ((d.toNat : Int) - r.shift).toNat = true →
      ((d.toNat : Int) - r.shift).toNat = d.toUpper.toNat :=
  forall_letter (by decide +kernel)

theorem eq_of_shiftCase (hd : d ∈ bearerScheme) (h : shiftCase lowerRanges c.toNat = d.toNat) :
    c = d ∨ c = d.toUpper := by
  rw [shiftCase] at h
  split at h
  · next r hr =>
    right
    have hpos : ∀ d ∈ bearerScheme, 0 < d.toNat := forall_letter (by decide)
    have hback : c.toNat = ((d.toNat : Int) - r.shift).toNat := by
      have hd0 := hpos d hd
      rw [Int.ofNat_eq_natCast] at h
      omega
    have hcovers := List.find?_some hr
    rw [hback] at hcovers
    rw [← Char.toNat_inj, hback]
    exact eq_toUpper_of_covers d hd r (List.mem_of_find?_eq_some hr) hcovers
  · exact .inl (Char.toNat_inj.1 h)

/-- **A small form that starts with a letter of the scheme, or with a space, is that of this letter**:
the character is the letter itself or its ASCII capital, and the small form goes no further. -/
theorem eq_of_lowerChar_cons (hd : d ∈ bearerScheme) (h : lowerChar c = d :: rest) :
    (c = d ∨ c = d.toUpper) ∧ rest = [] := by
  rw [lowerChar, mapCase] at h
  split at h
  · next codes hcodes =>
    have hfirst : ∀ d ∈ bearerScheme, Char.ofNat 0x69 ≠ d := forall_letter (by decide)
    rw [eq_of_lookup_lowerExpansions hcodes] at h
    exact absurd (List.cons.inj h).1 (hfirst d hd)
  · obtain ⟨hfirst, hrest⟩ := List.cons.inj h
    refine ⟨eq_of_shiftCase hd ?_, hrest.symm⟩
    have hnull : ∀ d ∈ bearerScheme, Char.ofNat 0 ≠ d := forall_letter (by decide)
    by_cases hvalid : (shiftCase lowerRanges c.toNat).isValidChar
    · have hchar : Char.ofNat (shiftCase lowerRanges c.toNat) = Char.ofNatAux _ hvalid := dif_pos hvalid
      rw [← hfirst, hchar]
      rfl
    · -- a code that is no character's would stand for the null character
      have hzero : Char.ofNat (shiftCase lowerRanges c.toNat) = Char.ofNat 0 := dif_neg hvalid
      exact absurd (hzero.symm.trans hfirst) (hnull d hd)

/-! ### Matching -/

/-- Characters whose small form starts with a word of the scheme's letters start with the word, in any
case of its letters. -/
theorem exists_anyCase_of_prefix (hw : ∀ d ∈ word, d ∈ bearerScheme)
    (h : word <+: cs.flatMap lowerChar) :
    ∃ written rest, cs = written ++ rest ∧ AnyCase written word := by
  induction word generalizing cs with
  | nil => exact ⟨[], cs, rfl, .nil⟩
  | cons d word ih =>
    obtain ⟨hd, hword⟩ := List.forall_mem_cons.1 hw
    rcases cs with - | ⟨c, cs⟩
    · exact absurd (List.prefix_nil.1 h) (List.cons_ne_nil d word)
    · obtain ⟨d', rest', hlower⟩ := exists_lowerChar c
      rw [List.flatMap_cons, hlower, List.cons_append, List.cons_prefix_cons] at h
      obtain ⟨rfl, h⟩ := h
      obtain ⟨hc, rfl⟩ := eq_of_lowerChar_cons hd hlower
      obtain ⟨written, rest, rfl, hwritten⟩ := ih hword h
      exact ⟨c :: written, rest, rfl, .cons hc hwritten⟩

/-- Letters of the scheme, and the space after it, are ASCII and have one small form each. -/
theorem ascii_of_anyCase (hw : ∀ d ∈ word, d ∈ bearerScheme) (h : AnyCase cs word) :
    ∀ c ∈ cs, c.toNat < 128 ∧ (lowerChar c).length = 1 := by
  have hletters : ∀ d ∈ bearerScheme, (d.toNat < 128 ∧ (lowerChar d).length = 1) ∧
      d.toUpper.toNat < 128 ∧ (lowerChar d.toUpper).length = 1 := forall_letter (by decide)
  induction h with
  | nil => exact List.forall_mem_nil _
  | @cons c d cs word hc _ ih =>
    obtain ⟨hd, hword⟩ := List.forall_mem_cons.1 hw
    refine List.forall_mem_cons.2 ⟨?_, ih hword⟩
    rcases hc with rfl | rfl
    · exact (hletters _ hd).1
    · exact (hletters _ hd).2

end SmallForms

variable {text value token : String} {request : Request}

/-- **A match in the small form of a text is a match in the text**, in the same place. -/
theorem prefix_lower_iff : bearerScheme <+: (lower text).toList ↔
    ∃ scheme rest, AnyCase scheme "bearer".toList ∧ text.toList = scheme ++ ' ' :: rest := by
  constructor
  · intro h
    rw [lower, String.toList_ofList] at h
    obtain ⟨written, rest, htext, hwritten⟩ := exists_anyCase_of_prefix (fun _ hd => hd) h
    -- the space after the letters is matched like one of them, and has no other form
    have hletters : AnyCase (written.take 6) "bearer".toList :=
      List.forall₂_take_append written "bearer".toList [' '] hwritten
    have hspace : AnyCase (written.drop 6) [' '] :=
      List.forall₂_drop_append written "bearer".toList [' '] hwritten
    obtain ⟨c, tail, hc, htail, hlast⟩ := List.forall₂_cons_right_iff.1 hspace
    obtain rfl : c = ' ' := hc.elim (fun h => h) (fun h => h)
    obtain rfl := List.forall₂_nil_right_iff.1 htail
    refine ⟨written.take 6, rest, hletters, ?_⟩
    calc text.toList = written ++ rest := htext
      _ = (written.take 6 ++ written.drop 6) ++ rest := by rw [List.take_append_drop]
      _ = written.take 6 ++ ' ' :: rest := by rw [hlast, List.append_assoc, List.singleton_append]
  · rintro ⟨scheme, rest, hs, htext⟩
    rw [← List.isPrefixOf_iff_prefix, ← String.ofList_toList (s := text), htext]
    exact starts_scheme hs rest

/-- The value spells the scheme, a space and the token, with blanks around either. -/
def Bears (value token : String) : Prop :=
  ∃ scheme rest, AnyCase scheme "bearer".toList ∧ Trims value.toList (scheme ++ ' ' :: rest) ∧
    Trims rest token.toList ∧ token.toList ≠ []

theorem bearerToken?_eq_some_iff : bearerToken? value = some token ↔ Bears value token := by
  constructor
  · intro h
    rw [bearerToken?] at h
    rcases hv : clean? value with - | v
    · rw [hv] at h
      cases h
    rw [hv] at h
    dsimp only at h
    split at h
    · next hprefix =>
      obtain ⟨-, htrims⟩ := clean?_eq_some_iff.1 hv
      obtain ⟨scheme, rest, hs, hsplit⟩ := prefix_lower_iff.1 (List.isPrefixOf_iff_prefix.1 hprefix)
      rw [hsplit, drop_scheme hs] at h
      obtain ⟨hne, hrest⟩ := clean?_eq_some_iff.1 h
      rw [String.toList_ofList] at hrest
      exact ⟨scheme, rest, hs, hsplit ▸ htrims, hrest, hne⟩
    · cases h
  · rintro ⟨scheme, rest, hs, htrims, hrest, hne⟩
    have hvalue : clean? value = some (String.ofList (scheme ++ ' ' :: rest)) :=
      clean?_of_trimChars (trimChars_eq_iff.2 htrims) (by simp)
    have htoken : clean? (String.ofList rest) = some token := by
      rw [clean?_eq_some_iff, String.toList_ofList]
      exact ⟨hne, hrest⟩
    rw [bearerToken?, hvalue]
    dsimp only
    rw [if_pos (starts_scheme hs rest), String.toList_ofList, drop_scheme hs, htoken]

/-- The torn value spells the scheme, a space and the torn token, with blanks around either.  The
scheme stands before the first half, so that it is the token that is torn. -/
def BearsTorn (value token : Torn) : Prop :=
  ∃ scheme rest after, AnyCase scheme "bearer".toList ∧
    TrimsTorn value ⟨String.ofList (scheme ++ ' ' :: rest), token.half, after⟩ ∧
    TrimsTorn ⟨String.ofList rest, token.half, after⟩ token

theorem bearerTorn?_eq_some_iff {value token : Torn} :
    bearerTorn? value = some token ↔ BearsTorn value token := by
  constructor
  · intro h
    rw [bearerTorn?] at h
    rcases hv : value.trim with ⟨before, half, after⟩
    rw [hv] at h
    dsimp only at h
    split at h
    · next hprefix =>
      obtain ⟨scheme, rest, hs, hsplit⟩ := prefix_lower_iff.1 (List.isPrefixOf_iff_prefix.1 hprefix)
      obtain rfl : before = String.ofList (scheme ++ ' ' :: rest) := by
        rw [← hsplit, String.ofList_toList]
      rw [Torn.dropFront, hsplit, drop_scheme hs] at h
      obtain rfl := Option.some.inj h
      exact ⟨scheme, rest, after, hs, trim_eq_iff.1 hv, trimsTorn_trim _⟩
    · cases h
  · rintro ⟨scheme, rest, after, hs, hvalue, hrest⟩
    rw [bearerTorn?, trim_eq_iff.2 hvalue]
    dsimp only
    rw [if_pos (starts_scheme hs rest), Torn.dropFront, String.toList_ofList, drop_scheme hs,
      trim_eq_iff.2 hrest]

/-- A tab is no space, and a longer word another scheme. -/
example : bearerToken? "Bearer\tT" = none ∧ bearerToken? "Bearers T" = none := by decide +kernel

/-- The token stands in the value, letter by letter. -/
theorem Bears.infix (h : Bears value token) : token.toList <:+: value.toList := by
  obtain ⟨scheme, rest, -, hvalue, hrest, -⟩ := h
  obtain ⟨before, after, -, -, hvalue⟩ := hvalue.around
  obtain ⟨gap, gap', -, -, hrest⟩ := hrest.around
  refine ⟨before ++ scheme ++ ' ' :: gap, gap' ++ after, ?_⟩
  rw [hvalue, hrest]
  simp

/-- **A bearer token is read exactly out of the values that bear it**, in whatever case the scheme's
letters are, and it is read as it stands in the value.  The scheme is rightly cut off the text itself:
a match in the small form is one in the text, of seven ASCII characters with small forms of one
character. -/
theorem bearer_reads (request : Request) (token : String) :
    (bearer.read? request = some (.text token) ↔
        ∃ value, request.value? ⟨.header, .text authorizationHeader⟩ = some (.text value) ∧
          Bears value token) ∧
      (∀ torn, bearer.read? request = some (.torn torn) ↔
        ∃ value, request.value? ⟨.header, .text authorizationHeader⟩ = some (.torn value) ∧
          BearsTorn value torn) ∧
      (∀ value, Bears value token → token.toList <:+: value.toList) ∧
      ∀ text : String,
        (bearerScheme <+: (lower text).toList ↔
          ∃ scheme, AnyCase scheme "bearer".toList ∧
            text.toList = scheme ++ ' ' :: text.toList.drop bearerScheme.length) ∧
        (bearerScheme <+: (lower text).toList →
          ∀ c ∈ text.toList.take bearerScheme.length, c.toNat < 128 ∧ (lowerChar c).length = 1) := by
  refine ⟨?_, fun torn => ?_, fun value h => h.infix, fun text => ⟨?_, fun h c hc => ?_⟩⟩
  · rw [read?_eq_text_iff]
    exact exists_congr fun value => and_congr_right fun _ => bearerToken?_eq_some_iff
  · rw [read?_eq_torn_iff]
    refine exists_congr fun value => and_congr_right fun _ => ?_
    rw [tornToken?, bearerTorn?_eq_some_iff]
  · constructor
    · intro h
      obtain ⟨scheme, rest, hs, htext⟩ := prefix_lower_iff.1 h
      refine ⟨scheme, hs, ?_⟩
      rw [htext, drop_scheme hs]
    · rintro ⟨scheme, hs, htext⟩
      exact prefix_lower_iff.2 ⟨scheme, _, hs, htext⟩
  · obtain ⟨written, rest, htext, hwritten⟩ :=
      exists_anyCase_of_prefix (fun _ hd => hd) (by rwa [lower, String.toList_ofList] at h)
    rw [htext, List.take_left' hwritten.length_eq] at hc
    exact ascii_of_anyCase (fun _ hd => hd) hwritten c hc

/-- A request with one value for the authorization header. -/
def authorized (value : String) : Request :=
  .ofPairs true [(authorizationHeader, value)] [] []

/-- A token behind the scheme in mixed letters, with blanks on every side. -/
theorem bearer_reads_mixed :
    bearer.read? (authorized "\tBeaReR  Tok.En ") = some (.text "Tok.En") := by
  have hbears : Bears "\tBeaReR  Tok.En " "Tok.En" := by
    refine ⟨"BeaReR".toList, " Tok.En".toList, ?_, trimChars_eq_iff.1 ?_, trimChars_eq_iff.1 ?_, ?_⟩
    · unfold AnyCase
      decide
    · decide
    · decide
    · decide
  exact (bearer_reads _ _).1.2 ⟨_, rfl, hbears⟩

end Source

end TokenGate
