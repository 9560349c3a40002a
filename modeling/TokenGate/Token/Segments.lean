/-
The three segments of a token's text.

A token is a header, a payload and a signature with dots between them.  The signature is what
follows the last dot, and the header what precedes the first, so that only the payload may hold
dots.  `ofText?_text` reads back what `text` writes.
-/

namespace TokenGate

/-- The text before the first dot and the text after it. -/
def splitAtDot : List Char → Option (List Char × List Char)
  | [] => none
  | c :: rest =>
    if c = '.' then some ([], rest)
    else (splitAtDot rest).map fun (before, after) => (c :: before, after)

/-- The text before the last dot and the text after it. -/
def splitAtLastDot (text : List Char) : Option (List Char × List Char) :=
  (splitAtDot text.reverse).map fun (after, before) => (before.reverse, after.reverse)

/-- The segments of a token. -/
structure Segments where
  header : List Char
  payload : List Char
  signature : List Char
  deriving DecidableEq, Repr

namespace Segments

/-- What the signature signs. -/
def signingInput (s : Segments) : List Char := s.header ++ '.' :: s.payload

/-- The token's text. -/
def text (s : Segments) : List Char := s.signingInput ++ '.' :: s.signature

/-- The segments of a text. -/
def ofText? (text : List Char) : Option Segments := do
  let (signed, signature) ← splitAtLastDot text
  let (header, payload) ← splitAtDot signed
  return ⟨header, payload, signature⟩

end Segments

/-! ### Splitting and joining -/

theorem splitAtDot_append {before : List Char} (after : List Char) (h : '.' ∉ before) :
    splitAtDot (before ++ '.' :: after) = some (before, after) := by
  induction before with
  | nil => simp [splitAtDot]
  | cons c rest ih =>
    simp only [List.mem_cons, not_or] at h
    have hc : ¬c = '.' := fun e => h.1 e.symm
    simp only [List.cons_append, splitAtDot, hc, if_false, ih h.2, Option.map_some]

theorem eq_append_of_splitAtDot {text before after : List Char}
    (h : splitAtDot text = some (before, after)) :
    text = before ++ '.' :: after ∧ '.' ∉ before := by
  induction text generalizing before with
  | nil => simp [splitAtDot] at h
  | cons c rest ih =>
    by_cases hc : c = '.'
    · simp only [splitAtDot, hc, if_true, Option.some.injEq, Prod.mk.injEq] at h
      obtain ⟨rfl, rfl⟩ := h
      simp [hc]
    · simp only [splitAtDot, hc, if_false, Option.map_eq_some_iff, Prod.mk.injEq] at h
      obtain ⟨⟨b, a⟩, hb, rfl, rfl⟩ := h
      obtain ⟨rfl, hn⟩ := ih hb
      have hc' : ¬ '.' = c := fun e => hc e.symm
      exact ⟨rfl, by simp only [List.mem_cons, hc', hn, or_self, not_false_eq_true]⟩

theorem splitAtLastDot_append (before : List Char) {after : List Char} (h : '.' ∉ after) :
    splitAtLastDot (before ++ '.' :: after) = some (before, after) := by
  have hr : (before ++ '.' :: after).reverse = after.reverse ++ '.' :: before.reverse := by simp
  rw [splitAtLastDot, hr, splitAtDot_append _ (by simpa using h)]
  simp

theorem eq_append_of_splitAtLastDot {text before after : List Char}
    (h : splitAtLastDot text = some (before, after)) :
    text = before ++ '.' :: after ∧ '.' ∉ after := by
  simp only [splitAtLastDot, Option.map_eq_some_iff, Prod.mk.injEq] at h
  obtain ⟨⟨a, b⟩, hs, rfl, rfl⟩ := h
  obtain ⟨he, hn⟩ := eq_append_of_splitAtDot hs
  refine ⟨?_, by simpa using hn⟩
  have := congrArg List.reverse he
  simpa using this

/-- Segments read back, if no dot stands in the header or the signature. -/
theorem Segments.ofText?_text {s : Segments} (hh : '.' ∉ s.header) (hs : '.' ∉ s.signature) :
    Segments.ofText? s.text = some s := by
  simp only [ofText?, text, splitAtLastDot_append _ hs, signingInput, splitAtDot_append _ hh,
    Option.bind_eq_bind, Option.bind_some, Option.pure_def]

/-- The segments of a text make up the text. -/
theorem Segments.text_of_ofText? {text : List Char} {s : Segments}
    (h : Segments.ofText? text = some s) :
    text = s.text ∧ '.' ∉ s.header ∧ '.' ∉ s.signature := by
  simp only [ofText?, Option.bind_eq_bind, Option.bind_eq_some_iff, Option.pure_def,
    Option.some.injEq] at h
  obtain ⟨⟨signed, signature⟩, hl, ⟨header, payload⟩, hf, rfl⟩ := h
  obtain ⟨rfl, hs⟩ := eq_append_of_splitAtLastDot hl
  obtain ⟨rfl, hh⟩ := eq_append_of_splitAtDot hf
  exact ⟨rfl, hh, hs⟩

end TokenGate
