/-
The form of a signed token.

A signed token is compact: between its dots stand exactly three segments, none of them empty, and all
of symbols that may stand in an address (`compact_sign`).  The header and the payload are documents,
which are never empty, and the signature is a digest, whose size is fixed by the algorithm
(`length_signature`).
-/
import TokenGate.Proofs.Token.RoundTrip

namespace TokenGate

/-! ### Symbols -/

namespace Base64Url

/-- A letter, a digit, a hyphen or a low line. -/
def IsSymbol (c : Char) : Prop := c.isAlphanum = true ∨ c = '-' ∨ c = '_'

instance (c : Char) : Decidable (IsSymbol c) := inferInstanceAs (Decidable (_ ∨ _ ∨ _))

theorem isSymbol_symbol : ∀ n < 64, IsSymbol (symbol n) := by decide

theorem isSymbol_of_mem_encode {bytes : List UInt8} {c : Char} (h : c ∈ encode bytes) :
    IsSymbol c := by
  obtain ⟨n, hn, rfl⟩ := mem_encode h
  exact isSymbol_symbol n hn

@[simp] theorem encode_eq_nil_iff {bytes : List UInt8} : encode bytes = [] ↔ bytes = [] := by
  fun_cases encode bytes <;> simp

end Base64Url

namespace Token

open Base64Url Encoding

/-- A segment that is not empty and made of symbols. -/
structure Filled (segment : List Char) : Prop where
  ne_nil : segment ≠ []
  symbols : ∀ c ∈ segment, IsSymbol c

/-- The text has exactly the three segments between its dots, and each of them is filled. -/
structure Compact (text : String) (s : Segments) : Prop where
  split : text.toList.splitOn '.' = [s.header, s.payload, s.signature]
  header : Filled s.header
  payload : Filled s.payload
  signature : Filled s.signature

variable {algorithm : Algorithm} {secret : Datum} {payload : Record Datum} {token : String}

theorem Filled.encode {bytes : List UInt8} (h : bytes ≠ []) : Filled (encode bytes) where
  ne_nil := mt encode_eq_nil_iff.1 h
  symbols := fun _ hc => isSymbol_of_mem_encode hc

/-! ### Segments -/

/-- The bytes of an algorithm's signatures. -/
def signatureLength : Algorithm → Nat
  | .hs256 => 32
  | .hs384 => 48
  | .hs512 => 64

theorem length_signature (algorithm : Algorithm) (key : List UInt8) (signingInput : List Char) :
    (signature algorithm key signingInput).length = signatureLength algorithm := by
  cases algorithm
  · exact Hash.length_sha256 _
  · exact Hash.length_sha384 _
  · exact Hash.length_sha512 _

theorem signature_ne_nil (algorithm : Algorithm) (key : List UInt8) (signingInput : List Char) :
    signature algorithm key signingInput ≠ [] := by
  have hlength := length_signature algorithm key signingInput
  have hpos : 0 < signatureLength algorithm := by cases algorithm <;> decide
  exact List.ne_nil_of_length_pos (hlength ▸ hpos)

/-- An object is written with its brackets at least. -/
theorem filled_segment (r : Record Datum) : Filled (segment r) := by
  apply Filled.encode
  rw [Json.write, List.cons_append, encodeUtf8_cons]
  exact List.append_ne_nil_of_left_ne_nil (by decide) _

/-- **A signed token is compact.** -/
theorem compact_sign (h : sign algorithm secret payload = .ok token) :
    ∃ s, Compact token s := by
  obtain ⟨-, -, key, -, rfl⟩ := sign_eq_ok h
  have hheader : Filled (segment (headerOf algorithm)) := filled_segment _
  have hpayload : Filled (segment payload) := filled_segment _
  have hsignature : Filled (signedSegments algorithm key payload).signature :=
    Filled.encode (signature_ne_nil _ _ _)
  refine ⟨signedSegments algorithm key payload, ?_, hheader, hpayload, hsignature⟩
  -- the symbols of a segment are no dots, so the text is cut where its segments were joined
  have hdots : ∀ part ∈ [segment (headerOf algorithm), segment payload,
      (signedSegments algorithm key payload).signature], '.' ∉ part := by
    simp [segment, signedSegments, dot_notMem_encode]
  have hjoined : (signedSegments algorithm key payload).text = ['.'].intercalate
      [segment (headerOf algorithm), segment payload,
        (signedSegments algorithm key payload).signature] := by
    simp [Segments.text, Segments.signingInput, signedSegments, List.intercalate]
  rw [String.toList_ofList, hjoined, List.splitOn_intercalate '.' hdots (by simp)]
  rfl

end Token

end TokenGate
