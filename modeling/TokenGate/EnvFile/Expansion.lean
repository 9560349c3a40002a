/-
References to variables inside the values of an environment file.

A reference is a dollar sign and a name in braces, with a default after a colon and a dash if
wanted.  `expand` replaces the references in a text from left to right; what is put in is not read
again.
-/

namespace TokenGate.EnvFile

/-- A reference to a variable. -/
structure Reference where
  name : List Char
  default : List Char
  deriving DecidableEq, Repr

/-- The brace that opens a reference. -/
def openBrace : Char := '\x7b'

/-- The brace that closes a reference. -/
def closeBrace : Char := '\x7d'

/-- A character of a reference's name. -/
def inReference (c : Char) : Bool := c != closeBrace && c != ':'

/-- A character of a reference's default. -/
def inDefault (c : Char) : Bool := c != closeBrace

/-- The reference that starts after an opening brace, and the text after it. -/
def reference? (text : List Char) : Option (Reference × List Char) :=
  let name := text.takeWhile inReference
  match text.dropWhile inReference with
  | ':' :: '-' :: rest =>
    match rest.dropWhile inDefault with
    | _ :: after => some (⟨name, rest.takeWhile inDefault⟩, after)
    | [] => none
  | ':' :: _ => none
  | _ :: after => some (⟨name, []⟩, after)
  | [] => none

/-! ### A reference takes up text -/

theorem length_dropWhile_le (p : Char → Bool) (text : List Char) :
    (text.dropWhile p).length ≤ text.length := (List.dropWhile_sublist p).length_le

theorem reference?_length {text after : List Char} {r : Reference}
    (h : reference? text = some (r, after)) : after.length < text.length := by
  have hd := length_dropWhile_le inReference text
  simp only [reference?] at h
  split at h
  · next rest e =>
    have hr := length_dropWhile_le inDefault rest
    rw [e] at hd
    simp only [List.length_cons] at hd
    split at h
    · next c after' e' =>
      rw [e'] at hr
      simp only [List.length_cons] at hr
      cases h
      omega
    · cases h
  · cases h
  · next c after' e =>
    rw [e] at hd
    simp only [List.length_cons] at hd
    cases h
    omega
  · cases h

/-! ### Expansion -/

/-- The text with each reference replaced by the value of its variable, or else by its default. -/
def expand (known : List Char → Option (List Char)) : List Char → List Char
  | [] => []
  | [c] => [c]
  | c :: d :: rest =>
    if c = '$' ∧ d = openBrace then
      match _h : reference? rest with
      | some (r, after) => (known r.name).getD r.default ++ expand known after
      | none => c :: expand known (d :: rest)
    else c :: expand known (d :: rest)
termination_by text => text.length
decreasing_by
  · have := reference?_length _h
    simp only [List.length_cons]
    omega
  · simp
  · simp

end TokenGate.EnvFile
