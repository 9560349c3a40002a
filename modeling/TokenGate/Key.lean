/-
Which secrets serve as keys.

A key for a keyed digest is a text or bytes.  It must not be empty, and must not look like a key of
another kind: a public key in one of the one-line forms (`publicKeyNames`), anything between the
marks of an armoured key or certificate (`armoured`), or a JSON document that describes a key
(`describesKey`).  `accept` gives the bytes of a secret that passes.
-/
import TokenGate.Json.Reader

namespace TokenGate.Key

/-- Why a secret is refused as a key. -/
inductive Fault where
  | kind
  | empty
  | asymmetric
  | document
  deriving DecidableEq, Repr

/-- The wording of a fault. -/
def Fault.message : Fault → String
  | kind => "Expected a string or bytes value"
  | empty => "HMAC key must not be empty."
  | asymmetric =>
    "The specified key is an asymmetric key or x509 certificate and should not be used as an " ++
      "HMAC secret."
  | document =>
    "The specified key looks like a JWK and should not be used directly as an HMAC secret. " ++
      "Load it via PyJWK / HMACAlgorithm.from_jwk first."

/-- The words that one-line public keys start with. -/
def publicKeyNames : List (List Char) :=
  ["ssh-ed25519".toList, "ssh-rsa".toList, "ssh-dss".toList, "ecdsa-sha2-nistp256".toList,
   "ecdsa-sha2-nistp384".toList, "ecdsa-sha2-nistp521".toList]

/-- What an armoured text may hold. -/
def armourLabels : List (List Char) :=
  ["CERTIFICATE".toList, "TRUSTED CERTIFICATE".toList, "PRIVATE KEY".toList,
   "PUBLIC KEY".toList, "ENCRYPTED PRIVATE KEY".toList, "OPENSSH PRIVATE KEY".toList,
   "DSA PRIVATE KEY".toList, "RSA PRIVATE KEY".toList, "RSA PUBLIC KEY".toList,
   "EC PRIVATE KEY".toList, "DH PARAMETERS".toList, "NEW CERTIFICATE REQUEST".toList,
   "CERTIFICATE REQUEST".toList, "SSH2 PUBLIC KEY".toList, "SSH2 ENCRYPTED PRIVATE KEY".toList,
   "X509 CRL".toList]

/-! ### Armour -/

/-- Some end of the text, the whole one included, satisfies `p`. -/
def anySuffix (p : List Char → Bool) : List Char → Bool
  | [] => p []
  | c :: rest => p (c :: rest) || anySuffix p rest

/-- The text after four dashes. -/
def afterDashes (text : List Char) : Option (List Char) := "----".toList.isPrefixOf? text

/-- The text after a dash or a blank. -/
def afterJoint : List Char → Option (List Char)
  | '-' :: rest | ' ' :: rest => some rest
  | _ => none

/-- The text after a mark: dashes, a joint, the word of the mark, the label, a joint and dashes. -/
def afterMark (word label text : List Char) : Option (List Char) := do
  let rest ← word.isPrefixOf? (← afterJoint (← afterDashes text))
  afterDashes (← afterJoint (← (' ' :: label).isPrefixOf? rest))

/-- The word of opening marks. -/
def openingWord : List Char := "BEGIN".toList

/-- The word of closing marks. -/
def closingWord : List Char := "END".toList

/-- An opening mark, for any label, starts the text. -/
def startsOpening (text : List Char) : Bool :=
  armourLabels.any fun label => (afterMark openingWord label text).isSome

/-- A closing mark for the label is in the text, and no opening mark before it. -/
def closes (label : List Char) : List Char → Bool
  | [] => false
  | c :: rest =>
    (afterMark closingWord label (c :: rest)).isSome ||
      (!startsOpening (c :: rest) && closes label rest)

/-- Something is in the text, and then a closing mark for the label. -/
def holdsAndCloses (label text : List Char) : Bool :=
  !startsOpening text && closes label (text.drop 1)

/-- An opening mark starts the text, and after something the closing mark of its label follows. -/
def opensArmour (text : List Char) : Bool :=
  armourLabels.any fun label => (afterMark openingWord label text).any (holdsAndCloses label)

/-- The text holds an armoured key or certificate. -/
def armoured (text : List Char) : Bool := anySuffix opensArmour text

/-- The text is a public key on one line. -/
def publicKeyLine (text : List Char) : Bool := publicKeyNames.any (·.isPrefixOf text)

/-! ### Documents -/

/-- The member that marks the description of a key. -/
def descriptionMember : String := "kty"

mutual
/-- Some object in the value has a member of the name. -/
def holdsMember (name : String) : Datum → Bool
  | .list items | .tuple items | .set items => anyHoldsMember name items
  | .dict members => memberHoldsMember name members
  | _ => false

/-- Some value of a list has an object with the member. -/
def anyHoldsMember (name : String) : List Datum → Bool
  | [] => false
  | item :: rest => holdsMember name item || anyHoldsMember name rest

/-- Some member of an object has the name, or its value has an object with the member. -/
def memberHoldsMember (name : String) : List (String × Datum) → Bool
  | [] => false
  | (key, item) :: rest => key == name || holdsMember name item || memberHoldsMember name rest
end

/-- The text up to the first quote with a colon after it, and the text after the colon. -/
def quotedName? : List Char → Option (List Char × List Char)
  | [] => none
  | c :: rest =>
    match c == '"', Json.skipBlanks rest with
    | true, ':' :: after => some ([], after)
    | _, _ => (quotedName? rest).map fun (name, after) => (c :: name, after)

theorem length_skipBlanks_le (text : List Char) : (Json.skipBlanks text).length ≤ text.length :=
  (List.dropWhile_sublist Json.isBlank).length_le

theorem quotedName?_length {text name after : List Char}
    (h : quotedName? text = some (name, after)) : after.length < text.length := by
  induction text generalizing name with
  | nil => simp [quotedName?] at h
  | cons c rest ih =>
    have hs := length_skipBlanks_le rest
    simp only [quotedName?] at h
    split at h
    · next e =>
      rw [e] at hs
      simp only [List.length_cons] at hs ⊢
      cases h
      omega
    · obtain ⟨⟨inner, after'⟩, hr, he⟩ := Option.map_eq_some_iff.1 h
      cases he
      have hi : after'.length < rest.length := ih hr
      exact Nat.lt_succ_of_lt hi

/-- The characters between two quotes stand for the name. -/
def spells (name : String) (inside : List Char) : Bool :=
  match Json.string ('"' :: inside ++ ['"']) with
  | .ok (s, []) => s == name
  | _ => false

/-- The text has the name between quotes and before a colon, in a reading that looks for the next
quote and from there for the first quote that a colon follows. -/
def mentionsMember (name : String) (text : List Char) : Bool :=
  match _h : quotedName? ((text.dropWhile (· != '"')).drop 1) with
  | some (inside, after) => spells name inside || mentionsMember name after
  | none => false
termination_by text.length
decreasing_by
  have hq := quotedName?_length _h
  have hd := (List.dropWhile_sublist (p := (· != '"')) (l := text)).length_le
  simp only [List.length_drop] at hq
  omega

/-- The bytes are a document that describes a key.  Integers of any size are read; a document that
is nested too deeply is only searched for the name of the member. -/
def describesKey (bytes : List UInt8) : Bool :=
  match Encoding.decodeDocument bytes with
  | .error _ => false
  | .ok text =>
    match Json.documentUpTo text.length text with
    | .ok d => holdsMember descriptionMember d
    | .error (.tooDeep _) => mentionsMember descriptionMember text
    | .error _ => false

/-! ### Keys -/

/-- The bytes of a secret: a text stands for its bytes in UTF-8. -/
def bytesOf? : Datum → Option (List UInt8)
  | .text s => some (Encoding.encodeUtf8 s.toList)
  | .bytes b => some b
  | _ => none

/-- The bytes, if they do not look like a key of another kind. -/
def acceptBytes (bytes : List UInt8) : Except Fault (List UInt8) :=
  let text := bytes.map fun b => Char.ofNat b.toNat
  if bytes.isEmpty then .error .empty
  else if armoured text || publicKeyLine text then .error .asymmetric
  else if describesKey bytes then .error .document
  else .ok bytes

/-- The bytes of a secret that serves as a key. -/
def accept (secret : Datum) : Except Fault (List UInt8) :=
  match bytesOf? secret with
  | some bytes => acceptBytes bytes
  | none => .error .kind

end TokenGate.Key
