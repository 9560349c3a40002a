/-
Values with options, as headers hold them.

The value ends at the first semicolon.  The options after it stand between semicolons, each a name and,
right after an equals sign, a token or a text between double quotes, which may hold semicolons and
escapes (`pieces`).  What is no option is skipped up to the next semicolon.

A name with a star at its end has a value that is escaped and may name its charset; a name with a star
and a number has a part of a value, and the parts are joined (`Collected.add`).  `ofHeader` reads all
options of a header; of two with one name the last counts.
-/
import TokenGate.Record
import TokenGate.Text.Blank
import TokenGate.Text.Case
import TokenGate.Web.Address

namespace TokenGate.Web.Options

/-! ### Charsets -/

/-- The charsets that an option may name. -/
inductive Charset where
  | ascii
  | latin1
  | utf8
  deriving DecidableEq, Repr

/-- The charset of a name. -/
def Charset.ofName? (name : String) : Option Charset :=
  [("ascii", ascii), ("us-ascii", ascii), ("iso-8859-1", latin1), ("utf-8", utf8)].lookup name

/-- The characters of bytes, with a replacement character for what is none. -/
def Charset.decode : Charset → List UInt8 → List Char
  | ascii, bytes => bytes.map fun b => if b < 0x80 then Char.ofNat b.toNat else '\uFFFD'
  | latin1, bytes => bytes.map fun b => Char.ofNat b.toNat
  | utf8, bytes => Encoding.decodeUtf8Lossy bytes

/-- A character that a byte below 128 stands for. -/
def isAscii (c : Char) : Bool := c.toNat < 0x80

/-- The text with its escapes read in a charset; what is not in ASCII stays as it is. -/
def unescaped (charset : Charset) (text : List Char) : List Char :=
  (text.splitBy fun c d => isAscii c == isAscii d).flatMap fun run =>
    if run.all isAscii then charset.decode (Address.unescapedBytes run) else run

/-! ### Pieces -/

/-- A character of a name or of a token. -/
def inToken (c : Char) : Bool := c.isAlphanum || "_!#$%&'*+-.^`|~".contains c

/-- A quoted text up to its closing quote, and the text after that; the opening quote is already
read. -/
def quotedRest : List Char → Option (List Char × List Char)
  | [] => none
  | '"' :: rest => some ([], rest)
  | '\\' :: '\\' :: rest =>
    (quotedRest rest).map fun (inside, after) => ('\\' :: '\\' :: inside, after)
  | '\\' :: '"' :: rest =>
    (quotedRest rest).map fun (inside, after) => ('\\' :: '"' :: inside, after)
  | c :: rest => (quotedRest rest).map fun (inside, after) => (c :: inside, after)

/-- A name, and a value as it stands, with its quotes. -/
abbrev Piece := List Char × List Char

/-- The value that is next, as it stands, and a text that ends with what follows it. -/
def value? (text : List Char) : Option (List Char × List Char) :=
  let token := text.takeWhile inToken
  if token.isEmpty then
    match text with
    | '"' :: rest =>
      (quotedRest rest).map fun (inside, after) => ('"' :: inside ++ ['"'], after)
    | _ => none
  else some (token, text)

/-- The option that is next, if there is one, and a text that ends with what follows it. -/
def piece (text : List Char) : Option Piece × List Char :=
  let name := text.takeWhile inToken
  match text.dropWhile inToken with
  | '=' :: rest =>
    if name.isEmpty then (none, text)
    else
      match value? rest with
      | some (value, after) => (some (name, value), after)
      | none => (none, rest)
  | _ => (none, text)

/-! ### A piece takes up text -/

theorem length_quotedRest_lt : ∀ {text inside after : List Char},
    quotedRest text = some (inside, after) → after.length < text.length := by
  intro text
  fun_induction quotedRest text with
  | case1 => nofun
  | case2 rest => rintro _ _ ⟨⟩; exact Nat.lt_succ_self _
  | case3 rest ih | case4 rest ih =>
    intro _ _ h
    obtain ⟨⟨inside, after⟩, hr, ⟨⟩⟩ := Option.map_eq_some_iff.1 h
    exact Nat.lt_trans (ih hr) (Nat.lt_add_of_pos_right Nat.two_pos)
  | case5 c rest _ _ _ ih =>
    intro _ _ h
    obtain ⟨⟨inside, after⟩, hr, ⟨⟩⟩ := Option.map_eq_some_iff.1 h
    exact Nat.lt_succ_of_lt (ih hr)

theorem length_value?_le {text value after : List Char} (h : value? text = some (value, after)) :
    after.length ≤ text.length := by
  simp only [value?] at h
  split at h
  · split at h
    · obtain ⟨⟨inside, after⟩, hr, ⟨⟩⟩ := Option.map_eq_some_iff.1 h
      exact Nat.le_succ_of_le (Nat.le_of_lt (length_quotedRest_lt hr))
    · cases h
  · cases h
    exact Nat.le_refl _

theorem length_piece_le (text : List Char) : (piece text).2.length ≤ text.length := by
  simp only [piece]
  split
  · next rest e =>
    have hrest : rest.length < text.length := by
      have hd := (List.dropWhile_sublist (p := inToken) (l := text)).length_le
      rwa [e] at hd
    split
    · exact Nat.le_refl _
    · split
      · next hv => exact Nat.le_trans (length_value?_le hv) (Nat.le_of_lt hrest)
      · exact Nat.le_of_lt hrest
  · exact Nat.le_refl _

/-! ### Pieces in order -/

/-- The options of a text, in order. -/
def pieces (text : List Char) : List Piece :=
  match _h : (piece text).2.dropWhile (· != ';') with
  | [] => (piece text).1.toList
  | _ :: after => (piece text).1.toList ++ pieces (after.dropWhile Text.isBlank)
termination_by text.length
decreasing_by
  have hp := length_piece_le text
  have hd := (List.dropWhile_sublist (p := (· != ';')) (l := (piece text).2)).length_le
  have ha := (List.dropWhile_sublist (p := Text.isBlank) (l := after)).length_le
  rw [_h, List.length_cons] at hd
  omega

/-! ### Values -/

/-- A text with each occurrence of a pattern replaced by one character; so many characters in front
belong to the last occurrence. -/
def replaced (pattern : List Char) (c : Char) : (inside : Nat) → List Char → List Char
  | _, [] => []
  | inside + 1, _ :: rest => replaced pattern c inside rest
  | 0, d :: rest =>
    if pattern.isPrefixOf (d :: rest) then c :: replaced pattern c (pattern.length - 1) rest
    else d :: replaced pattern c 0 rest

/-- A value without its quotes, and with the escapes between them replaced. -/
def unquoted (value : List Char) : List Char :=
  if value.head? = some '"' && value.getLast? = some '"' then
    let inside := (value.drop 1).dropLast
    let single := replaced ['\\', '\\'] '\\' 0 inside
    replaced "%22".toList '"' 0 (replaced ['\\', '"'] '"' 0 single)
  else value

/-- The mark between a charset, a language and a value. -/
def languageMark : Char := '\x27'

/-- The charset that a token names for itself, and its value without it. -/
def marked? (value : List Char) : Option (List Char × List Char) :=
  match value.dropWhile (· != languageMark) with
  | [] => none
  | _ :: rest =>
    let text := (rest.dropWhile (· != languageMark)).drop 1
    if value.head? = some '"' || text.isEmpty then none
    else some (value.takeWhile (· != languageMark), text)

/-- The name of the value that a name with a star and a number at its end has a part of. -/
def continued? (name : List Char) : Option (List Char) :=
  let reversed := name.reverse
  match reversed.takeWhile Char.isDigit, reversed.dropWhile Char.isDigit with
  | _ :: _, '*' :: rest => some rest.reverse
  | _, _ => none

/-! ### Options -/

/-- The options so far, the charset that was named last, and the one that parts of values go on
with. -/
structure Collected where
  options : Record String := []
  charset : String := ""
  ongoing : String := ""

/-- The value of a name with a star, and the charsets after it.  A value in no known charset stays
escaped. -/
def Collected.starred (c : Collected) (value : List Char) : List Char × Collected :=
  let (named, text) :=
    match marked? value with
    | some (charset, text) => (Text.lower (String.ofList charset), text)
    | none => (c.charset, value)
  let charset := if named.isEmpty then c.ongoing else named
  match Charset.ofName? charset with
  | some found => (unescaped found text, { c with charset, ongoing := charset })
  | none => (text, { c with charset })

/-- The options with one more. -/
def Collected.add (c : Collected) (p : Piece) : Collected :=
  let name := (Text.lower (String.ofList p.1)).toList
  let (name, value, c) :=
    if name.getLast? = some '*' then
      let (value, c) := c.starred p.2
      (name.dropLast, value, c)
    else (name, p.2, c)
  let value := String.ofList (unquoted value)
  match continued? name with
  | some name =>
    let name := String.ofList name
    { c with options := c.options.set name ((c.options.get? name).getD "" ++ value) }
  | none => { c with options := c.options.set (String.ofList name) value }

/-- The options of a header. -/
def ofHeader (header : String) : Record String :=
  let (value, rest) := Address.cutAt ';' header.toList
  if (Text.trimChars value).isEmpty then []
  else ((pieces (Text.trimChars rest)).foldl Collected.add {}).options

/-- The value of a header without its options. -/
def value (header : String) : String :=
  Text.trim (String.ofList (header.toList.takeWhile (· != ';')))

end TokenGate.Web.Options
