/-
Addresses: the part of a request that says where it goes, and the fields that it carries along.

An address is a path, and after a question mark a query; what precedes the path, and what follows a
number sign, is dropped.  Paths and fields are escaped: a percent sign and two hexadecimal digits
stand for a byte (`unescapedBytes`), and in fields a plus sign stands for a blank.  `fields` reads
the names and values of a query or of a form.
-/
import TokenGate.Encoding

namespace TokenGate.Web

/-- Where a request goes. -/
structure Address where
  path : String
  query : String
  deriving DecidableEq, Repr

namespace Address

/-! ### Escapes -/

/-- The bytes of a text with its escapes replaced. -/
def unescapedBytes : List Char → List UInt8
  | [] => []
  | c :: rest =>
    match c, rest with
    | '%', a :: b :: after =>
      match Text.hexValue? a, Text.hexValue? b with
      | some high, some low => UInt8.ofNat (high * 16 + low) :: unescapedBytes after
      | _, _ => 0x25 :: unescapedBytes (a :: b :: after)
    | c, rest => String.utf8EncodeChar c ++ unescapedBytes rest

/-- A hexadecimal digit as escapes are written. -/
def capitalDigit (n : Nat) : Char := Char.ofNat (if n < 10 then 0x30 + n else 0x37 + n)

/-- The escape of a byte. -/
def escape (b : UInt8) : List Char :=
  ['%', capitalDigit (b.toNat / 16), capitalDigit (b.toNat % 16)]

/-! ### Fields -/

/-- A name or a value of a field.  Bytes that are no text stay escaped. -/
def fieldText (text : List Char) : String :=
  String.ofList (Encoding.decodeUtf8With (fun bytes => bytes.flatMap escape)
    (unescapedBytes (text.map fun c => if c = '+' then ' ' else c)))

/-- The text before a character and the text after it. -/
def cutAt (mark : Char) (text : List Char) : List Char × List Char :=
  (text.takeWhile (· != mark), (text.dropWhile (· != mark)).drop 1)

/-- A field: its name, and after an equals sign its value. -/
def field (text : List Char) : String × String :=
  let (name, value) := cutAt '=' text
  (fieldText name, fieldText value)

/-- The fields of a text, which stand between ampersands. -/
def fields (text : String) : List (String × String) :=
  ((text.splitOn "&").filter fun part => !part.isEmpty).map fun part => field part.toList

/-! ### Paths -/

/-- The path of an escaped one; it starts with a single slash. -/
def pathOf (text : List Char) : String :=
  String.ofList ('/' :: (Encoding.decodeUtf8Lossy (unescapedBytes text)).dropWhile (· == '/'))

/-- A character of the name of a scheme. -/
def inScheme (c : Char) : Bool := c.isAlphanum || c == '+' || c == '-' || c == '.'

/-- The text without a scheme in front: a name that starts with a letter, and a colon. -/
def skipScheme (text : List Char) : List Char :=
  match text.dropWhile inScheme with
  | ':' :: rest => if text.head?.any Char.isAlpha then rest else text
  | _ => text

/-- The text without the name of a host in front, which follows two slashes. -/
def skipHost : List Char → List Char
  | '/' :: '/' :: rest => rest.dropWhile fun c => c != '/' && c != '?'
  | text => text

/-- The text from its path on. -/
def fromPath (text : List Char) : List Char := skipHost (skipScheme text)

/-- A line break or a tab, which no address holds. -/
def isBreak (c : Char) : Bool := c == '\t' || c == '\n' || c == '\r'

/-- The text of an address without the blanks and controls in front, and without line breaks and
tabs. -/
def cleaned (text : List Char) : List Char :=
  (text.dropWhile fun c => c.toNat ≤ 0x20).filter fun c => !isBreak c

/-- The address that a text writes.  It is read twice, once by the sender and once for the server,
and each reading starts at what it takes for the path. -/
def ofText (text : String) : Address :=
  let named := (cleaned text.toList).takeWhile (· != '#')
  let (path, query) := cutAt '?' (fromPath (fromPath named))
  ⟨pathOf path, String.ofList query⟩

/-- A path with each run of slashes made one. -/
def mergeSlashes : List Char → List Char
  | [] => []
  | c :: rest =>
    let merged := mergeSlashes rest
    if c = '/' && merged.head? = some '/' then merged else c :: merged

@[inherit_doc mergeSlashes]
def mergedPath (path : String) : String := String.ofList (mergeSlashes path.toList)

end Address

end TokenGate.Web
