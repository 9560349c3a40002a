/-
The cookies of a request, as one header line lists them.

Cookies stand between semicolons, each a name and after an equals sign a value.  A value is bare,
without blanks and double quotes, or stands between double quotes, where it may hold semicolons and
escapes: a backslash before a character, or before the three octal digits of a byte.  Blanks, which
are spaces and tabs, may stand around each name and each value.  What is no cookie is skipped up to
its semicolon.
-/
import TokenGate.Encoding

namespace TokenGate.Web.Cookie

/-- A blank between the parts of a header line. -/
def isSpace (c : Char) : Bool := c == ' ' || c == '\t'

/-- The text without the blanks in front. -/
def skipSpaces (text : List Char) : List Char := text.dropWhile isSpace

/-! ### Quotes and escapes -/

/-- The value of an octal digit below a bound. -/
def octal? (bound : Nat) (b : UInt8) : Option Nat :=
  if 0x30 ≤ b.toNat && b.toNat < 0x30 + bound then some (b.toNat - 0x30) else none

/-- The byte that three octal digits number. -/
def numbered? (a b c : UInt8) : Option UInt8 := do
  let a ← octal? 4 a
  let b ← octal? 8 b
  let c ← octal? 8 c
  return UInt8.ofNat ((a * 8 + b) * 8 + c)

/-- The code of a backslash. -/
def backslash : UInt8 := 0x5C

/-- Bytes with their escapes replaced. -/
def unescape : List UInt8 → List UInt8
  | [] => []
  | [x] => [x]
  | x :: a :: b :: c :: rest =>
    if x = backslash then
      match numbered? a b c with
      | some d => d :: unescape rest
      | none => a :: unescape (b :: c :: rest)
    else x :: unescape (a :: b :: c :: rest)
  | x :: a :: rest => if x = backslash then a :: unescape rest else x :: unescape (a :: rest)

/-- The inside of a quoted value with its escapes replaced. -/
def unquoted (inside : List Char) : List Char :=
  Encoding.decodeUtf8Lossy (unescape (Encoding.encodeUtf8 inside))

/-! ### Values -/

/-- A quoted value up to its closing quote, and the text after that; the opening quote is already
read. -/
def quotedRest : List Char → Option (List Char × List Char)
  | [] => none
  | '"' :: rest => some ([], rest)
  | '\\' :: c :: rest => (quotedRest rest).map fun (inside, after) => ('\\' :: c :: inside, after)
  | '\\' :: [] => none
  | c :: rest => (quotedRest rest).map fun (inside, after) => (c :: inside, after)

/-- A character of a bare value. -/
def inValue (c : Char) : Bool := c != ';' && c != '"' && !isSpace c

/-- The value that is next, and the text after it. -/
def value? : List Char → Option (List Char × List Char)
  | '"' :: rest => (quotedRest rest).map fun (inside, after) => (unquoted inside, after)
  | text => some (text.takeWhile inValue, text.dropWhile inValue)

/-! ### Cookies -/

/-- A character of a name. -/
def inName (c : Char) : Bool := c != '=' && c != ';' && !isSpace c

/-- The text after the end of a cookie, which must be next. -/
def ended? (text : List Char) : Option (List Char) :=
  match skipSpaces text with
  | [] => some []
  | ';' :: rest => some (skipSpaces rest)
  | _ => none

/-- The cookie that is next, and the text after its semicolon; without an equals sign its value is
empty. -/
def next? (text : List Char) : Option ((List Char × List Char) × List Char) := do
  let name := text.takeWhile inName
  let (value, rest) ←
    match skipSpaces (text.dropWhile inName) with
    | '=' :: rest => value? (skipSpaces rest)
    | rest => some ([], rest)
  return ((name, value), ← ended? rest)

/-- The text after the next semicolon. -/
def skipped (text : List Char) : List Char := skipSpaces ((text.dropWhile (· != ';')).drop 1)

/-- The cookie that is next, if the text up to a semicolon is one, and the text after it. -/
def step (text : List Char) : Option (List Char × List Char) × List Char :=
  match next? text with
  | some (cookie, rest) => (some cookie, rest)
  | none => (none, skipped text)

/-- The cookies of a text, in order; one without a name does not count.  Should a cookie leave the
text as long as it was, reading ends. -/
def cookiesOf (text : List Char) : List (String × String) :=
  match text with
  | [] => []
  | c :: rest =>
    let (cookie, after) := step (c :: rest)
    let found := (cookie.filter fun (name, _) => !name.isEmpty).toList.map fun (name, value) =>
      (String.ofList name, String.ofList value)
    if _h : after.length < (c :: rest).length then found ++ cookiesOf after else found
termination_by text.length
decreasing_by simpa using _h

/-- The cookies of a header line. -/
def ofHeader (line : String) : List (String × String) := cookiesOf (skipSpaces line.toList)

end TokenGate.Web.Cookie
