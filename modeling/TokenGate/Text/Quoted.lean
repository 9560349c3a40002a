/-
Quoted forms of texts and bytes, as they stand in messages.

A quoted text stands between apostrophes, or between double quotes if it holds an apostrophe and no
double quote.  The quote, the backslash, tab, line feed and carriage return are escaped by name, and
every other character that is not printable by its number.
-/
import TokenGate.Text.Hex
import TokenGate.Text.Printable

namespace TokenGate.Text

/-- The quote that a quoted form uses: an apostrophe unless that alone would need an escape. -/
def quoteFor (apostrophe doubleQuote : Bool) : Char :=
  if apostrophe && !doubleQuote then '"' else '\''

/-- An escape by number: the letter tells how many digits follow. -/
def numberedEscape (n : Nat) : List Char :=
  if n < 0x100 then ['\\', 'x'] ++ hexPadded 2 n
  else if n < 0x10000 then ['\\', 'u'] ++ hexPadded 4 n
  else ['\\', 'U'] ++ hexPadded 8 n

/-- The escapes that have a name: those of the quote, the backslash and three controls. -/
def namedEscape? (quote c : Char) : Option (List Char) :=
  if c = quote || c = '\\' then some ['\\', c]
  else if c = '\t' then some ['\\', 't']
  else if c = '\n' then some ['\\', 'n']
  else if c = '\r' then some ['\\', 'r']
  else none

/-- One character inside a quoted text. -/
def quotedChar (quote c : Char) : List Char :=
  match namedEscape? quote c with
  | some escape => escape
  | none => if isPrintable c then [c] else numberedEscape c.toNat

/-- The quoted form of a text. -/
def quoted (s : String) : String :=
  let cs := s.toList
  let quote := quoteFor (cs.contains '\'') (cs.contains '"')
  String.ofList (quote :: cs.flatMap (quotedChar quote) ++ [quote])

/-- One byte inside quoted bytes: only printable ASCII stands as it is. -/
def quotedByte (quote : Char) (b : UInt8) : List Char :=
  let c := Char.ofNat b.toNat
  match namedEscape? quote c with
  | some escape => escape
  | none => if 0x20 ≤ b.toNat && b.toNat < 0x7F then [c] else numberedEscape b.toNat

/-- The quoted form of bytes, marked by a leading `b`. -/
def quotedBytes (bs : List UInt8) : String :=
  let quote := quoteFor (bs.contains 0x27) (bs.contains 0x22)
  String.ofList ('b' :: quote :: bs.flatMap (quotedByte quote) ++ [quote])

end TokenGate.Text
