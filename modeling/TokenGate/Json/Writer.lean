/-
Writing JSON documents.

The text is ASCII: every other character is escaped by its UTF-16 units.  Members keep their order.
A `Layout` says what stands between items and after a member's name.
-/
import TokenGate.Datum
import TokenGate.Encoding

namespace TokenGate.Json

/-- The separators of a document. -/
structure Layout where
  item : List Char
  member : List Char

/-- No blanks at all. -/
def Layout.compact : Layout := ⟨[','], [':']⟩

/-- A blank after each separator. -/
def Layout.spaced : Layout := ⟨[',', ' '], [':', ' ']⟩

/-! ### Texts -/

/-- The escape of one UTF-16 unit. -/
def unitEscape (unit : Nat) : List Char := '\\' :: 'u' :: Text.hexPadded 4 unit

/-- One character inside a text. -/
def writeChar (c : Char) : List Char :=
  if c = '"' then ['\\', '"']
  else if c = '\\' then ['\\', '\\']
  else if c = '\n' then ['\\', 'n']
  else if c = '\r' then ['\\', 'r']
  else if c = '\t' then ['\\', 't']
  else if c = '\x0c' then ['\\', 'f']
  else if c = '\x08' then ['\\', 'b']
  else if 0x20 ≤ c.toNat && c.toNat < 0x7F then [c]
  else if c.toNat < 0x10000 then unitEscape c.toNat
  else
    let n := c.toNat - 0x10000
    unitEscape (0xD800 + n / 1024) ++ unitEscape (0xDC00 + n % 1024)

/-- A text between quotes. -/
def writeText (s : String) : List Char := '"' :: s.toList.flatMap writeChar ++ ['"']

/-! ### Values -/

/-- Items with a separator between them. -/
def joinWith (separator : List Char) : List (List Char) → List Char
  | [] => []
  | [item] => item
  | item :: rest => item ++ separator ++ joinWith separator rest

/-- An integer in decimal. -/
def writeInt (n : Int) : List Char :=
  (if n < 0 then ['-'] else []) ++ Nat.toDigits 10 n.natAbs

/-- The words of a document for what is not a finite number. -/
def floatWords : Binary64.Words := ⟨"NaN", "Infinity"⟩

mutual
/-- The document of a value; what JSON has no form for is written as a text that displays it. -/
def write (layout : Layout) : Datum → List Char
  | .null => "null".toList
  | .bool b => if b then "true".toList else "false".toList
  | .int n => writeInt n
  | .float x => (x.text floatWords).toList
  | .text s => writeText s
  | .list items | .tuple items => '[' :: joinWith layout.item (writeItems layout items) ++ [']']
  | .dict members =>
    '\x7b' :: joinWith layout.item (writeMembers layout members) ++ ['\x7d']
  | .set items => writeText (Datum.quoted (.set items))
  | .bytes bs => writeText (Datum.quoted (.bytes bs))

/-- The documents of a list's items. -/
def writeItems (layout : Layout) : List Datum → List (List Char)
  | [] => []
  | item :: rest => write layout item :: writeItems layout rest

/-- The members of an object. -/
def writeMembers (layout : Layout) : List (String × Datum) → List (List Char)
  | [] => []
  | (name, item) :: rest =>
    (writeText name ++ layout.member ++ write layout item) :: writeMembers layout rest
end

end TokenGate.Json
