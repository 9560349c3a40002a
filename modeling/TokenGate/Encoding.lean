/-
Text encodings: UTF-8, and UTF-16 and UTF-32 in both byte orders.

`decodeDocument` reads the bytes of a document as characters or says which bytes rule the text out and
why; the position is that of the first of them.  `detect` finds the encoding of a document from its
first four bytes.  A half of a surrogate pair is no character.  A document may hold one by itself, and it
is read as the replacement character there: this is as far as a text of characters goes, and texts that
differ in such halves only are one text here.  In all other bytes it is a fault (`decodeStrict`).
-/
import TokenGate.Text.Hex

namespace TokenGate

/-- The text encodings. -/
inductive Encoding where
  | utf8
  | utf16 (bigEndian : Bool)
  | utf32 (bigEndian : Bool)
  deriving DecidableEq, Repr

namespace Encoding

/-- What makes bytes no text. -/
inductive Reason where
  | startByte
  | continuationByte
  | endOfData
  | truncated
  | outOfRange
  deriving DecidableEq, Repr

/-- The bytes that rule a text out: where the first stands, and why. -/
structure Fault where
  encoding : Encoding
  position : Nat
  bytes : List UInt8
  reason : Reason
  deriving DecidableEq, Repr

/-- The character of a code point, the replacement character for a surrogate. -/
def charAt (n : Nat) : Char := if 0xD800 ≤ n && n < 0xE000 then '\uFFFD' else Char.ofNat n

/-- A character in front of the text that follows it. -/
def consText (c : Char) (rest : Except Fault (List Char)) : Except Fault (List Char) :=
  rest.map (c :: ·)

/-! ### UTF-8 -/

/-- The lowest six bits of a continuation byte. -/
def low (b : UInt8) : Nat := b.toNat % 64

/-- The byte continues a sequence. -/
def continues (b : UInt8) : Bool := 0x80 ≤ b && b < 0xC0

/-- The byte may follow a start byte of three or four: no longer form than needed, no value above
the last code point. -/
def continuesAfter (start b : UInt8) : Bool :=
  continues b && !(start == 0xE0 && b < 0xA0) && !(start == 0xF0 && b < 0x90) &&
    !(start == 0xF4 && b ≥ 0x90)

/-- The sequence encodes a surrogate. -/
def surrogateStart (start b : UInt8) : Bool := start == 0xED && b ≥ 0xA0

/-- A fault of UTF-8. -/
def utf8Fault (position : Nat) (bytes : List UInt8) (reason : Reason) :
    Except Fault (List Char) :=
  .error ⟨.utf8, position, bytes, reason⟩

/-- The characters of bytes from a position on. -/
def decodeUtf8From (position : Nat) : List UInt8 → Except Fault (List Char)
  | [] => .ok []
  | a :: rest =>
    if a < 0x80 then consText (Char.ofNat a.toNat) (decodeUtf8From (position + 1) rest)
    else if a < 0xC2 || 0xF5 ≤ a then utf8Fault position [a] .startByte
    else
      match rest with
      | [] => utf8Fault position [a] .endOfData
      | b :: rest =>
        if a < 0xE0 then
          if continues b then
            consText (Char.ofNat (a.toNat % 32 * 64 + low b)) (decodeUtf8From (position + 2) rest)
          else utf8Fault position [a] .continuationByte
        else if !continuesAfter a b then utf8Fault position [a] .continuationByte
        else
          match rest with
          | [] =>
            if surrogateStart a b then utf8Fault position [a] .continuationByte
            else utf8Fault position [a, b] .endOfData
          | c :: rest =>
            if a < 0xF0 then
              if continues c then
                consText (charAt ((a.toNat % 16 * 64 + low b) * 64 + low c))
                  (decodeUtf8From (position + 3) rest)
              else if surrogateStart a b then utf8Fault position [a] .continuationByte
              else utf8Fault position [a, b] .continuationByte
            else if !continues c then utf8Fault position [a, b] .continuationByte
            else
              match rest with
              | [] => utf8Fault position [a, b, c] .endOfData
              | d :: rest =>
                if continues d then
                  consText
                    (Char.ofNat (((a.toNat % 8 * 64 + low b) * 64 + low c) * 64 + low d))
                    (decodeUtf8From (position + 4) rest)
                else utf8Fault position [a, b, c] .continuationByte

/-- The characters of bytes. -/
def decodeUtf8 (bytes : List UInt8) : Except Fault (List Char) := decodeUtf8From 0 bytes

/-- The place of the first half of a surrogate pair. -/
def halfPlace? : List UInt8 → Option Nat
  | a :: b :: rest =>
    if surrogateStart a b && continues b then some 0 else (halfPlace? (b :: rest)).map (· + 1)
  | _ => none

/-- The characters of bytes that encode no half of a surrogate pair. -/
def decodeStrict (bytes : List UInt8) : Except Fault (List Char) :=
  match halfPlace? bytes with
  | none => decodeUtf8 bytes
  | some place =>
    match decodeUtf8 (bytes.take place) with
    | .ok _ => utf8Fault place ((bytes.drop place).take 1) .continuationByte
    | .error f => .error f

/-- The characters of bytes, with each run of bytes that rules a text out replaced. -/
def replaceFaults (replacement : List UInt8 → List Char) : (fuel : Nat) → List UInt8 → List Char
  | 0, _ => []
  | fuel + 1, bytes =>
    match decodeStrict bytes with
    | .ok cs => cs
    | .error f =>
      (decodeStrict (bytes.take f.position)).toOption.getD [] ++ replacement f.bytes ++
        replaceFaults replacement fuel (bytes.drop (f.position + f.bytes.length))

@[inherit_doc replaceFaults]
def decodeUtf8With (replacement : List UInt8 → List Char) (bytes : List UInt8) : List Char :=
  replaceFaults replacement (bytes.length + 1) bytes

/-- The characters of bytes, with a replacement character for each run of bytes that rules a text
out. -/
def decodeUtf8Lossy (bytes : List UInt8) : List Char := decodeUtf8With (fun _ => ['\uFFFD']) bytes

/-- The bytes of characters. -/
def encodeUtf8 (cs : List Char) : List UInt8 := cs.flatMap String.utf8EncodeChar

/-! ### UTF-16 and UTF-32 -/

/-- The number of two bytes. -/
def pair (bigEndian : Bool) (a b : UInt8) : Nat :=
  if bigEndian then a.toNat * 256 + b.toNat else b.toNat * 256 + a.toNat

/-- The code point of a surrogate pair. -/
def joinSurrogates (high low : Nat) : Nat := (high - 0xD800) * 1024 + (low - 0xDC00) + 0x10000

/-- The number is the first half of a surrogate pair. -/
def isHighSurrogate (n : Nat) : Bool := 0xD800 ≤ n && n < 0xDC00

/-- The number is the second half of a surrogate pair. -/
def isLowSurrogate (n : Nat) : Bool := 0xDC00 ≤ n && n < 0xE000

/-- The units of UTF-16 bytes from a position on. -/
def units16 (bigEndian : Bool) (position : Nat) : List UInt8 → Except Fault (List Nat)
  | [] => .ok []
  | [a] => .error ⟨.utf16 bigEndian, position, [a], .truncated⟩
  | a :: b :: rest =>
    (units16 bigEndian (position + 2) rest).map (pair bigEndian a b :: ·)

/-- The characters of UTF-16 units. -/
def joinUnits : List Nat → List Char
  | [] => []
  | [n] => [charAt n]
  | n :: m :: rest =>
    if isHighSurrogate n && isLowSurrogate m then
      Char.ofNat (joinSurrogates n m) :: joinUnits rest
    else charAt n :: joinUnits (m :: rest)

/-- The characters of UTF-32 bytes from a position on. -/
def decodeUtf32From (bigEndian : Bool) (position : Nat) : List UInt8 → Except Fault (List Char)
  | [] => .ok []
  | a :: b :: c :: d :: rest =>
    let n :=
      if bigEndian then pair true a b * 65536 + pair true c d
      else pair false c d * 65536 + pair false a b
    if n < 0x110000 then consText (charAt n) (decodeUtf32From bigEndian (position + 4) rest)
    else .error ⟨.utf32 bigEndian, position, [a, b, c, d], .outOfRange⟩
  | bytes => .error ⟨.utf32 bigEndian, position, bytes, .truncated⟩

/-! ### Documents -/

/-- The byte-order marks, what encoding each tells, and the position that counting starts from after
it: a mark counts in UTF-16 and UTF-32, not in UTF-8. -/
def marks : List (List UInt8 × Encoding × Nat) :=
  [([0xFF, 0xFE, 0x00, 0x00], .utf32 false, 4), ([0x00, 0x00, 0xFE, 0xFF], .utf32 true, 4),
    ([0xFF, 0xFE], .utf16 false, 2), ([0xFE, 0xFF], .utf16 true, 2), ([0xEF, 0xBB, 0xBF], .utf8, 0)]

/-- The encoding of a document without a mark, told by the null bytes at its start. -/
def unmarked : List UInt8 → Encoding
  | a :: b :: c :: d :: _ =>
    if a == 0 then (if b == 0 then .utf32 true else .utf16 true)
    else if b == 0 then (if c == 0 && d == 0 then .utf32 false else .utf16 false)
    else .utf8
  | [a, b] => if a == 0 then .utf16 true else if b == 0 then .utf16 false else .utf8
  | _ => .utf8

/-- The encoding of a document, the length of the mark that it starts with, and the position that
counting starts from. -/
def detect (bytes : List UInt8) : Encoding × Nat × Nat :=
  match marks.find? fun m => m.1.isPrefixOf bytes with
  | some (mark, encoding, start) => (encoding, mark.length, start)
  | none => (unmarked bytes, 0, 0)

/-- The characters of a document whose encoding its first bytes tell. -/
def decodeDocument (bytes : List UInt8) : Except Fault (List Char) :=
  match detect bytes with
  | (.utf8, mark, start) => decodeUtf8From start (bytes.drop mark)
  | (.utf16 bigEndian, mark, start) => (units16 bigEndian start (bytes.drop mark)).map joinUnits
  | (.utf32 bigEndian, mark, start) => decodeUtf32From bigEndian start (bytes.drop mark)

/-! ### Messages -/

/-- The name of an encoding in messages. -/
def name : Encoding → String
  | .utf8 => "utf-8"
  | .utf16 bigEndian => if bigEndian then "utf-16-be" else "utf-16-le"
  | .utf32 bigEndian => if bigEndian then "utf-32-be" else "utf-32-le"

/-- The wording of a reason. -/
def Reason.text : Reason → String
  | .startByte => "invalid start byte"
  | .continuationByte => "invalid continuation byte"
  | .endOfData => "unexpected end of data"
  | .truncated => "truncated data"
  | .outOfRange => "code point not in range(0x110000)"

/-- The wording of a fault: one byte is shown, several are named by their positions. -/
def Fault.message (f : Fault) : String :=
  let what :=
    match f.bytes with
    | [b] => "byte 0x" ++ String.ofList (Text.hexPadded 2 b.toNat) ++ " in position " ++
        toString f.position
    | bytes => "bytes in position " ++ toString f.position ++ "-" ++
        toString (f.position + bytes.length - 1)
  "'" ++ f.encoding.name ++ "' codec can't decode " ++ what ++ ": " ++ f.reason.text

end Encoding

end TokenGate
