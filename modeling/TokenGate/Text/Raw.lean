/-
Texts as they are received.

One half of a surrogate pair is a code point and no character, but an escape in a document can name
it, and a program that takes such an escape as it comes has a text that cannot be written in bytes.
A `RawText` is a text, or one that is `Torn` by such halves.  Where a request carries a token, either
may stand; everywhere else a text is one of characters, and a half that is read is replaced
(`Encoding.charAt`).
-/
import TokenGate.Text.Blank
import TokenGate.Text.Hex

namespace TokenGate

/-- A character, or half of a surrogate pair by its place among the halves. -/
inductive CodePoint where
  | char (c : Char)
  | half (place : Fin 0x800)
  deriving DecidableEq, Repr

namespace CodePoint

/-- The code point is no character. -/
def isHalf : CodePoint → Bool
  | half _ => true
  | char _ => false

/-- The code point is a blank character. -/
def isBlank : CodePoint → Bool
  | half _ => false
  | char c => Text.isBlank c

end CodePoint

/-- A text with a half of a surrogate pair in it: the characters before the first half, this half, and
what follows. -/
structure Torn where
  before : String
  half : Fin 0x800
  after : List CodePoint
  deriving DecidableEq, Repr

namespace Torn

/-- The code points of a torn text. -/
def codePoints (t : Torn) : List CodePoint := t.before.toList.map .char ++ .half t.half :: t.after

/-- A torn text without the blanks at its two ends. -/
def trim (t : Torn) : Torn :=
  { before := String.ofList (t.before.toList.dropWhile Text.isBlank)
    half := t.half
    after := Text.dropEndWhile CodePoint.isBlank t.after }

/-- A torn text without the first characters of those before its first half. -/
def dropFront (n : Nat) (t : Torn) : Torn :=
  { t with before := String.ofList (t.before.toList.drop n) }

/-- The number of halves that stand in a row from the first one on. -/
def halvesInRow (t : Torn) : Nat := 1 + (t.after.takeWhile CodePoint.isHalf).length

/-- Why the text cannot be written in bytes: the first half, or the first row of them. -/
def message (t : Torn) : String :=
  let start := t.before.length
  let what :=
    if t.halvesInRow = 1 then
      "character '\\u" ++ String.ofList (Text.hexPadded 4 (0xD800 + t.half)) ++ "' in position " ++
        toString start
    else
      "characters in position " ++ toString start ++ "-" ++ toString (start + t.halvesInRow - 1)
  "'utf-8' codec can't encode " ++ what ++ ": surrogates not allowed"

end Torn

/-- A text as it is received: of characters, or torn. -/
inductive RawText where
  | text (value : String)
  | torn (value : Torn)
  deriving DecidableEq, Repr

instance : Coe String RawText := ⟨.text⟩

namespace RawText

/-- The code points of a text. -/
def codePoints : RawText → List CodePoint
  | text value => value.toList.map .char
  | torn value => value.codePoints

/-- The text has nothing but blanks.  A half is no blank. -/
def blank : RawText → Bool
  | text value => Text.blank value
  | torn _ => false

end RawText

/-- A half of its own cannot be written, and of several in a row the first and the last are named. -/
example :
    Torn.message ⟨"ab", 0, []⟩ =
      "'utf-8' codec can't encode character '\\ud800' in position 2: surrogates not allowed" ∧
    Torn.message ⟨"", 0x400, [.half 0x401, .char 'x']⟩ =
      "'utf-8' codec can't encode characters in position 0-1: surrogates not allowed" := by
  decide +kernel

end TokenGate
