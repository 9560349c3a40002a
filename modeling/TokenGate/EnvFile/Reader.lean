/-
Reading environment files.

A file is a row of bindings with blanks and comments between them.  A binding is a name, quoted or
bare, and after an equals sign a value: between apostrophes, between double quotes (both may span
lines) or bare to the end of its line.  A name without an equals sign has no value.  Where a line
does not fit, reading goes on after its end.  `bindings` reads a whole file, line by line: every
line leaves a shorter text.
-/
import TokenGate.Text.Blank

namespace TokenGate.EnvFile

/-- A name with its value, if the line has one. -/
structure Binding where
  name : List Char
  value : Option (List Char)
  deriving DecidableEq, Repr

/-- The result of reading a part of a text, with the rest; or the place where reading stopped. -/
abbrev Reading (α : Type) := Except (List Char) (α × List Char)

/-! ### Blanks and comments -/

/-- A blank that does not end a line. -/
def isLineBlank (c : Char) : Bool := Text.isBlank c && c != '\n'

/-- The character belongs to the line. -/
def inLine (c : Char) : Bool := c != '\n'

/-- The text after the blanks of its line. -/
def skipLineBlanks (text : List Char) : List Char := text.dropWhile isLineBlank

/-- The text after the end of its line. -/
def skipLine (text : List Char) : List Char := (text.dropWhile inLine).drop 1

/-- The text after a comment, if one is next. -/
def skipComment (text : List Char) : List Char :=
  match skipLineBlanks text with
  | '#' :: rest => rest.dropWhile inLine
  | _ => text

/-- The text after the end of a line, which must be next. -/
def endLine (text : List Char) : Reading Unit :=
  match skipLineBlanks text with
  | [] => .ok ((), [])
  | '\n' :: rest => .ok ((), rest)
  | _ => .error text

/-- The word that may stand before a name. -/
def exportWord : List Char := "export".toList

/-- The text after the word for exported names, if it and a blank are next. -/
def skipExport (text : List Char) : List Char :=
  match exportWord.isPrefixOf? text with
  | some (c :: rest) => if isLineBlank c then skipLineBlanks rest else text
  | _ => text

/-! ### Names -/

/-- A character of a bare name. -/
def inName (c : Char) : Bool := c != '=' && c != '#' && !Text.isBlank c

/-- A character of a quoted name. -/
def inQuotedName (c : Char) : Bool := c != '\''

/-- The name that is next; at a comment there is none. -/
def name (text : List Char) : Reading (Option (List Char)) :=
  match text with
  | '#' :: _ => .ok (none, text)
  | '\'' :: rest =>
    match rest.takeWhile inQuotedName, rest.dropWhile inQuotedName with
    | c :: cs, _ :: after => .ok (some (c :: cs), after)
    | _, _ => .error text
  | _ =>
    match text.takeWhile inName with
    | [] => .error text
    | c :: cs => .ok (some (c :: cs), text.dropWhile inName)

/-! ### Values -/

/-- The inside of a quoted value and the text after its closing quote.  A backslash and the
character after it belong together, so that a quote after a backslash closes nothing. -/
def quotedInside (quote : Char) : List Char → Option (List Char × List Char)
  | [] => none
  | '\\' :: c :: rest =>
    (quotedInside quote rest).map fun (inside, after) => ('\\' :: c :: inside, after)
  | c :: rest =>
    if c = quote then some ([], rest)
    else (quotedInside quote rest).map fun (inside, after) => (c :: inside, after)

/-- The escapes between apostrophes. -/
def singleEscapes : List (Char × Char) := [('\\', '\\'), ('\'', '\'')]

/-- The escapes between double quotes. -/
def doubleEscapes : List (Char × Char) :=
  [('\\', '\\'), ('\'', '\''), ('"', '"'), ('a', '\x07'), ('b', '\x08'), ('f', '\x0c'), ('n', '\n'),
   ('r', '\r'), ('t', '\t'), ('v', '\x0b')]

/-- The text with its escapes replaced; a backslash before anything else stands for itself. -/
def unescape (escapes : List (Char × Char)) : List Char → List Char
  | '\\' :: c :: rest =>
    match escapes.lookup c with
    | some d => d :: unescape escapes rest
    | none => '\\' :: unescape escapes (c :: rest)
  | c :: rest => c :: unescape escapes rest
  | [] => []

/-- The text up to the blanks before a number sign. -/
def cutComment : List Char → List Char
  | [] => []
  | c :: rest =>
    if Text.isBlank c && (rest.dropWhile Text.isBlank).head? == some '#' then []
    else c :: cutComment rest

/-- A bare value: its line without a comment and without blanks at the end. -/
def bareValue (text : List Char) : List Char :=
  Text.trimEndChars (cutComment (text.takeWhile inLine))

/-- A quoted value. -/
def quotedValue (quote : Char) (escapes : List (Char × Char)) (text rest : List Char) :
    Reading (List Char) :=
  match quotedInside quote rest with
  | some (inside, after) => .ok (unescape escapes inside, after)
  | none => .error text

/-- The value that is next.  After a blank a number sign starts a comment, so that the value is
empty. -/
def value (afterBlank : Bool) (text : List Char) : Reading (List Char) :=
  match text with
  | '\'' :: rest => quotedValue '\'' singleEscapes text rest
  | '"' :: rest => quotedValue '"' doubleEscapes text rest
  | '#' :: _ =>
    if afterBlank then .ok ([], text) else .ok (bareValue text, text.dropWhile inLine)
  | _ => .ok (bareValue text, text.dropWhile inLine)

/-- The value after an equals sign, if one is next. -/
def assigned (text : List Char) : Except (List Char) (Option (List Char) × List Char) :=
  match skipLineBlanks text with
  | '=' :: rest => do
    let (v, after) ← value (skipLineBlanks rest != rest) (skipLineBlanks rest)
    return (some v, after)
  | rest => .ok (none, rest)

/-! ### Bindings -/

/-- The binding on the next line with anything on it; a comment line has none. -/
def binding (text : List Char) : Except (List Char) (Option Binding × List Char) := do
  let (name, rest) ← name (skipExport text)
  let (value, rest) ← assigned rest
  let ((), rest) ← endLine (skipComment rest)
  return (name.map fun n => ⟨n, value⟩, rest)

/-- What the next line holds, and the text after it; a line that does not fit holds nothing. -/
def line (text : List Char) : Option Binding × List Char :=
  match binding text with
  | .ok read => read
  | .error stopped => (none, skipLine stopped)

/-- The bindings of a text.  Should a line leave the text as long as it was, reading ends. -/
def bindingsOf (text : List Char) : List Binding :=
  match text.dropWhile Text.isBlank with
  | [] => []
  | c :: rest =>
    let (found, after) := line (c :: rest)
    if _h : after.length < text.length then found.toList ++ bindingsOf after else found.toList
termination_by text.length
decreasing_by exact _h

/-! ### Files -/

/-- The text with one form of line ends. -/
def unifyLineEnds : List Char → List Char
  | [] => []
  | '\r' :: '\n' :: rest => '\n' :: unifyLineEnds rest
  | c :: rest => (if c = '\r' then '\n' else c) :: unifyLineEnds rest

/-- The text without a byte-order mark at its front. -/
def dropMark : List Char → List Char
  | '\uFEFF' :: rest => rest
  | text => text

/-- The bindings of a file, in order. -/
def bindings (file : String) : List Binding := bindingsOf (dropMark (unifyLineEnds file.toList))

end TokenGate.EnvFile
