/-
Reading JSON documents.

The dialect has the words `NaN`, `Infinity` and `-Infinity`, integers of any size up to 4300 digits,
and floating-point numbers for every number with a fraction or an exponent.  Of members with one
name the last value counts, in the first one's place.

Every reading function returns the value and the text that remains, or a `Stop`: the cause and the
text that remained where it was noticed.  Only `read` turns the remaining text into a position.
The recursion spends fuel, of which a text's length supplies enough; `depthLimit` bounds nesting.  What is
said of all documents elsewhere is said for this bound.
`documentUpTo` takes the number of digits that an integer may have; `document` fixes it.
-/
import TokenGate.Datum
import TokenGate.Encoding

namespace TokenGate.Json

/-- What is wrong at a place of a document. -/
inductive Cause where
  | value
  | memberName
  | colon
  | comma
  | unterminated
  | control
  | escape
  | unicodeEscape
  | extra
  deriving DecidableEq, Repr

/-- The two containers. -/
inductive Container where
  | array
  | object
  deriving DecidableEq, Repr

/-- Why reading stopped, with the text that remained there. -/
inductive Stop where
  | malformed (cause : Cause) (rest : List Char)
  | tooDeep (container : Container)
  | tooLong (digits : Nat)
  deriving DecidableEq, Repr

/-- A value and the text after it. -/
abbrev Reading (α : Type) := Except Stop (α × List Char)

/-- A stop at the given text. -/
def stop {α : Type} (cause : Cause) (rest : List Char) : Reading α := .error (.malformed cause rest)

/-- Containers nest at most this deep.  The number stands for the end of a stack, which is the nearer the
more calls have led to the reader: a document that nests a hundred deep can be read wherever it is met,
and one that nests three thousand deep nowhere, but in between a reader may also give up earlier or later
than here. -/
def depthLimit : Nat := 990

/-! ### Blanks and literal words -/

/-- Space, tab, line feed and carriage return. -/
def isBlank (c : Char) : Bool := c == ' ' || c == '\t' || c == '\n' || c == '\r'

/-- The text without the blanks in front. -/
def skipBlanks (text : List Char) : List Char := text.dropWhile isBlank

/-- The words and what they stand for. -/
def words : List (List Char × Datum) :=
  [("null".toList, .null), ("true".toList, .bool true), ("false".toList, .bool false),
   ("NaN".toList, .float .nan), ("Infinity".toList, .float (.infinite false)),
   ("-Infinity".toList, .float (.infinite true))]

/-- The word that the text starts with. -/
def word? (text : List Char) : Option (Datum × List Char) :=
  words.findSome? fun (word, value) => (word.isPrefixOf? text).map (value, ·)

/-! ### Numbers -/

/-- The digits in front of a text, and the rest. -/
def spanDigits (text : List Char) : List Char × List Char :=
  (text.takeWhile Char.isDigit, text.dropWhile Char.isDigit)

/-- A minus sign in front. -/
def spanSign : List Char → Bool × List Char
  | '-' :: rest => (true, rest)
  | text => (false, text)

/-- The digits before the point: a zero stands alone. -/
def spanWhole : List Char → List Char × List Char
  | '0' :: rest => (['0'], rest)
  | text => spanDigits text

/-- A point and at least one digit. -/
def fraction? : List Char → Option (List Char × List Char)
  | '.' :: rest =>
    let (digits, rest) := spanDigits rest
    if digits.isEmpty then none else some (digits, rest)
  | _ => none

/-- The letter of an exponent, a sign if there is one, and at least one digit. -/
def exponent? : List Char → Option (Int × List Char)
  | letter :: rest =>
    if letter = 'e' || letter = 'E' then
      let (negative, rest) :=
        match rest with
        | '-' :: rest => (true, rest)
        | '+' :: rest => (false, rest)
        | rest => (false, rest)
      let (digits, rest) := spanDigits rest
      let n : Int := Nat.ofDigitChars 10 digits 0
      if digits.isEmpty then none else some (if negative then -n else n, rest)
    else none
  | [] => none

/-- The integer of a sign and digits. -/
def integer (negative : Bool) (digits : List Char) : Int :=
  let n := Nat.ofDigitChars 10 digits 0
  if negative then -n else n

/-- The floating-point number of a sign, digits around a point, and an exponent. -/
def decimal (negative : Bool) (whole fraction : List Char) (exponent : Int) : Binary64 :=
  let digits := (whole ++ fraction).dropWhile (· == '0')
  .ofDecimal negative (Nat.ofDigitChars 10 digits 0) digits.length (exponent - fraction.length)

/-- The number that the text starts with; an integer has at most `limit` digits. -/
def number (limit : Nat) (text : List Char) : Reading Datum :=
  let (negative, body) := spanSign text
  match spanWhole body with
  | ([], _) => stop .value text
  | (whole, rest) =>
    match fraction? rest with
    | some (fraction, rest) =>
      match exponent? rest with
      | some (exponent, rest) => .ok (.float (decimal negative whole fraction exponent), rest)
      | none => .ok (.float (decimal negative whole fraction 0), rest)
    | none =>
      match exponent? rest with
      | some (exponent, rest) => .ok (.float (decimal negative whole [] exponent), rest)
      | none =>
        if whole.length > limit then .error (.tooLong whole.length)
        else .ok (.int (integer negative whole), rest)

/-! ### Texts -/

/-- The character of an escape of one letter. -/
def shortEscape? (c : Char) : Option Char :=
  if c = '"' || c = '\\' || c = '/' then some c
  else if c = 'b' then some '\x08'
  else if c = 'f' then some '\x0c'
  else if c = 'n' then some '\n'
  else if c = 'r' then some '\r'
  else if c = 't' then some '\t'
  else none

/-- What stands after the escape of a first half of a surrogate pair. -/
inductive Partner where
  | none
  | low (unit : Nat)
  | broken (rest : List Char)

/-- The escape of a second half.  As after every numbered escape, a character has to follow. -/
def partner : List Char → Partner
  | '\\' :: 'u' :: a :: b :: c :: d :: next :: rest =>
    match Text.hexQuad? a b c d with
    | some unit => if Encoding.isLowSurrogate unit then .low unit else .none
    | .none => .broken ('u' :: a :: b :: c :: d :: next :: rest)
  | _ => .none

/-- A character in front of the rest of a text. -/
def consChar (c : Char) (r : Reading (List Char)) : Reading (List Char) :=
  r.map fun (cs, rest) => (c :: cs, rest)

/-- The characters of a text up to its closing quote; `opening` is the text from the opening one. -/
def characters (opening : List Char) : List Char → Reading (List Char)
  | [] => stop .unterminated opening
  | c :: rest =>
    if c = '"' then .ok ([], rest)
    else if c = '\\' then
      match rest with
      | [] => stop .unterminated opening
      | letter :: rest =>
        if letter = 'u' then
          match rest with
          | p :: q :: r :: s :: rest =>
            if rest.isEmpty then stop .unicodeEscape (letter :: p :: q :: r :: s :: rest)
            else
              match Text.hexQuad? p q r s with
              | none => stop .unicodeEscape (letter :: p :: q :: r :: s :: rest)
              | some unit =>
                if Encoding.isHighSurrogate unit then
                  match partner rest with
                  | .none => consChar (Encoding.charAt unit) (characters opening rest)
                  | .broken place => stop .unicodeEscape place
                  | .low other =>
                    match rest with
                    | _ :: _ :: _ :: _ :: _ :: _ :: rest =>
                      consChar (Char.ofNat (Encoding.joinSurrogates unit other))
                        (characters opening rest)
                    | _ => stop .unterminated opening
                else consChar (Encoding.charAt unit) (characters opening rest)
          | _ => stop .unicodeEscape (letter :: rest)
        else
          match shortEscape? letter with
          | some d => consChar d (characters opening rest)
          | none => stop .escape (c :: letter :: rest)
    else if c.toNat < 0x20 then stop .control (c :: rest)
    else consChar c (characters opening rest)

/-- The text that starts with an opening quote. -/
def string (text : List Char) : Reading String :=
  (characters text (text.drop 1)).map fun (cs, rest) => (String.ofList cs, rest)

/-! ### Values -/

/-- The opening and closing marks of objects. -/
def openBrace : Char := '\x7b'

@[inherit_doc openBrace]
def closeBrace : Char := '\x7d'

mutual
/-- The value that the text starts with. -/
def value (limit : Nat) : (fuel depth : Nat) → List Char → Reading Datum
  | 0, _, text => stop .value text
  | _ + 1, _, [] => stop .value []
  | fuel + 1, depth, c :: rest =>
    if c = '"' then (string (c :: rest)).map fun (s, rest) => (.text s, rest)
    else if c = openBrace then
      match depth with
      | 0 => .error (.tooDeep .object)
      | depth + 1 =>
        let inner := skipBlanks rest
        if inner.head? = some closeBrace then .ok (.dict [], inner.drop 1)
        else
          (members limit fuel depth inner).map fun (pairs, rest) =>
            (.dict (Record.ofPairs pairs), rest)
    else if c = '[' then
      match depth with
      | 0 => .error (.tooDeep .array)
      | depth + 1 =>
        let inner := skipBlanks rest
        if inner.head? = some ']' then .ok (.list [], inner.drop 1)
        else (items limit fuel depth inner).map fun (values, rest) => (.list values, rest)
    else
      match word? (c :: rest) with
      | some result => .ok result
      | none => number limit (c :: rest)

/-- The values of an array from the first one to the closing bracket. -/
def items (limit : Nat) : (fuel depth : Nat) → List Char → Reading (List Datum)
  | 0, _, text => stop .value text
  | fuel + 1, depth, text =>
    match value limit fuel depth text with
    | .error e => .error e
    | .ok (first, rest) =>
      match skipBlanks rest with
      | [] => stop .comma []
      | c :: rest =>
        if c = ']' then .ok ([first], rest)
        else if c = ',' then
          (items limit fuel depth (skipBlanks rest)).map fun (values, rest) =>
            (first :: values, rest)
        else stop .comma (c :: rest)

/-- The members of an object from the first name to the closing brace. -/
def members (limit : Nat) : (fuel depth : Nat) → List Char → Reading (List (String × Datum))
  | 0, _, text => stop .value text
  | fuel + 1, depth, text =>
    if text.head? ≠ some '"' then stop .memberName text
    else
      match string text with
      | .error e => .error e
      | .ok (name, rest) =>
        match skipBlanks rest with
        | [] => stop .colon []
        | c :: rest =>
          if c = ':' then
            match value limit fuel depth (skipBlanks rest) with
            | .error e => .error e
            | .ok (first, rest) =>
              match skipBlanks rest with
              | [] => stop .comma []
              | c :: rest =>
                if c = closeBrace then .ok ([(name, first)], rest)
                else if c = ',' then
                  (members limit fuel depth (skipBlanks rest)).map fun (pairs, rest) =>
                    ((name, first) :: pairs, rest)
                else stop .comma (c :: rest)
          else stop .colon (c :: rest)
end

/-- The one value of a text, with blanks around it; integers have at most `limit` digits. -/
def documentUpTo (limit : Nat) (text : List Char) : Except Stop Datum :=
  match value limit (2 * text.length + 2) depthLimit (skipBlanks text) with
  | .error e => .error e
  | .ok (d, rest) =>
    match skipBlanks rest with
    | [] => .ok d
    | c :: rest => .error (.malformed .extra (c :: rest))

/-- The one value of a text, with blanks around it. -/
def document (text : List Char) : Except Stop Datum := documentUpTo Datum.digitLimit text

/-! ### Faults -/

/-- Why bytes are no document. -/
inductive Fault where
  | undecodable (why : Encoding.Fault)
  | malformed (cause : Cause) (line column offset : Nat)
  | tooDeep (container : Container)
  | tooLong (digits : Nat)
  deriving DecidableEq, Repr

/-- The place of what remains of a text: line and column count from one, the offset from zero. -/
def place (text rest : List Char) : Nat × Nat × Nat :=
  let before := text.take (text.length - rest.length)
  (before.count '\n' + 1, (before.reverse.takeWhile (· != '\n')).length + 1, before.length)

/-- A stop as a fault of the whole text. -/
def Stop.fault (text : List Char) : Stop → Fault
  | .malformed cause rest =>
    let (line, column, offset) := place text rest
    .malformed cause line column offset
  | .tooDeep container => .tooDeep container
  | .tooLong digits => .tooLong digits

/-- The value of a document in bytes. -/
def read (bytes : List UInt8) : Except Fault Datum :=
  match Encoding.decodeDocument bytes with
  | .error why => .error (.undecodable why)
  | .ok text =>
    match document text with
    | .error s => .error (s.fault text)
    | .ok d => .ok d

/-! ### Messages -/

/-- The wording of a cause. -/
def Cause.text : Cause → String
  | .value => "Expecting value"
  | .memberName => "Expecting property name enclosed in double quotes"
  | .colon => "Expecting ':' delimiter"
  | .comma => "Expecting ',' delimiter"
  | .unterminated => "Unterminated string starting at"
  | .control => "Invalid control character at"
  | .escape => "Invalid \\escape"
  | .unicodeEscape => "Invalid \\uXXXX escape"
  | .extra => "Extra data"

/-- The wording of a fault. -/
def Fault.message : Fault → String
  | .undecodable why => why.message
  | .malformed cause line column offset =>
    cause.text ++ ": line " ++ toString line ++ " column " ++ toString column ++ " (char " ++
      toString offset ++ ")"
  | .tooDeep container =>
    "maximum recursion depth exceeded while decoding a JSON " ++
      (match container with
        | .array => "array"
        | .object => "object") ++ " from a unicode string"
  | .tooLong digits =>
    "Exceeds the limit (4300 digits) for integer string conversion: value has " ++
      toString digits ++ " digits; use sys.set_int_max_str_digits() to increase the limit"

end TokenGate.Json
