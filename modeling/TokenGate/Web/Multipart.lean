/-
Forms in parts.

The parts stand between delimiters: a line with two dashes and the boundary that the kind of the body
names, and two more dashes after it for the last one.  What precedes the first delimiter does not count.
A part has headers, an empty line and data; its `Content-Disposition` header names the field, and with a
name for a file it is no field.  A body that does not end as it should, or has a part without that
header, has no fields at all.

The body is read as a whole.  A server that receives fields of more than 500 000 bytes, or more than 1000
parts, turns the request away; such bodies are not considered here.
-/
import TokenGate.Web.Options

namespace TokenGate.Web.Multipart

/-! ### Lines -/

/-- A carriage return. -/
def carriageReturn : UInt8 := 0x0D

/-- A line feed. -/
def lineFeed : UInt8 := 0x0A

/-- A byte that ends a line. -/
def isBreak (b : UInt8) : Bool := b == carriageReturn || b == lineFeed

/-- A blank byte. -/
def isBlank (b : UInt8) : Bool := b == 0x20 || (0x09 ≤ b && b ≤ 0x0D)

/-- The bytes after a line break: a carriage return with a line feed, or one of them. -/
def afterBreak? : List UInt8 → Option (List UInt8)
  | 0x0D :: 0x0A :: rest => some rest
  | b :: rest => if isBreak b then some rest else none
  | [] => none

/-- The bytes before an empty line, and those from its end on. -/
def cutAtEmptyLine? : List UInt8 → Option (List UInt8 × List UInt8)
  | [] => none
  | 0x0D :: 0x0A :: 0x0D :: 0x0A :: rest => some ([], 0x0D :: 0x0A :: rest)
  | 0x0D :: 0x0D :: rest => some ([], 0x0D :: rest)
  | 0x0A :: 0x0A :: rest => some ([], 0x0A :: rest)
  | b :: rest => (cutAtEmptyLine? rest).map fun (before, after) => (b :: before, after)

/-- The bytes with lines joined to the ones before them that they go on with: those that start with a
space or a tab. -/
def joinedLines : List UInt8 → List UInt8
  | [] => []
  | [b] => [b]
  | 0x0D :: 0x0A :: c :: rest =>
    if c == 0x20 || c == 0x09 then 0x20 :: joinedLines rest
    else 0x0D :: joinedLines (0x0A :: c :: rest)
  | b :: c :: rest =>
    if isBreak b && (c == 0x20 || c == 0x09) then 0x20 :: joinedLines rest
    else b :: joinedLines (c :: rest)

/-! ### Delimiters -/

/-- What follows a delimiter: another part, from the next line on, or nothing. -/
inductive Delimiter where
  | part (rest : List UInt8)
  | last

/-- The end of a delimiter's line. -/
def delimiterEnd? : List UInt8 → Option Delimiter
  | 0x2D :: 0x2D :: _ => some .last
  | rest =>
    (afterBreak? (rest.dropWhile fun b => isBlank b && !isBreak b)).map .part

/-- The delimiter that is next. -/
def delimiter? (boundary bytes : List UInt8) : Option Delimiter :=
  let mark := 0x2D :: 0x2D :: boundary
  if mark.isPrefixOf bytes then delimiterEnd? (bytes.drop mark.length) else none

/-- The first delimiter, wherever it stands. -/
def first? (boundary : List UInt8) : List UInt8 → Option Delimiter
  | [] => none
  | b :: rest => (delimiter? boundary (b :: rest)).or (first? boundary rest)

/-- The bytes before the next delimiter, which stands on a line of its own, and the delimiter. -/
def cutAtDelimiter? (boundary : List UInt8) : List UInt8 → Option (List UInt8 × Delimiter)
  | [] => none
  | b :: rest =>
    match (afterBreak? (b :: rest)).bind (delimiter? boundary) with
    | some found => some ([], found)
    | none => (cutAtDelimiter? boundary rest).map fun (before, found) => (b :: before, found)

/-! ### Parts -/

/-- Headers and data. -/
structure Part where
  headers : List (String × String)
  data : List UInt8

/-- A header of a line, with the blanks around its name and its value dropped. -/
def header (line : List Char) : String × String :=
  let (name, value) := Address.cutAt ':' line
  (Text.trim (String.ofList name), Text.trim (String.ofList value))

/-- A line without the blanks around it. -/
def trimmed (line : List UInt8) : List UInt8 :=
  Text.dropEndWhile isBlank (line.dropWhile isBlank)

/-- The headers that bytes write, if they are texts. -/
def headers? (bytes : List UInt8) : Option (List (String × String)) :=
  let lines := ((joinedLines bytes).splitBy fun b c => isBreak b == isBreak c).map trimmed
  (lines.filter fun line => !line.isEmpty).mapM fun line =>
    (Encoding.decodeStrict line).toOption.map header

/-- The part that is next, and what follows its data. -/
def part? (boundary bytes : List UInt8) : Option (Part × Delimiter) := do
  let (before, rest) ← cutAtEmptyLine? bytes
  let headers ← headers? before
  let (data, found) ← cutAtDelimiter? boundary rest
  -- the data starts after the line break that it is cut off with
  let lead := rest.length - ((afterBreak? rest).getD rest).length
  return (⟨headers, data.drop lead⟩, found)

/-! ### A part takes up bytes -/

theorem length_afterBreak?_lt : ∀ {bytes rest : List UInt8}, afterBreak? bytes = some rest →
    rest.length < bytes.length := by
  intro bytes
  fun_cases afterBreak? bytes with
  | case1 rest => rintro _ ⟨⟩; exact Nat.lt_add_of_pos_right Nat.two_pos
  | case2 => rintro _ ⟨⟩; exact Nat.lt_succ_self _
  | case3 => nofun
  | case4 => nofun

theorem length_cutAtEmptyLine?_le : ∀ {bytes before rest : List UInt8},
    cutAtEmptyLine? bytes = some (before, rest) → rest.length ≤ bytes.length := by
  intro bytes
  fun_induction cutAtEmptyLine? bytes with
  | case1 => nofun
  | case2 | case3 | case4 => rintro _ _ ⟨⟩; simp only [List.length_cons]; omega
  | case5 b rest _ _ _ ih =>
    intro _ _ h
    obtain ⟨⟨before, after⟩, hr, ⟨⟩⟩ := Option.map_eq_some_iff.1 h
    exact Nat.le_succ_of_le (ih hr)

theorem length_delimiterEnd?_le {bytes rest : List UInt8}
    (h : delimiterEnd? bytes = some (.part rest)) : rest.length ≤ bytes.length := by
  simp only [delimiterEnd?] at h
  split at h
  · cases h
  · obtain ⟨after, hb, ⟨⟩⟩ := Option.map_eq_some_iff.1 h
    exact Nat.le_trans (Nat.le_of_lt (length_afterBreak?_lt hb)) (List.dropWhile_sublist _).length_le

theorem length_delimiter?_le {boundary bytes rest : List UInt8}
    (h : delimiter? boundary bytes = some (.part rest)) : rest.length ≤ bytes.length := by
  simp only [delimiter?] at h
  split at h
  · exact Nat.le_trans (length_delimiterEnd?_le h) (List.drop_sublist _ _).length_le
  · cases h

theorem length_cutAtDelimiter?_lt {boundary : List UInt8} : ∀ {bytes before rest : List UInt8},
    cutAtDelimiter? boundary bytes = some (before, .part rest) → rest.length < bytes.length := by
  intro bytes
  induction bytes with
  | nil => nofun
  | cons b bytes ih =>
    intro _ _ h
    rw [cutAtDelimiter?] at h
    split at h
    · next hd =>
      cases h
      obtain ⟨after, hb, hd⟩ := Option.bind_eq_some_iff.1 hd
      exact Nat.lt_of_le_of_lt (length_delimiter?_le hd) (length_afterBreak?_lt hb)
    · obtain ⟨⟨before, found⟩, hr, ⟨⟩⟩ := Option.map_eq_some_iff.1 h
      exact Nat.lt_succ_of_lt (ih hr)

theorem length_part?_lt {boundary bytes rest : List UInt8} {p : Part}
    (h : part? boundary bytes = some (p, .part rest)) : rest.length < bytes.length := by
  obtain ⟨⟨before, after⟩, hcut, h⟩ := Option.bind_eq_some_iff.1 h
  obtain ⟨headers, -, h⟩ := Option.bind_eq_some_iff.1 h
  obtain ⟨⟨data, found⟩, hdata, ⟨⟩⟩ := Option.bind_eq_some_iff.1 h
  exact Nat.lt_of_lt_of_le (length_cutAtDelimiter?_lt hdata) (length_cutAtEmptyLine?_le hcut)

/-- The parts up to the last delimiter. -/
def parts? (boundary bytes : List UInt8) : Option (List Part) :=
  match _h : part? boundary bytes with
  | none => none
  | some (part, .last) => some [part]
  | some (part, .part rest) => (parts? boundary rest).map (part :: ·)
termination_by bytes.length
decreasing_by exact length_part?_lt _h

/-! ### Fields -/

/-- The value of a header, whose name may be in capitals. -/
def Part.header? (p : Part) (name : String) : Option String :=
  (p.headers.find? fun h => Text.lower h.1 == name).map Prod.snd

/-- The charset of a part. -/
def Part.charset (p : Part) : Options.Charset :=
  let named := (p.header? "content-type").bind fun kind => (Options.ofHeader kind).get? "charset"
  (named.bind fun name => Options.Charset.ofName? (Text.lower name)).getD .utf8

/-- The field of a part, if it is one; a part has to say what it is. -/
def Part.field? (p : Part) : Option (Option (String × String)) :=
  (p.header? "content-disposition").map fun disposition =>
    let options := Options.ofHeader disposition
    if options.contains "filename" then none
    else (options.get? "name").map fun name => (name, String.ofList (p.charset.decode p.data))

/-- The fields of a body, if it is a form in parts. -/
def fields? (boundary bytes : List UInt8) : Option (List (String × String)) :=
  match first? boundary bytes with
  | none => none
  | some .last => some []
  | some (.part rest) =>
    (parts? boundary rest).bind fun parts => (parts.mapM Part.field?).map (·.reduceOption)

/-- The fields of a body with the boundary that a header names; it is in ASCII, and not empty. -/
def fields (kind : String) (bytes : List UInt8) : List (String × String) :=
  match (Options.ofHeader kind).get? "boundary" with
  | none => []
  | some boundary =>
    if boundary.isEmpty || !boundary.toList.all Options.isAscii then []
    else (fields? (Encoding.encodeUtf8 boundary.toList) bytes).getD []

end TokenGate.Web.Multipart
