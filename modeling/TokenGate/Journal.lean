/-
Journal lines.

An `Entry` is an event at a level, with named values.  A journal writes each in one of two forms: a
JSON document (`Entry.document`), or a line for readers (`Entry.line`), where the values stand in
the order of their names, a few of them in places of their own, and a stack and a failure below.  A
`Note` is what a caller hands in, by one of the journal's methods; `Settings.lines` keeps the notes
at the threshold and above.
-/
import TokenGate.Failure
import TokenGate.Json.Writer
import TokenGate.Text.Case

namespace TokenGate.Journal

/-- The levels of events. -/
inductive Level where
  | debug
  | info
  | warning
  | error
  | critical
  deriving DecidableEq, Repr

namespace Level

/-- The name of a level. -/
def name : Level → String
  | debug => "debug"
  | info => "info"
  | warning => "warning"
  | error => "error"
  | critical => "critical"

/-- The rank of a level. -/
def rank : Level → Nat
  | debug => 10
  | info => 20
  | warning => 30
  | error => 40
  | critical => 50

end Level

/-- The methods of a journal.  The one for failures also names the failure that is being dealt with,
and there is never one. -/
inductive Method where
  | debug
  | info
  | warning
  | error
  | exception
  | critical
  | fatal
  deriving DecidableEq, Repr

namespace Method

/-- The name of a method. -/
def name : Method → String
  | debug => "debug"
  | info => "info"
  | warning => "warning"
  | error => "error"
  | exception => "exception"
  | critical => "critical"
  | fatal => "fatal"

/-- The method of a name; one has a second name. -/
def ofName? (s : String) : Option Method :=
  if s = "warn" then some warning
  else [debug, info, warning, error, exception, critical, fatal].find? (·.name == s)

/-- The level of a method's events. -/
def level : Method → Level
  | debug => .debug
  | info => .info
  | warning => .warning
  | error | exception => .error
  | critical | fatal => .critical

/-- What a method writes below an entry. -/
def footnote? : Method → Option String
  | exception => some "NoneType: None"
  | _ => none

/-- The text of an entry with what a method writes below it, on a line of its own. -/
def withFootnote (m : Method) (text : String) : String :=
  match m.footnote? with
  | none => text
  | some note => text ++ (if text.endsWith "\n" then "" else "\n") ++ note

end Method

/-- The least rank that a journal keeps, by a name in capitals.  Two names are known, but for
something else. -/
def thresholdOf : String → Except Failure Nat
  | "NOTSET" => .ok 0
  | "DEBUG" => .ok Level.debug.rank
  | "INFO" => .ok Level.info.rank
  | "WARNING" | "WARN" => .ok Level.warning.rank
  | "ERROR" => .ok Level.error.rank
  | "CRITICAL" | "FATAL" => .ok Level.critical.rank
  | "BASIC_FORMAT" => .error .journalFormat
  | "_STYLES" => .error .journalStyles
  | name => .error (.journalLevel name)

/-- An event at a level, with named values; it is null if there is none. -/
structure Entry where
  level : Level
  event : Datum
  fields : Record Datum

/-- The forms of a line. -/
inductive Form where
  | document
  | line
  deriving DecidableEq, Repr

/-- What a journal keeps, how it writes it, and what it is called. -/
structure Settings where
  threshold : Nat
  form : Form
  logger : Datum

namespace Settings

/-- The settings for a threshold of a given name, in any case of its letters. -/
def make (level : Datum) (form : Form) (logger : Datum) : Except Failure Settings :=
  match level with
  | .text name => (thresholdOf (Text.upper name)).map fun rank => ⟨rank, form, logger⟩
  | .bytes bs => .error (.attributeName (Datum.bytes bs).kind)
  | d => .error (.noAttribute d.kind "upper")

/-- The name of the journal; one whose name counts as unset has the name of the topmost journal. -/
def loggerName (s : Settings) : Except Failure String :=
  match s.logger with
  | .text name => .ok (if name.isEmpty then "root" else name)
  | d => if d.truth then .error .journalName else .ok "root"

end Settings

namespace Entry

/-- The values that only ask for a stack or a failure, and are not written. -/
def askingNames : List String := ["exc_info", "stack_info"]

/-- The values of an entry that can be written. -/
def values (e : Entry) : Record Datum :=
  (Record.ofPairs e.fields).filter fun (name, _) => !askingNames.contains name

/-- The value that would stand for the record of an entry; it is not null. -/
def record? (e : Entry) : Option Datum :=
  match e.values.get? "_record" with
  | none | some .null => none
  | some d => some d

/-! ### Documents -/

/-- The values of an entry, and its event if there is one. -/
def valuesAndEvent (e : Entry) : Record Datum :=
  match e.event with
  | .null => e.values
  | event => e.values.set "event" event

/-- The values of an entry with its event, its journal, its level and its time, which overwrite
values of these names. -/
def members (logger time : String) (e : Entry) : Record Datum :=
  ((e.valuesAndEvent.set "logger" (.text logger)).set "level" (.text e.level.name)).set
    "timestamp" (.text time)

/-- The entry as a document; an integer with too many digits cannot be written. -/
def document (logger time : String) (e : Entry) : Except Failure String :=
  let d := Datum.dict (e.members logger time)
  if d.oversized then .error .unprintable else .ok (String.ofList (Json.write .spaced d))

/-! ### Lines for readers -/

/-- A text with blanks after it up to a width. -/
def padded (width : Nat) (s : String) : String :=
  s ++ String.ofList (List.replicate (width - s.length) ' ')

/-- The characters for which a text is quoted. -/
def needsQuotes (c : Char) : Bool :=
  c == ' ' || c == '\t' || c == '=' || c == '\r' || c == '\n' || c == '"' || c == '\''

/-- A value in a line: a text stands bare if it can. -/
def shownValue : Datum → String
  | .text s => if s.toList.any needsQuotes then Text.quoted s else s
  | d => d.quoted

/-- A value with its name. -/
def shownField (name : String) (value : Datum) : String := name ++ "=" ++ shownValue value

/-- The name of the value that stands before the time. -/
def firstName : String := ""

/-- The name of the value that stands after the journal. -/
def secondLoggerName : String := "logger_name"

/-- The names that an entry overwrites. -/
def ownNames : List String := ["event", "logger", "level", "timestamp"]

/-- The names of the values below a line. -/
def lowerNames : List String := ["stack", "exception"]

/-- The values in a line. -/
def inLine (e : Entry) : Record Datum :=
  e.values.filter fun (name, _) => !ownNames.contains name && !lowerNames.contains name

/-- The values at the end of a line, in the order of their names. -/
def listed (e : Entry) : Record Datum :=
  (e.inLine.filter fun (name, _) => name != firstName && name != secondLoggerName).mergeSort
    fun a b => !(b.1 < a.1)

/-- The width of a level in a line. -/
def levelWidth : Nat := 9

/-- The width of an event in a line. -/
def eventWidth : Nat := 30

/-- The column of an event, if there is one. -/
def eventColumn : Datum → List String
  | .null => []
  | event => [padded eventWidth event.display]

/-- The columns of a line. -/
def columns (logger time : String) (e : Entry) : List String :=
  (e.inLine.get? firstName).toList.map (shownField firstName) ++
    [time, "[" ++ padded levelWidth e.level.name ++ "]"] ++ eventColumn e.event ++
    ["[" ++ logger ++ "]"] ++
    (e.inLine.get? secondLoggerName).toList.map (fun d => "[" ++ d.display ++ "]") ++
    e.listed.map fun (name, value) => shownField name value

/-- A value below a line, if it is there and not null. -/
def lower? (e : Entry) (name : String) : Option Datum :=
  match e.values.get? name with
  | none | some .null => none
  | some d => some d

/-- A value on lines of its own. -/
def paragraph : Datum → Except Failure String
  | .text s => .ok ("\n" ++ s)
  | d => .error (.joined d.kind)

/-- What parts a stack from a failure. -/
def ruling : String := "\n\n" ++ String.ofList (List.replicate 79 '=') ++ "\n"

/-- What stands below a line: a stack, and then a failure. -/
def below (e : Entry) : Except Failure String :=
  match e.lower? "stack", e.lower? "exception" with
  | none, none => .ok ""
  | some stack, none => paragraph stack
  | none, some failure => paragraph failure
  | some stack, some failure => do
    let upper ← paragraph stack
    return upper ++ ruling ++ (← paragraph failure)

/-- The entry as a line, with what stands below it. -/
def line (logger time : String) (e : Entry) : Except Failure String :=
  if e.event.oversized || (Datum.dict e.inLine).oversized then .error .unprintable
  else e.below.map fun tail => " ".intercalate (e.columns logger time) ++ tail

/-- The text of an entry. -/
def text (form : Form) (logger time : String) (e : Entry) : Except Failure String :=
  match e.record? with
  | some d => .error (.noAttribute d.kind "name")
  | none =>
    match form with
    | .document => e.document logger time
    | .line => e.line logger time

end Entry

/-! ### Notes -/

/-- An event with named values, as it is handed to a method. -/
structure Note where
  method : Method
  event : Datum
  fields : Record Datum

namespace Note

/-- The entry of a note. -/
def entry (n : Note) : Entry := ⟨n.method.level, n.event, n.fields⟩

/-- The names of a method's own parameters. -/
def parameterNames : List String := ["self", "event"]

/-- The method that all methods go by, and the name of its parameter that the others lack. -/
def common : String × String := ("_proxy_to_logger", "method_name")

/-- A note's values bear none of the names that the methods keep to themselves. -/
def check (n : Note) : Except Failure Unit :=
  match (n.fields.map Prod.fst).find? parameterNames.contains with
  | some name => .error (.argumentTwice n.method.name name)
  | none =>
    if n.fields.contains common.2 then .error (.argumentTwice common.1 common.2) else .ok ()

end Note

/-! ### Journals -/

/-- The text of a note, if the journal keeps it. -/
def Settings.write? (s : Settings) (time : String) (n : Note) : Except Failure (Option String) := do
  let logger ← s.loggerName
  n.check
  if n.entry.level.rank < s.threshold then return none
  return some (n.method.withFootnote (← n.entry.text s.form logger time))

/-- The lines of the notes that a journal keeps, in order. -/
def Settings.lines (s : Settings) (time : String) : List Note → Except Failure (List String)
  | [] => .ok []
  | n :: rest => do
    let text ← s.write? time n
    let more ← lines s time rest
    return (text.toList.flatMap fun t => t.splitOn "\n") ++ more

end TokenGate.Journal
