/-
Dynamic values: what callers hand in as a claim or a setting, and what a token carries.

`Datum` has the kinds of a JSON document and four more that only callers use: a fixed tuple, a set,
bytes, and floating-point numbers that are no numbers.  `Kind` names the kinds in messages,
`truth` says which values count as set, and `display` is the text of a value in a message.

A text is made of characters.  A half of a surrogate pair by itself is none, so that no value, claim or
name here has one in it; only the texts of a request may (`RawText`), and what is said of all texts is
said of texts of characters.
-/
import TokenGate.Number.Shortest
import TokenGate.Record
import TokenGate.Text.Quoted

namespace TokenGate

/-- A dynamic value. -/
inductive Datum where
  | null
  | bool (value : Bool)
  | int (value : Int)
  | float (value : Binary64)
  | text (value : String)
  | list (items : List Datum)
  | tuple (items : List Datum)
  | set (items : List Datum)
  | bytes (value : List UInt8)
  | dict (members : List (String × Datum))
  deriving Inhabited

namespace Datum

/-- The kinds of values. -/
inductive Kind where
  | null
  | bool
  | int
  | float
  | text
  | list
  | tuple
  | set
  | bytes
  | dict
  deriving DecidableEq, Repr

/-- The name of a kind in messages. -/
def Kind.name : Kind → String
  | null => "NoneType"
  | bool => "bool"
  | int => "int"
  | float => "float"
  | text => "str"
  | list => "list"
  | tuple => "tuple"
  | set => "set"
  | bytes => "bytes"
  | dict => "dict"

/-- The kind of a value. -/
def kind : Datum → Kind
  | .null => .null
  | .bool _ => .bool
  | .int _ => .int
  | .float _ => .float
  | .text _ => .text
  | .list _ => .list
  | .tuple _ => .tuple
  | .set _ => .set
  | .bytes _ => .bytes
  | .dict _ => .dict

/-- The value counts as set: not null, false, zero or empty. -/
def truth : Datum → Bool
  | null => false
  | bool b => b
  | int n => n != 0
  | float x => !x.isZero
  | text s => !s.isEmpty
  | list items | tuple items | set items => !items.isEmpty
  | bytes value => !value.isEmpty
  | dict members => !members.isEmpty

/-- The text of a value, if it is one. -/
def text? : Datum → Option String
  | text s => some s
  | _ => none

/-! ### Looking up -/

mutual
/-- The kind of the first part of a value that can change; only a value without such a part can be
looked up. -/
def changeable? : Datum → Option Kind
  | list _ => some .list
  | set _ => some .set
  | dict _ => some .dict
  | tuple items => anyChangeable? items
  | _ => none

/-- The kind of the first changeable part of a list's values. -/
def anyChangeable? : List Datum → Option Kind
  | [] => none
  | item :: rest => item.changeable?.or (anyChangeable? rest)
end

/-! ### Display -/

/-- Integers are shown up to this many digits. -/
def digitLimit : Nat := 4300

/-- The integer has more digits than are shown. -/
def unprintable (n : Int) : Bool := Nat.pow 10 digitLimit ≤ n.natAbs

mutual
/-- Some integer in the value has more digits than are shown. -/
def oversized : Datum → Bool
  | int n => unprintable n
  | list items | tuple items | set items => anyOversized items
  | dict members => anyMemberOversized members
  | _ => false

/-- Some value of a list is oversized. -/
def anyOversized : List Datum → Bool
  | [] => false
  | item :: rest => item.oversized || anyOversized rest

/-- Some member's value is oversized. -/
def anyMemberOversized : List (String × Datum) → Bool
  | [] => false
  | (_, item) :: rest => item.oversized || anyMemberOversized rest
end

mutual
/-- The value as it stands inside a message or another value: texts quoted. -/
def quoted : Datum → String
  | null => "None"
  | bool b => if b then "True" else "False"
  | int n => toString n
  | float x => x.plain
  | text s => Text.quoted s
  | list items => "[" ++ ", ".intercalate (quotedAll items) ++ "]"
  | tuple items =>
    "(" ++ ", ".intercalate (quotedAll items) ++ (if items.length = 1 then ",)" else ")")
  | set items =>
    if items.isEmpty then "set()" else "\x7b" ++ ", ".intercalate (quotedAll items) ++ "\x7d"
  | bytes value => Text.quotedBytes value
  | dict members => "\x7b" ++ ", ".intercalate (quotedMembers members) ++ "\x7d"

/-- The quoted forms of a list. -/
def quotedAll : List Datum → List String
  | [] => []
  | item :: rest => item.quoted :: quotedAll rest

/-- The quoted forms of members, name before value. -/
def quotedMembers : List (String × Datum) → List String
  | [] => []
  | (name, item) :: rest => (Text.quoted name ++ ": " ++ item.quoted) :: quotedMembers rest
end

/-- The value on its own in a message: a text stands as it is. -/
def display : Datum → String
  | text s => s
  | d => d.quoted

end Datum

end TokenGate
