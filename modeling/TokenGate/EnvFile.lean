/-
Environment files and the environment.

`resolve` gives every name of a file its value: references are replaced as the file is read, first
from the environment and then from the lines above, and the last line of a name counts.  `load` adds
these values to the environment, where a variable that is there already stays as it is; one variable
of the environment keeps files from being read at all.
-/
import TokenGate.EnvFile.Expansion
import TokenGate.EnvFile.Reader
import TokenGate.Failure
import TokenGate.Text.Case

namespace TokenGate.EnvFile

/-- Variables with their values. -/
abbrev Environment := Record String

/-- What a reference to a variable stands for: a name without a value is known and empty. -/
def known (env : Environment) (above : Record (Option String)) (name : List Char) :
    Option (List Char) :=
  match env.get? (String.ofList name) with
  | some value => some value.toList
  | none => (above.get? (String.ofList name)).map fun value => (value.getD "").toList

/-- The values above with those of one more line. -/
def resolveLine (env : Environment) (above : Record (Option String)) (b : Binding) :
    Record (Option String) :=
  above.set (String.ofList b.name)
    (b.value.map fun value => String.ofList (expand (known env above) value))

/-- The names of a file with their values. -/
def resolve (env : Environment) (lines : List Binding) : Record (Option String) :=
  lines.foldl (resolveLine env) []

/-- The environment with a variable, which needs a name without an equals sign; neither name nor
value may hold the null character. -/
def define (env : Environment) (name value : String) : Except Failure Environment :=
  if name.toList.contains '\x00' || value.toList.contains '\x00' then .error .nullCharacter
  else if name.toList.contains '=' then .error .variableName
  else .ok (env.set name value)

/-- The environment with those variables that are not in it. -/
def defineAll (env : Environment) : Record (Option String) → Except Failure Environment
  | [] => .ok env
  | (_, none) :: rest => defineAll env rest
  | (name, some value) :: rest =>
    if env.contains name then defineAll env rest
    else
      match define env name value with
      | .ok more => defineAll more rest
      | .error f => .error f

/-- The variable that keeps files from being read. -/
def offSwitch : String := "PYTHON_DOTENV_DISABLED"

/-- The values of the switch that count, in capitals. -/
def offWords : List String := ["1", "TRUE", "T", "YES", "Y"]

/-- Files are not read in the environment. -/
def isOff (env : Environment) : Bool :=
  (env.get? offSwitch).any fun value => offWords.contains (Text.upper value)

/-- The environment with the variables of a file. -/
def load (env : Environment) (file : String) : Except Failure Environment :=
  if isOff env then .ok env else defineAll env (resolve env (bindings file))

end TokenGate.EnvFile
