/-
Configurations of a gate.

A `Config` holds eight settings as they were given; `check` asks for a secret and a signing
algorithm and leaves the rest to the gate.  `ofFields` takes the settings by their names, and has to
be given the secret.  `ofMapping` reads them from named values with a common beginning of their
names: an empty value counts as none, texts are taken as displayed, and the algorithm in capitals.
-/
import TokenGate.Algorithm
import TokenGate.EnvFile
import TokenGate.Identity
import TokenGate.Source

namespace TokenGate

/-- The settings of a gate. -/
structure Config where
  secret : Datum
  algorithm : Datum := .text Algorithm.hs256.name
  renew : Datum := .bool false
  userIdClaim : Datum := .text Claim.userId
  rolesClaim : Datum := .text Claim.roles
  cookieName : Datum := .null
  headerName : Datum := .text Source.defaultHeader
  parameterName : Datum := .text Source.defaultParameter

namespace Config

/-- The configuration, if it has a secret and names a signing algorithm. -/
def check (c : Config) : Except Failure Config :=
  if !c.secret.truth then .error .secretMissing
  else (Algorithm.check c.algorithm).map fun _ => c

/-! ### Settings by their names -/

/-- The configuration with a setting of a name. -/
def setField (c : Config) (name : String) (value : Datum) : Except Failure Config :=
  match name with
  | "secret" => .ok { c with secret := value }
  | "algorithm" => .ok { c with algorithm := value }
  | "renew" => .ok { c with renew := value }
  | "user_id_claim" => .ok { c with userIdClaim := value }
  | "roles_claim" => .ok { c with rolesClaim := value }
  | "cookie_name" => .ok { c with cookieName := value }
  | "header_name" => .ok { c with headerName := value }
  | "parameter_name" => .ok { c with parameterName := value }
  | _ => .error (.settingUnknown .config name)

/-- The configuration of named settings; a name that is none is noticed before a missing secret. -/
def ofFields (fields : Record Datum) : Except Failure Config := do
  let config ← fields.foldlM (fun c (name, value) => setField c name value) { secret := .null }
  if fields.contains "secret" then config.check else .error .settingMissing

/-! ### Settings from named values -/

/-- The usual beginning of the names of settings. -/
def usualStem : String := "JWT_"

/-- The texts that switch renewal on. -/
def onWords : List String := ["1", "true", "yes", "on"]

/-- The value of a setting; null and the empty text are none. -/
def setting? (settings : Record Datum) (stem name : String) : Option Datum :=
  match settings.get? (stem ++ name) with
  | none | some .null => none
  | some (.text s) => if s.isEmpty then none else some (.text s)
  | some d => some d

/-- A setting that is a text, or its default. -/
def textSetting (settings : Record Datum) (stem name : String) (default : Datum) :
    Except Failure Datum :=
  match setting? settings stem name with
  | none => .ok default
  | some d => d.shown.map .text

/-- A setting that is a name in capitals, or its default. -/
def capitalSetting (settings : Record Datum) (stem name : String) (default : Datum) :
    Except Failure Datum :=
  match setting? settings stem name with
  | none => .ok default
  | some d => d.shown.map fun s => .text (Text.upper s)

/-- A setting that is a switch, or its default. -/
def switchSetting (settings : Record Datum) (stem name : String) (default : Datum) :
    Except Failure Datum :=
  match setting? settings stem name with
  | none => .ok default
  | some (.bool b) => .ok (.bool b)
  | some d => d.shown.map fun s => .bool (onWords.contains (Text.lower (Text.trim s)))

/-- The secret, which is kept as it is given. -/
def secretSetting (settings : Record Datum) (stem : String) : Datum :=
  match setting? settings stem "SECRET" with
  | some d => if d.truth then d else .text ""
  | none => .text ""

/-- The configuration that named values describe. -/
def ofMapping (settings : Record Datum) (stem : String) : Except Failure Config := do
  let base : Config := { secret := secretSetting settings stem }
  let algorithm ← capitalSetting settings stem "ALGORITHM" base.algorithm
  let renew ← switchSetting settings stem "RENEW" base.renew
  let userIdClaim ← textSetting settings stem "USER_ID_CLAIM" base.userIdClaim
  let rolesClaim ← textSetting settings stem "ROLES_CLAIM" base.rolesClaim
  let cookieName ← textSetting settings stem "COOKIE_NAME" base.cookieName
  let headerName ← textSetting settings stem "HEADER_NAME" base.headerName
  let parameterName ← textSetting settings stem "PARAMETER_NAME" base.parameterName
  check { base with
    algorithm, renew, userIdClaim, rolesClaim, cookieName, headerName, parameterName }

/-- The configuration that an environment and a file of it describe. -/
def ofEnvironment (env : EnvFile.Environment) (file : String) (stem : String) :
    Except Failure Config := do
  let loaded ← EnvFile.load env file
  ofMapping (loaded.map fun (name, value) => (name, .text value)) stem

end Config

end TokenGate
