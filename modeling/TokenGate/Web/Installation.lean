/-
Setting up the gate of an application.

An application may be given a configuration when it is made, another one when it is initialised, or
none at all; then initialisation reads one from its settings.  `setUp` says which of them counts.
-/
import TokenGate.Gate

namespace TokenGate.Web

/-- A gate with the configuration it was made from. -/
structure Installation where
  config : Config
  gate : Gate

namespace Installation

/-- The gate of a configuration. -/
def make (config : Config) : Except Failure Installation :=
  (Gate.ofConfig config none none).map fun gate => ⟨config, gate⟩

/-- The gate of settings by their names. -/
def ofFields (fields : Record Datum) : Except Failure Installation := do
  make (← Config.ofFields fields)

/-- How an application is initialised: with settings that replace an earlier configuration, or with
the values of its own, which count if there was none. -/
inductive Source where
  | replacing (fields : Record Datum)
  | settings (values : Record Datum)

/-- The gate after initialisation. -/
def initialise (earlier : Option Installation) : Source → Except Failure Installation
  | .replacing fields => ofFields fields
  | .settings values =>
    match earlier with
    | some installation => .ok installation
    | none => do make (← Config.ofMapping values Config.usualStem)

/-- The gate of an application that may be given settings and may be initialised. -/
def setUp (given : Option (Record Datum)) (initialised : Option Source) :
    Except Failure (Option Installation) := do
  let earlier ← given.mapM ofFields
  match initialised with
  | none => return earlier
  | some source => return some (← initialise earlier source)

end Installation

end TokenGate.Web
