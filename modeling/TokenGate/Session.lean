/-
Sessions: builders, tokens and gates under names, with one clock and one supply of ids.

A `Step` creates or changes a builder, builds or verifies a token, or sends a request through a
gate; tokens that were stored can be presented again, whole or in parts.  `step` gives the answer
and the session afterwards, and `run` does so for a list of steps.  A step that fails leaves the
names as they were.
-/
import TokenGate.Gate

namespace TokenGate

namespace Session

/-! ### Token texts -/

/-- A text that may be made of stored tokens. -/
inductive TokenText where
  | text (value : RawText)
  | stored (lead name : String)
  | joined (segments : List (String × Nat))
  deriving DecidableEq, Repr

/-- A segment of a text; a text that is too short has only empty ones. -/
def segment (text : String) (index : Nat) : String := ((text.splitOn ".")[index]?).getD ""

/-- What a text is, given the stored tokens; one that was never stored is empty. -/
def TokenText.value (tokens : Record String) : TokenText → RawText
  | text value => value
  | stored lead name => .text (lead ++ (tokens.get? name).getD "")
  | joined segments =>
    .text (".".intercalate (segments.map fun (name, i) => segment ((tokens.get? name).getD "") i))

/-- A request whose values may be made of stored tokens. -/
structure Presentation where
  constrained : Bool := true
  headers : List (String × TokenText) := []
  parameters : List (String × TokenText) := []
  cookies : List (String × TokenText) := []

/-- The request that is presented. -/
def Presentation.request (tokens : Record String) (p : Presentation) : Request :=
  let fill := fun pairs : List (String × TokenText) =>
    pairs.map fun (name, text) => (name, text.value tokens)
  .ofPairs p.constrained (fill p.headers) (fill p.parameters) (fill p.cookies)

/-! ### Steps -/

/-- One step of a session. -/
inductive Step where
  | clock (now : Number)
  | create (builder : String) (secret algorithm : Datum)
  | fromToken (builder : String) (token : TokenText) (secret algorithm : Datum)
  | fromVerified (builder : String) (token : TokenText) (secret algorithm : Datum)
      (newSecret newAlgorithm : Datum)
  | restore (builder : String) (token : Verified) (secret algorithm : Datum)
  | edit (builder : String) (edit : Builder.Edit)
  | build (builder token : String)
  | verify (token : TokenText) (secret algorithm : Datum)
  | gate (name : String) (fields : Record Datum) (algorithm : Option Datum)
      (sources : Option (List Source.Description))
  | process (gate : String) (presentation : Presentation) (token : Option String)

/-- The answer to a step. -/
inductive Answer where
  | done
  | unknown (name : String)
  | failed (failure : Failure)
  | editFailed (failure : Failure) (builder : Builder)
  | builder (builder : Builder)
  | built (token : String) (builder : Builder)
  | verified (token : Verified)
  | processed (outcome : Gate.Outcome Unit)

end Session

/-- Everything that a step can see. -/
structure Session where
  clock : Number
  nextId : Nat := 1
  builders : Record Builder := []
  tokens : Record String := []
  gates : Record Gate := []

namespace Session

/-- The session with a builder under a name, if there is one. -/
def keepBuilder (s : Session) (name : String) (made : Except Failure Builder) : Answer × Session :=
  match made with
  | .ok b => (.builder b, { s with builders := s.builders.set name b })
  | .error f => (.failed f, s)

/-- A builder from a token that one secret and algorithm verify, for another secret and algorithm.
-/
def rebuild (s : Session) (token : RawText) (secret algorithm : Datum)
    (newSecret newAlgorithm : Datum) : Except Failure Builder := do
  let algorithm ← Algorithm.check algorithm
  let v ← Token.verifyRaw algorithm secret s.clock token
  let newAlgorithm ← Algorithm.check newAlgorithm
  Builder.ofVerified newAlgorithm v newSecret

/-- A builder from a token that is given by its header and its claims. -/
def restoreBuilder (token : Verified) (secret algorithm : Datum) : Except Failure Builder := do
  let algorithm ← Algorithm.check algorithm
  Builder.ofVerified algorithm token secret

/-- The answer to an edit of a builder. -/
def editBuilder (s : Session) (name : String) (edit : Builder.Edit) : Answer × Session :=
  match s.builders.get? name with
  | none => (.unknown name, s)
  | some b =>
    let (edited, failure?) := b.edit edit
    let s := { s with builders := s.builders.set name edited }
    match failure? with
    | none => (.builder edited, s)
    | some f => (.editFailed f edited, s)

/-- The answer to building a token, which is stored under a name. -/
def buildToken (s : Session) (name token : String) : Answer × Session :=
  match s.builders.get? name with
  | none => (.unknown name, s)
  | some b =>
    let issued := b.build s.clock s.nextId
    let s := { s with nextId := issued.nextId }
    match issued.outcome with
    | .ok text => (.built text b, { s with tokens := s.tokens.set token text })
    | .error f => (.failed f, s)

/-- The answer to verifying a token. -/
def verifyToken (s : Session) (token : RawText) (secret algorithm : Datum) :
    Except Failure Verified := do
  let algorithm ← Algorithm.check algorithm
  Token.verifyRaw algorithm secret s.clock token

/-- The token that an outcome sends back. -/
def renewedToken? (o : Gate.Outcome Unit) : Option String :=
  match o.decision with
  | .ok d => d.renewedToken
  | .error _ => none

/-- The session after an outcome; a renewed token is stored if a name for it is given. -/
def afterOutcome (s : Session) (token : Option String) (o : Gate.Outcome Unit) : Session :=
  let s := { s with nextId := o.nextId }
  match token, renewedToken? o with
  | some name, some text => { s with tokens := s.tokens.set name text }
  | _, _ => s

/-- The answer to a request at a gate. -/
def processRequest (s : Session) (name : String) (p : Presentation) (token : Option String) :
    Answer × Session :=
  match s.gates.get? name with
  | none => (.unknown name, s)
  | some g =>
    let o := g.process (p.request s.tokens) s.clock s.nextId fun _ => ()
    (.processed o, s.afterOutcome token o)

/-- The answer to a step, and the session after it. -/
def step (s : Session) : Step → Answer × Session
  | .clock now => (.done, { s with clock := now })
  | .create name secret algorithm => s.keepBuilder name (Builder.create secret algorithm)
  | .fromToken name token secret algorithm =>
    s.keepBuilder name (Builder.ofToken (token.value s.tokens) secret algorithm s.clock)
  | .fromVerified name token secret algorithm newSecret newAlgorithm =>
    s.keepBuilder name
      (s.rebuild (token.value s.tokens) secret algorithm newSecret newAlgorithm)
  | .restore name token secret algorithm =>
    s.keepBuilder name (restoreBuilder token secret algorithm)
  | .edit name edit => s.editBuilder name edit
  | .build name token => s.buildToken name token
  | .verify token secret algorithm =>
    match s.verifyToken (token.value s.tokens) secret algorithm with
    | .ok v => (.verified v, s)
    | .error f => (.failed f, s)
  | .gate name fields algorithm sources =>
    match Gate.ofFields fields algorithm sources with
    | .ok g => (.done, { s with gates := s.gates.set name g })
    | .error f => (.failed f, s)
  | .process name p token => s.processRequest name p token

/-- The answers to steps, and the session after them. -/
def run (s : Session) : List Step → List Answer × Session
  | [] => ([], s)
  | first :: rest =>
    let (answer, after) := s.step first
    let (answers, last) := run after rest
    (answer :: answers, last)

end Session

end TokenGate
