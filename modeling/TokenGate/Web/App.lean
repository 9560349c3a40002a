/-
Web applications behind a gate.

An `App` has views at paths.  A view can guard itself: then it is the next stage of the gate, and the
reply is what the decision has brought back from it (`require`).  Or a predicate on paths guards them all
before a view is even looked for: then the next stage does nothing, and a request that passes is served as
any other (`protect`).  Both ask the gate by `run`, which breaks a request off that does not pass, with the
status and the message that the gate has left in the `Sink`.  Headers that the gate sets are put off, and
written to whatever response follows (`setHeaders`).

A path with runs of slashes is sent on to the path with single ones.  There is a folder of files beside
the views, but no file in it.
-/
import TokenGate.Gate
import TokenGate.Web.Message

namespace TokenGate.Web

/-! ### Views -/

/-- What a view is given: the message, what the gate attached to it, the clock and the next free id
number. -/
structure Visit where
  message : Message
  attached : Option (Identity × String)
  clock : Number
  nextId : Nat

/-- A view's answer, and the next free id number. -/
structure Served where
  outcome : Except Failure Response
  nextId : Nat

/-- A view at a path, for some methods. -/
structure Route where
  path : String
  methods : List String
  guarded : Bool
  view : Visit → Served

/-- The method is one of the route's; who may read may also read the headers alone, and everyone may
ask for the methods. -/
def Route.allows (r : Route) (method : String) : Bool :=
  r.methods.contains method || (method == "HEAD" && r.methods.contains "GET") ||
    method == "OPTIONS"

/-- The beginning of the paths of files. -/
def filesStart : String := "/static/"

/-- The path is that of a file. -/
def isFilePath (path : String) : Bool :=
  path.startsWith filesStart &&
    ((path.toList.drop filesStart.length).head?.any fun c => c != '/')

/-- The method may ask for a file. -/
def readsFiles (method : String) : Bool := ["GET", "HEAD", "OPTIONS"].contains method

/-- Where a request leads. -/
inductive Destination where
  | route (route : Route)
  | file
  | elsewhere
  | wrongMethod
  | nowhere

/-- The destination of a path and a method. -/
def destination (routes : List Route) (path method : String) : Destination :=
  let merged := Address.mergedPath path
  match routes.find? fun r => r.path == path && r.allows method with
  | some route => .route route
  | none =>
    if isFilePath path && readsFiles method then .file
    else if (routes.any fun r => r.path == merged && r.allows method) ||
        (isFilePath merged && readsFiles method) then .elsewhere
    else if (routes.any fun r => r.path == path || r.path == merged) ||
        isFilePath path || isFilePath merged then .wrongMethod
    else .nowhere

/-! ### Applications -/

/-- An application: its gate, if it has been set up, its routes, the paths that are guarded before
routing, and the body of an answer to a request that is rejected. -/
structure App where
  gate : Option Gate
  routes : List Route
  guardedPath : Option (String → Bool)
  rejection : String → Datum

/-- What becomes of a message: a response, or a failure that nothing answers; the paths of the views
that ran; and the next free id number. -/
structure Reply where
  outcome : Except Failure Response
  views : List String
  nextId : Nat

/-! ### Asking the gate -/

/-- What a gate has said of the response: the headers to write, and the last status and message for a
client that is not let in. -/
structure Sink where
  headers : List (Datum × String)
  unauthorized : Option (Nat × String)

/-- What the calls of a gate leave in a sink. -/
def Sink.ofCalls (calls : List Gate.Call) : Sink where
  headers := calls.filterMap Gate.Call.header?
  unauthorized := calls.reverse.findSome? Gate.Call.unauthorized?

/-- The status of an unauthorized client, unless the gate gives another one. -/
def unauthorizedStatus : Nat := 401

/-- What an unauthorized client is told, unless the gate says something else. -/
def unauthorizedText : String :=
  "The server could not verify that you are authorized to access the URL requested. You either " ++
    "supplied the wrong credentials (e.g. a bad password), or your browser doesn't understand how " ++
    "to supply the credentials required."

/-- The status of the response that a request is broken off with. -/
def Sink.status (s : Sink) : Nat :=
  match s.unauthorized with
  | some (status, _) => if status = 0 then unauthorizedStatus else status
  | none => unauthorizedStatus

/-- The message of the response that a request is broken off with. -/
def Sink.message (s : Sink) : String := (s.unauthorized.map Prod.snd).getD unauthorizedText

/-- What the gate decided: the request goes on, or is broken off with a response. -/
inductive Verdict (α : Type) where
  | passes (decision : Gate.Decision α)
  | broken (response : Response)

/-- What is left when the gate has been asked: its verdict, the identity and the marker that the request
was given, the headers that are put off, how often the next stage ran, and the next free id number. -/
structure Asked (α : Type) where
  verdict : Except Failure (Verdict α)
  attached : Option (Identity × String)
  headers : List (Datum × String)
  runs : Nat
  nextId : Nat

namespace App

/-- The verdict on a decision, by what is in the sink. -/
def verdict {α : Type} (app : App) (sink : Sink) (d : Gate.Decision α) : Verdict α :=
  if d.state.passes then .passes d
  else .broken (.document sink.status (app.rejection sink.message))

/-- Ask the gate about a message. -/
def run {α : Type} (app : App) (constrained : Bool) (m : Message) (clock : Number) (nextId : Nat)
    (next : Option Identity → α) : Asked α :=
  match app.gate with
  | none => ⟨.error .notInitialised, none, [], 0, nextId⟩
  | some g =>
    let o := g.process (m.request constrained) clock nextId next
    let sink := Sink.ofCalls o.calls
    { verdict := o.decision.map (app.verdict sink)
      attached := o.attached?
      headers := sink.headers
      runs := o.calls.countP Gate.Call.isNext
      nextId := o.nextId }

/-- A response with a header written; bytes are no name of one. -/
def setHeader (r : Response) (name : Datum) (value : String) : Except Failure Response :=
  match name.text? with
  | some name => .ok (r.setHeader name value)
  | none => .error .headerPairs

/-- A reply with headers written to its response, if there is one. -/
def setHeaders (headers : List (Datum × String)) (reply : Reply) : Reply :=
  let outcome := headers.foldl
    (fun outcome (name, value) => outcome.bind fun r => setHeader r name value) reply.outcome
  { reply with outcome }

/-- A response to a message: one that asks for headers alone has no body. -/
def trimBody (m : Message) (r : Response) : Response :=
  if m.headersOnly then { r with body := none } else r

/-- A reply with a response that no view made. -/
def plain (r : Response) (nextId : Nat) : Reply := ⟨.ok r, [], nextId⟩

/-- The reply of a view. -/
def visit (route : Route) (v : Visit) : Reply :=
  let served := route.view v
  ⟨served.outcome, [route.path], served.nextId⟩

/-- A view as the next stage of a gate.  It runs when the gate says so: with what the gate has attached
by then, and the id numbers that it has left. -/
def stage (route : Route) (v : Visit) :
    Option Identity → Option (Identity × String) → Nat → Served :=
  fun _ attached nextId => route.view { v with attached, nextId }

/-- The reply of a view that guards itself.  The answer is the one that the decision holds; a view that
has answered nothing is an error of the server. -/
def require (app : App) (route : Route) (v : Visit) : Reply :=
  let asked := app.run true v.message v.clock v.nextId (stage route v)
  let views := List.replicate asked.runs route.path
  setHeaders asked.headers <|
    match asked.verdict with
    | .error f => ⟨.error f, views, asked.nextId⟩
    | .ok (.broken response) => ⟨.ok response, views, asked.nextId⟩
    | .ok (.passes decision) =>
      match decision.result with
      | none => ⟨.ok (.page 500), views, asked.nextId⟩
      | some run =>
        let served := run asked.attached asked.nextId
        ⟨served.outcome, views, served.nextId⟩

/-- The reply of the route of a message, if there is one. -/
def dispatch (app : App) (v : Visit) : Reply :=
  match destination app.routes v.message.path v.message.method with
  | .nowhere => plain (.page 404) v.nextId
  | .wrongMethod => plain (.page 405) v.nextId
  | .elsewhere => plain (.page 308) v.nextId
  | .file => plain (.page (if v.message.method = "OPTIONS" then 200 else 404)) v.nextId
  | .route route =>
    if v.message.method = "OPTIONS" then plain (.page 200) v.nextId
    else if route.guarded then app.require route v
    else visit route v

/-- The reply to a message whose path is looked at first.  The next stage does nothing; if the request
is not broken off, it is served as if the gate had not been asked, but for what was attached. -/
def protect (app : App) (guarded : String → Bool) (m : Message) (clock : Number) (nextId : Nat) :
    Reply :=
  let asked := app.run (guarded m.path) m clock nextId fun _ => ()
  setHeaders asked.headers <|
    match asked.verdict with
    | .error f => ⟨.error f, [], asked.nextId⟩
    | .ok (.broken response) => plain response asked.nextId
    | .ok (.passes _) => app.dispatch ⟨m, asked.attached, clock, asked.nextId⟩

/-- The reply to a message before its body is trimmed. -/
def serve (app : App) (m : Message) (clock : Number) (nextId : Nat) : Reply :=
  match app.guardedPath with
  | none => app.dispatch ⟨m, none, clock, nextId⟩
  | some guarded => app.protect guarded m clock nextId

/-- The reply to a message. -/
def answer (app : App) (m : Message) (clock : Number) (nextId : Nat) : Reply :=
  let reply := app.serve m clock nextId
  { reply with outcome := reply.outcome.map (trimBody m) }

end App

end TokenGate.Web
