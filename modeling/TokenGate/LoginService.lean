/-
A login service.

It knows two users.  `POST /login` takes a name and a password in a document and answers with a
token; `GET /api/profile` is guarded and shows the user of a token.  `ofEnvironment` reads
the secret, the renewal switch, the cookie and the lifetime of tokens from the environment.
-/
import TokenGate.Token.Builder
import TokenGate.Web.App
import TokenGate.Web.Installation

namespace TokenGate

namespace LoginService

/-- A user of the service. -/
structure User where
  name : String
  password : String
  roles : List String
  deriving DecidableEq, Repr

/-- The users of the service. -/
def users : List User :=
  [⟨"alice", "wonderland", ["admin", "user"]⟩, ⟨"bob", "builder", ["user"]⟩]

end LoginService

/-- A login service: its gate, and the seconds from the issue of a token to its expiry. -/
structure LoginService where
  gate : Gate
  lifetime : Int

namespace LoginService

/-! ### Settings -/

/-- A variable of the environment, or its default. -/
def setting (env : EnvFile.Environment) (name default : String) : Datum :=
  .text ((env.get? name).getD default)

/-- The service that an environment describes. -/
def ofEnvironment (env : EnvFile.Environment) : Except Failure LoginService :=
  match (setting env "TOKEN_TTL_SECONDS" "3600").toInteger with
  | .error f => .error (.integer f)
  | .ok lifetime => do
    let config ← Config.ofMapping
      [("JWT_SECRET", setting env "JWT_SECRET" "change-me"),
       ("JWT_RENEW", setting env "JWT_RENEW" "true"),
       ("JWT_COOKIE_NAME", setting env "JWT_COOKIE_NAME" "auth_token")]
      Config.usualStem
    let installation ← Web.Installation.make config
    return ⟨installation.gate, lifetime⟩

/-! ### Answers -/

/-- The answer to a login with other than known names and passwords. -/
def badCredentials : Web.Response :=
  .document 401 (.dict [("status", .text "denied"), ("message", .text "Bad credentials")])

/-- The answer to a request that the service cannot deal with. -/
def serverError : Web.Response := .page 500

/-- The answer with a new token. -/
def success (token : String) : Web.Response :=
  .document 200 (.dict [("status", .text "success"), ("token", .text token)])

/-- The body of an answer to a request that the gate rejects. -/
def rejection (message : String) : Datum :=
  .dict [("status", .text "denied"), ("message", .text message), ("authenticated", .bool false)]

/-- The answer that shows an identity. -/
def profile (i : Identity) : Web.Response :=
  .document 200 (.dict
    [("status", .text "success"), ("user", .text i.userId), ("roles", .list (i.roles.map .text))])

/-! ### Logging in -/

/-- What the body of a login says. -/
inductive Credentials where
  | fields (members : Record Datum)
  | unusable
  deriving Inhabited

/-- The credentials in a document.  Bytes that are no document, or one that counts as unset, have
none; a document that is no object is unusable, as is one nested too deeply to read. -/
def Credentials.ofDocument (bytes : List UInt8) : Credentials :=
  match Json.read bytes with
  | .ok (.dict members) => .fields members
  | .ok d => if d.truth then .unusable else .fields []
  | .error (.tooDeep _) => .unusable
  | .error _ => .fields []

/-- The credentials in a request; without a document it has none. -/
def Credentials.ofMessage (m : Web.Message) : Credentials :=
  m.document?.elim (.fields []) Credentials.ofDocument

/-- The user whom a name and a password belong to. -/
def user? (name password : Option Datum) : Option User :=
  users.find? fun u =>
    name.bind Datum.text? == some u.name && password.bind Datum.text? == some u.password

/-- A builder for a user's token. -/
def builderFor (s : LoginService) (u : User) : Except Failure Builder := do
  let b ← Builder.make s.gate.algorithm s.gate.secret .empty {}
  b.chain
    [.userId (.text u.name), .roles (.list (u.roles.map .text)), .expiry (.int s.lifetime),
      .tokenId (.bool true)]

/-- The answer to a known user. -/
def welcome (s : LoginService) (u : User) (v : Web.Visit) : Web.Served :=
  match s.builderFor u with
  | .error _ => ⟨.ok serverError, v.nextId⟩
  | .ok b =>
    let issued := b.build v.clock v.nextId
    match issued.outcome with
    | .ok token => ⟨.ok (success token), issued.nextId⟩
    | .error _ => ⟨.ok serverError, issued.nextId⟩

/-- The view that logs in. -/
def login (s : LoginService) (v : Web.Visit) : Web.Served :=
  match Credentials.ofMessage v.message with
  | .unusable => ⟨.ok serverError, v.nextId⟩
  | .fields members =>
    let name := members.get? "username"
    if name.any fun d => d.changeable?.isSome then ⟨.ok serverError, v.nextId⟩
    else
      match user? name (members.get? "password") with
      | some u => s.welcome u v
      | none => ⟨.ok badCredentials, v.nextId⟩

/-- The view that shows the user of a token. -/
def showProfile (v : Web.Visit) : Web.Served :=
  match v.attached with
  | some (identity, _) => ⟨.ok (profile identity), v.nextId⟩
  | none => ⟨.ok serverError, v.nextId⟩

/-- The service as an application. -/
def app (s : LoginService) : Web.App :=
  { gate := some s.gate
    routes :=
      [⟨"/login", ["POST"], false, s.login⟩, ⟨"/api/profile", ["GET"], true, showProfile⟩]
    guardedPath := none
    rejection }

/-- The response to a message, and the next free id number; a failure that nothing answers is an
error of the server. -/
def answer (s : LoginService) (m : Web.Message) (clock : Number) (nextId : Nat) :
    Web.Response × Nat :=
  let reply := s.app.answer m clock nextId
  match reply.outcome with
  | .ok response => (response, reply.nextId)
  | .error _ => (serverError, reply.nextId)

end LoginService

end TokenGate
