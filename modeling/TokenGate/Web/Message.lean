/-
Messages of the web: requests as a server receives them, and its responses.

A header that is sent twice is one header with both values, and an underscore in its name counts as
a dash; the kind and the length of a body are headers too, and a request names a host and its sender
unless it is sent with others.  Of parameters and cookies the first value of a name counts.  The
parameters are those of the address and, unless the method is the one that only reads, those of a
form in the body, which is a text of fields or stands in parts.  A body is bytes: they are a form only if
they can be read as one, and a document in any encoding that the reader of documents knows.  Forms of more
than 500 000 bytes, which a server turns away, are not considered here.
-/
import TokenGate.Datum.Integer
import TokenGate.Json.Reader
import TokenGate.Json.Writer
import TokenGate.Request
import TokenGate.Web.Address
import TokenGate.Web.Cookie
import TokenGate.Web.Multipart

namespace TokenGate.Web

/-! ### Kinds of bodies -/

/-- The kind of a form that is a text of fields. -/
def formType : String := "application/x-www-form-urlencoded"

/-- The kind of a form in parts. -/
def partsType : String := "multipart/form-data"

/-- The kind of a JSON document. -/
def documentType : String := "application/json"

/-- The kind of a page for readers. -/
def pageType : String := "text/html; charset=utf-8"

/-- The kind that a header names, without its options. -/
def mediaType (header : String) : String := Text.lower (Options.value header)

/-- The kind is that of JSON documents, or one that is built on it. -/
def isDocumentType (kind : String) : Bool :=
  kind == documentType || (kind.startsWith "application/" && kind.endsWith "+json")

/-- The form in which the names of a request's headers are compared. -/
def headerKey (name : String) : String :=
  Text.upper (String.ofList (name.toList.map fun c => if c = '_' then '-' else c))

/-- The header for the kind of a body. -/
def typeHeader : String := "Content-Type"

/-- The header for the length of a body in bytes. -/
def lengthHeader : String := "Content-Length"

/-- The header for the host that a request is sent to. -/
def hostHeader : String := "Host"

/-- The host. -/
def host : String := "localhost"

/-- The header for the program that sends a request. -/
def agentHeader : String := "User-Agent"

/-- The program that sends requests. -/
def agent : String := "client/1.0.0"

/-- The headers that a request has unless it is sent with others. -/
def usualHeaders : List (String × String) := [(hostHeader, host), (agentHeader, agent)]

/-- The first value that pairs give to a name. -/
def firstValue? (pairs : List (String × String)) (name : String) : Option String :=
  (pairs.find? fun pair => pair.1 == name).map Prod.snd

/-! ### Responses -/

/-- A response to a request. -/
structure Response where
  status : Nat
  body : Option Datum
  headers : List (String × String)

namespace Response

/-- The bytes of a document as a response sends it: without blanks, and with a line break at the
end. -/
def size (body : Datum) : Nat := (Json.write .compact body).length + 1

/-- A response with a document. -/
def document (status : Nat) (body : Datum) : Response :=
  ⟨status, some body, [(typeHeader, documentType), (lengthHeader, toString (size body))]⟩

/-- A response with a page, whose text does not count. -/
def page (status : Nat) : Response := ⟨status, none, [(typeHeader, pageType)]⟩

/-- The value of a header. -/
def header? (r : Response) (name : String) : Option String :=
  firstValue? (r.headers.map fun (n, v) => (Text.lower n, v)) (Text.lower name)

/-- The response with a header written. -/
def setHeader (r : Response) (name value : String) : Response :=
  let others := r.headers.filter fun h => Text.lower h.1 != Text.lower name
  { r with headers := others ++ [(name, value)] }

/-- The document of a response whose kind says that it is one. -/
def document? (r : Response) : Option Datum :=
  if (r.header? typeHeader).any fun kind => isDocumentType (mediaType kind) then r.body else none

end Response

/-! ### Requests -/

/-- A body and its kind. -/
structure Body where
  kind : String
  bytes : List UInt8

/-- A request as a server receives it. -/
structure Message where
  path : String
  method : String
  headersOnly : Bool
  headers : List (String × String)
  query : List (String × String)
  body : Option Body

namespace Message

/-- The request for an address with a query, which the address may write itself.  A method is taken
in capitals, but a request for headers alone has to be written so. -/
def make (address query method : String) (headers : List (String × String))
    (body : Option Body) : Message :=
  let a := Address.ofText address
  { path := a.path
    method := Text.upper method
    headersOnly := method == "HEAD"
    headers
    query := Address.fields (if query.isEmpty then a.query else query)
    body }

/-- The values that a header is sent with. -/
def sent (m : Message) (name : String) : List String :=
  (m.headers.filter fun h => headerKey h.1 == headerKey name).map Prod.snd

/-- The kind of the body; a header that names one counts before the kind of the body itself. -/
def kind? (m : Message) : Option String := (m.sent typeHeader).head?.or (m.body.map Body.kind)

/-- The length of the body, if there is one; else the integer that a header gives. -/
def length? (m : Message) : Option String :=
  match m.body with
  | some b => some (toString b.bytes.length)
  | none => (m.sent lengthHeader).head?.bind fun given =>
    ((Datum.text given).toInteger.toOption).map toString

/-- The value of a header. -/
def header? (m : Message) (name : String) : Option String :=
  if headerKey name == headerKey typeHeader then m.kind?
  else if headerKey name == headerKey lengthHeader then m.length?
  else
    match m.sent name with
    | [] => firstValue? (usualHeaders.map fun (n, v) => (headerKey n, v)) (headerKey name)
    | values => some (", ".intercalate values)

/-- The fields of bytes that are a text of fields. -/
def textFields (bytes : List UInt8) : List (String × String) :=
  ((Encoding.decodeStrict bytes).toOption.map fun text => Address.fields (String.ofList text)).getD []

/-- The fields of a form in the body. -/
def formFields (m : Message) : List (String × String) :=
  match m.kind?, m.body with
  | some kind, some b =>
    if mediaType kind = formType then textFields b.bytes
    else if mediaType kind = partsType then Multipart.fields kind b.bytes
    else []
  | _, _ => []

/-- The document in the body, in bytes. -/
def document? (m : Message) : Option (List UInt8) :=
  if m.kind?.any fun kind => isDocumentType (mediaType kind) then
    m.body.map Body.bytes
  else none

/-- The value of a parameter. -/
def parameter? (m : Message) (name : String) : Option String :=
  match firstValue? m.query name with
  | some value => some value
  | none => if m.method = "GET" then none else firstValue? m.formFields name

/-- The cookies of a request. -/
def cookies (m : Message) : List (String × String) := (m.header? "Cookie").elim [] Cookie.ofHeader

/-- The text that a place of a request holds under a name. -/
def value? (m : Message) (place : Place) (name : String) : Option String :=
  match place with
  | .header => m.header? name
  | .parameter => m.parameter? name
  | .cookie => firstValue? m.cookies name

/-- The request that a gate looks at.  What comes out of bytes is never torn. -/
def request (m : Message) (constrained : Bool) : Request :=
  { constrained
    value? := fun l => (l.name.text?.bind (m.value? l.place)).map .text }

end Message

end TokenGate.Web
