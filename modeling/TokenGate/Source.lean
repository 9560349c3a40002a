/-
Where a request may carry its token.

A `Source` is one place: a header of its own, the authorization header with the bearer scheme, a
parameter or a cookie.  It takes one look at the request, and reads a token out of what stands
there: the value without blanks around it, and nothing if nothing is left.  A torn value is read in
the same way, with a torn token in it.  A `Chain` asks its sources in order and stops at the first
that yields a token; `search` also lists the looks that were taken.
-/
import TokenGate.Request
import TokenGate.Text.Blank

namespace TokenGate

/-- A place for a token. -/
inductive Source where
  | header (name : PlaceName)
  | bearer
  | parameter (name : PlaceName)
  | cookie (name : PlaceName)
  deriving DecidableEq, Repr

namespace Source

/-- The header of its own, unless another name is set. -/
def defaultHeader : String := "X-Auth"

/-- The parameter, unless another name is set. -/
def defaultParameter : String := "access_token"

/-- The header of the bearer scheme. -/
def authorizationHeader : String := "Authorization"

/-- The scheme before a bearer token, in small letters. -/
def bearerScheme : List Char := "bearer ".toList

/-- The look that a source takes. -/
def lookup : Source → Lookup
  | header name => ⟨.header, name⟩
  | bearer => ⟨.header, .text authorizationHeader⟩
  | parameter name => ⟨.parameter, name⟩
  | cookie name => ⟨.cookie, name⟩

/-! ### Descriptions -/

/-- A source as a caller describes it: by its kind, with a value for its name if one is given. -/
inductive Description where
  | header (name : Option Datum)
  | bearer (name : Option Datum)
  | parameter (name : Option Datum)
  | cookie (name : Option Datum)

/-- The source that is described.  The bearer scheme goes by no name, and a cookie has no usual one.
-/
def ofDescription : Description → Except Failure Source
  | .header name => (PlaceName.ofDatum .header (name.getD (.text defaultHeader))).map header
  | .parameter name =>
    (PlaceName.ofDatum .parameter (name.getD (.text defaultParameter))).map parameter
  | .cookie (some name) => (PlaceName.ofDatum .cookie name).map cookie
  | .cookie none => .error .cookieNameMissing
  | .bearer none => .ok bearer
  | .bearer (some _) => .error .bearerName

/-! ### Reading -/

/-- A value without the blanks around it, if anything is left. -/
def clean? (value : String) : Option String :=
  let token := Text.trim value
  if token.isEmpty then none else some token

/-- The token after the bearer scheme, which is recognised in any case of its letters. -/
def bearerToken? (value : String) : Option String :=
  match clean? value with
  | none => none
  | some v =>
    if bearerScheme.isPrefixOf (Text.lower v).toList then
      clean? (String.ofList (v.toList.drop bearerScheme.length))
    else none

/-- The token in a text that a source finds. -/
def textToken? : Source → String → Option String
  | bearer, value => bearerToken? value
  | _, value => clean? value

/-- The token after the bearer scheme in a torn value; the scheme stands before the first half. -/
def bearerTorn? (value : Torn) : Option Torn :=
  let v := value.trim
  if bearerScheme.isPrefixOf (Text.lower v.before).toList then
    some (v.dropFront bearerScheme.length).trim
  else none

/-- The token in a torn value that a source finds.  A half is left of it in any case. -/
def tornToken? : Source → Torn → Option Torn
  | bearer, value => bearerTorn? value
  | _, value => some value.trim

/-- The token in the value that a source finds. -/
def token? (s : Source) : RawText → Option RawText
  | .text value => (s.textToken? value).map .text
  | .torn value => (s.tornToken? value).map .torn

/-- The token that a request carries in a source. -/
def read? (s : Source) (r : Request) : Option RawText := (r.value? s.lookup).bind s.token?

/-- The first token that a request carries in sources, and the looks taken to find it. -/
def search (r : Request) : List Source → Option RawText × List Lookup
  | [] => (none, [])
  | s :: rest =>
    match s.read? r with
    | some token => (some token, [s.lookup])
    | none => ((search r rest).1, s.lookup :: (search r rest).2)

end Source

/-! ### Chains -/

/-- Sources in the order in which they are asked; there is at least one. -/
structure Chain where
  sources : List Source
  nonempty : sources ≠ []

namespace Chain

/-- The chain of given sources. -/
def ofSources (sources : List Source) : Except Failure Chain :=
  if h : sources = [] then .error .noSources else .ok ⟨sources, h⟩

/-- The chain of sources that are described. -/
def ofDescriptions (descriptions : List Source.Description) : Except Failure Chain := do
  ofSources (← descriptions.mapM Source.ofDescription)

/-- The names of the usual sources; a cookie counts only if one is named. -/
structure Names where
  header : Datum := .text Source.defaultHeader
  parameter : Datum := .text Source.defaultParameter
  cookie : Datum := .null

namespace Names

/-- The names with one of them set. -/
def setField (n : Names) (name : String) (value : Datum) : Except Failure Names :=
  match name with
  | "header_name" => .ok { n with header := value }
  | "parameter_name" => .ok { n with parameter := value }
  | "cookie_name" => .ok { n with cookie := value }
  | _ => .error (.settingUnknown .chain name)

/-- The names of settings by their names. -/
def ofFields (fields : Record Datum) : Except Failure Names :=
  fields.foldlM (fun n (name, value) => n.setField name value) {}

/-- The usual sources: header, bearer scheme, parameter, and the cookie if one is named. -/
def sources (n : Names) : List Source.Description :=
  [.header (some n.header), .bearer none, .parameter (some n.parameter)] ++
    (if n.cookie.truth then [.cookie (some n.cookie)] else [])

end Names

/-- The chain of the usual sources. -/
def usual (names : Names) : Except Failure Chain := ofDescriptions names.sources

/-- The token of a request, and the looks taken to find it. -/
def search (c : Chain) (r : Request) : Option RawText × List Lookup := Source.search r c.sources

end Chain

end TokenGate
