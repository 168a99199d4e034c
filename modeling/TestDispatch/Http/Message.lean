/-!
# HTTP messages

A request as a server sees it (method, path, headers and body) and the response it writes
(status, content type, the request id it echoes, and body).

Header names are compared in canonical form: a name made only of token characters is written
with an upper-case letter at its start and after each `-`, and lower case elsewhere
(`x-read-key` is `X-Read-Key`); any other name is kept as written.
-/

namespace TestDispatch.Http

/-- Whether a character may stand in a header name: a letter, a digit, or one of
`!#$%&'*+-.^_|~` and the grave accent. -/
def isTokenChar (c : Char) : Bool :=
  (c.toNat < 0x80 && c.isAlphanum) || "!#$%&'*+-.^_|~".contains c || c.toNat = 0x60

/-- The canonical form of a header name. -/
def canonicalKey (name : String) : String :=
  let rec go (upper : Bool) : List Char → List Char
    | [] => []
    | c :: cs => (if upper then c.toUpper else c.toLower) :: go (c = '-') cs
  if name.isEmpty || !name.all isTokenChar then name else String.ofList (go true name.toList)

/-- A request to a server. -/
structure Request where
  method : String := "GET"
  /-- The path, with any query after `?`. -/
  target : String
  /-- The headers, by canonical name, at most one value each. -/
  headers : List (String × String) := []
  body : String := ""
  deriving Repr, Inhabited

namespace Request

/-- The path of the request, without its query or fragment. -/
def path (r : Request) : String :=
  String.ofList (r.target.toList.takeWhile fun c => c ≠ '?' && c ≠ '#')

/-- The value of a header, or the empty text when the request does not carry it. -/
def header (r : Request) (name : String) : String :=
  ((r.headers.find? fun h => h.1 = canonicalKey name).map Prod.snd).getD ""

/-- The request with a header set, replacing any earlier value of the same name. -/
def setHeader (r : Request) (name value : String) : Request :=
  let key := canonicalKey name
  { r with headers := (r.headers.filter (·.1 ≠ key)) ++ [(key, value)] }

end Request

/-- A response from a server. -/
structure Response where
  status : Nat
  contentType : String := ""
  /-- The request id the response echoes in its headers. -/
  requestId : String := ""
  body : String := ""
  deriving Repr, Inhabited

/-- The plain-text answer for a path that names nothing. -/
def notFound : Response :=
  { status := 404, contentType := "text/plain; charset=utf-8", body := "404 page not found\n" }

/-- The empty answer for a method a path does not take. -/
def methodNotAllowed : Response := { status := 405 }

end TestDispatch.Http
