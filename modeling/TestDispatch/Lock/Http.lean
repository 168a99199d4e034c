import TestDispatch.Lock.Backend
import TestDispatch.LockServer.Handler
import TestDispatch.Logging.Level
/-!
# The HTTP lock backend

The HTTP client keeps the lock table behind the lock server's API: a search is
`POST /api/v1/targets/search` with the body `{"query": ...}`, a registration
`POST /api/v1/targets` with `{"record": ...}`, an update `PATCH /api/v1/targets` with
`{"filter": ..., "patch": ...}`, and the health check `GET /api/v1/health`. Bodies are compact
JSON with `<`, `>` and `&` escaped. Every request carries the client's read and write keys, those
that are not empty, and a request with a body its content type.

* `HttpServer σ` is an HTTP server as its client reaches it: a request is a step on the server's
  state `σ` that answers a response or fails with the connection's words.
  `LockServer.Server.http` is the lock server, and `HttpServer.unreachable` a server on a
  network that reaches nothing.
* `HttpClient.exchange` sends a request and reads the answer whole as an envelope
  `{status, data, error}`. A request that gets no answer fails with the words of the connection,
  after the method and the URL (`Post "http://host/api/v1/targets": ...`); an answer that is no
  envelope fails with its status and its body, blanks around it trimmed (`HTTP 502: bad
  gateway`); an envelope with an error, or with a status of 400 or above, fails with the status
  and the error (`HTTP 409: CONFLICT: target "a" already exists`, or `HTTP 404`).
* `httpBackend` is the client as a lock backend. A search reads the envelope's data as records
  and an update as the count `matched`; data that does not read fails as `decode data: ...`. A
  registration answered with the code `CONFLICT` or the status 409 is refused as `registered`,
  and a record whose time has no JSON form is refused before anything is sent.
-/

namespace TestDispatch

open Json

/-- An HTTP server as its client reaches it. -/
structure HttpServer (σ : Type) where
  /-- Sends a request: the response, or the words of the failed connection. -/
  send : Http.Request → EStateM String σ Http.Response

/-- A server on a network that reaches nothing: every request fails with the words of the
refused connection to `host`. -/
def HttpServer.unreachable {σ : Type} (host : String) : HttpServer σ where
  send _ := EStateM.throw (unreachableDial host)

/-- The lock server as its clients reach it, answering at time `now`. -/
def LockServer.Server.http (now : Instant) : HttpServer LockServer.Server where
  send r s := .ok (s.handle now r).1 (s.handle now r).2

/-- How a failed request names its method: `Get` for the empty method; the first character as
written and the rest in lower case for a method all in ASCII (`Post`, `Patch`); any other method
as written. -/
def requestOp (method : String) : String :=
  match method.toList with
  | [] => "Get"
  | c :: cs =>
    if (c :: cs).all fun ch : Char => ch.toNat < 0x80 then String.ofList (c :: cs.map Char.toLower)
    else method

/-! ## The envelope -/

/-- An answer's envelope as the client reads it: the status word, the data as written, and the
error. -/
structure Envelope where
  status : String := ""
  data : Option Value := none
  error : Option ApiError := none
  deriving Repr, Inhabited

namespace Envelope

/-- The fields of a field at fault. -/
def fieldErrorFields (s : Site) : List (String × (Value → FieldError → Decoding FieldError)) :=
  [("field", fun v d => return { d with field := ← decodeText (s.child "field") v d.field }),
   ("message", fun v d => return { d with message := ← decodeText (s.child "message") v d.message })]

/-- The fields at fault of an error: each element is decoded over the one at its place before
(an empty one past its end), and `null` clears the list. -/
def decodeDetails (s : Site) (v : Value) (old : List FieldError) : Decoding (List FieldError) :=
  match v with
  | .array items => items.zipIdx.mapM fun (item, i) =>
    decodeRecord s "model.FieldError" (fieldErrorFields s) item (old.getD i { message := "" })
  | .null => pure []
  | v => do mismatch s v.mismatchName "[]model.FieldError"; pure old

/-- The fields of an API error. -/
def apiErrorFields (s : Site) : List (String × (Value → ApiError → Decoding ApiError)) :=
  [("code", fun v e => return { e with code := ← decodeText (s.child "code") v e.code "model.ErrorCode" }),
   ("message", fun v e => return { e with message := ← decodeText (s.child "message") v e.message }),
   ("details", fun v e => return { e with details := ← decodeDetails (s.child "details") v e.details })]

/-- The error of an envelope: `null` clears it, and an object fills the fields it names. -/
def decodeError (s : Site) (v : Value) (old : Option ApiError) : Decoding (Option ApiError) :=
  match v with
  | .object members =>
    some <$> decodeMembers members (old.getD { code := "", message := "" }) (select (apiErrorFields s))
  | .null => pure none
  | v => do mismatch s v.mismatchName "model.APIError"; pure old

/-- The fields of an envelope; its data is kept as written. -/
def fields (s : Site) : List (String × (Value → Envelope → Decoding Envelope)) :=
  [("status", fun v e => return { e with status := ← decodeText (s.child "status") v e.status }),
   ("data", fun v e => pure { e with data := some v }),
   ("error", fun v e => return { e with error := ← decodeError (s.child "error") v e.error })]

/-- Reads an envelope from a whole body. -/
def decode (body : List UInt8) : Except String Envelope :=
  decodeWhole { root := "envelope", qualified := "targetlock.envelope" } {} fields body

end Envelope

/-! ## The data of an answer -/

/-- Where a record of an answer is decoded. -/
def recordSite : Site := { root := "TargetRecord", qualified := "model.TargetRecord" }

/-- The records of an answer: each element of an array decoded from the empty record, or none for
`null`. -/
def decodeRecords (v : Value) : Decoding (List TargetRecord) :=
  match v with
  | .array items => items.mapM fun item =>
    decodeRecord recordSite "model.TargetRecord" (LockServer.recordFields recordSite) item { id := "" }
  | .null => pure []
  | v => do
    mismatch { recordSite with qualified := "[]model.TargetRecord" } v.mismatchName ""
    pure []

/-- Reads the records of a search's answer; the first mismatch met is the failure. -/
def readRecords (v : Value) : Except String (List TargetRecord) :=
  match (decodeRecords v).run none with
  | .error e => .error e
  | .ok (_, some e) => .error e
  | .ok (rs, none) => .ok rs

/-- The data of an update's answer: how many records its filter selected. -/
structure UpdateResult where
  matched : Int := 0
  deriving DecidableEq, Repr, Inhabited

/-- The fields of an update's result. -/
def UpdateResult.fields (s : Site) : List (String × (Value → UpdateResult → Decoding UpdateResult)) :=
  [("matched", fun v r => return { r with matched := ← decodeInt64 (s.child "matched") "int" v r.matched })]

/-- Reads the result of an update's answer. -/
def UpdateResult.read (v : Value) : Except String UpdateResult :=
  decodeValue { root := "UpdateResult", qualified := "model.UpdateResult" } {} UpdateResult.fields v

/-! ## The client -/

/-- The body of a search: the query alone, since the lock service never asks for a projection. -/
def searchBody (q : TargetQuery) : Value := .object [("query", q.toJson)]

/-- The body of a registration. -/
def createBody (r : TargetRecord) : Value := .object [("record", r.toJson)]

/-- The body of an update. -/
def updateBody (f : TargetQuery) (p : TargetPatch) : Value :=
  .object [("filter", f.toJson), ("patch", p.toJson)]

/-- A client of the lock server: the server's URL, with no `/` at its end, and the keys it
presents, the empty text presenting none. -/
structure HttpClient where
  baseUrl : String
  readKey : String := ""
  writeKey : String := ""
  deriving DecidableEq, Repr, Inhabited

namespace HttpClient

/-- Why a call failed: its words, the status of the answer (0 when none came), and the API error
the answer carried, if any. -/
structure Failure where
  message : String
  status : Nat := 0
  apiError : Option ApiError := none
  deriving Repr, Inhabited

/-- The request of a call with `method` at `path`, with a JSON body if there is one. -/
def request (c : HttpClient) (method path : String) (body : Option Value) : Http.Request :=
  { method, target := path,
    headers := (if body.isSome then [("Content-Type", "application/json")] else []) ++
      (if c.readKey = "" then [] else [("X-Read-Key", c.readKey)]) ++
      (if c.writeKey = "" then [] else [("X-Write-Key", c.writeKey)]),
    body := (body.map (Value.write true)).getD "" }

variable {σ : Type}

/-- Sends a call to `srv` and reads the answer's envelope: the status and the envelope's data. -/
def exchange (c : HttpClient) (srv : HttpServer σ) (method path : String) (body : Option Value) :
    EStateM Failure σ (Nat × Option Value) := do
  let resp ← (srv.send (c.request method path body)).adaptExcept fun e =>
    { message := s!"{requestOp method} {Quoted.quote (c.baseUrl ++ path)}: {e}" }
  match Envelope.decode resp.body.toUTF8.toList with
  | .error _ =>
    throw { message := s!"HTTP {resp.status}: {Logging.trimSpace resp.body}", status := resp.status }
  | .ok env =>
    match env.error with
    | some e => throw { message := s!"HTTP {resp.status}: {e.text}", status := resp.status, apiError := some e }
    | none =>
      if 400 ≤ resp.status then throw { message := s!"HTTP {resp.status}", status := resp.status }
      else pure (resp.status, env.data)

/-- A call whose answer's data `read` reads; an answer without data gives `init`. -/
def fetch {α : Type} (c : HttpClient) (srv : HttpServer σ) (method path : String)
    (body : Option Value) (read : Value → Except String α) (init : α) : EStateM Failure σ α := do
  let (status, data) ← c.exchange srv method path body
  match data with
  | none => pure init
  | some v =>
    match read v with
    | .ok a => pure a
    | .error e => throw { message := s!"decode data: {e}", status }

end HttpClient

/-- The client `c` of the server `srv` as a lock backend. The interface carries no state out of a
failed call and counts in natural numbers, so what a server does while answering a failed call
is dropped, and a negative count reads as zero. -/
def httpBackend {σ : Type} (c : HttpClient) (srv : HttpServer σ) : LockBackend σ where
  search q st :=
    match (c.fetch srv "POST" "/api/v1/targets/search" (some (searchBody q)) readRecords []).run st with
    | .ok rs _ => .ok rs
    | .error e _ => .error (.remote ("search: " ++ e.message))
  create r st :=
    match r.updatedAt.marshalError? with
    | some e => .error (.remote ("create: " ++ e))
    | none =>
      match (c.exchange srv "POST" "/api/v1/targets" (some (createBody r))).run st with
      | .ok _ st => .ok st
      | .error e _ =>
        if ApiError.hasCode e.apiError ApiError.conflictCode || e.status == 409 then .error .registered
        else .error (.remote ("create: " ++ e.message))
  update f p st :=
    match (c.fetch srv "PATCH" "/api/v1/targets" (some (updateBody f p)) UpdateResult.read {}).run st with
    | .ok res st => .ok (res.matched.toNat, st)
    | .error e _ => .error (.remote ("update: " ++ e.message))
  ping st :=
    match (c.exchange srv "GET" "/api/v1/health" none).run st with
    | .ok _ _ => .ok ()
    | .error e _ => .error ("health: " ++ e.message)

end TestDispatch
