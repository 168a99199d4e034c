import TestDispatch.LockServer.Requests
import TestDispatch.Store
import TestDispatch.ApiError
import TestDispatch.Http.Message
import TestDispatch.Metrics.Counter
import TestDispatch.Json.Writer
/-!
# The lock server

An HTTP API over a target store:

* `GET /api/v1/health` reports the number of targets, how many are occupied, and whether keys
  are required;
* `POST /api/v1/targets/search` answers the records a query selects, or only some of their
  fields (the `projection`);
* `POST /api/v1/targets` registers a record, which must have an id and a holder exactly when
  occupied;
* `PATCH /api/v1/targets` patches the records a filter selects, answering how many it selected;
  both filter and patch must set a field;
* `/metrics` (any method) shows the operation counters.

Every answer under `/api/v1` is an envelope `{status, request_id, timestamp, data, error}`.

Keys: when any key is configured, requests under `/api/v1/targets` must carry `X-Read-Key` or
`X-Write-Key`. A write key that matches gives the write role, else a read key that matches gives
the read role, else the request is refused as unauthorized; searching needs the read role and
the other two the write role (which includes reading). Without keys every request has the write
role. The key check comes before the request is routed within `/api/v1/targets`, so it also
guards paths there that name nothing.

Each request gets an id: the one it carries in `X-Request-Id`, or a new one.
-/

namespace TestDispatch.LockServer

open TestDispatch.Json

/-- What a caller may do. -/
inductive Role where
  | none
  | read
  | write
  deriving DecidableEq, Repr, Inhabited

/-- The rank of a role; each role allows what the roles below it allow. -/
def Role.rank : Role → Nat
  | .none => 0
  | .read => 1
  | .write => 2

/-- The name of a role. -/
def Role.name : Role → String
  | .none => "none"
  | .read => "read"
  | .write => "write"

/-- The state of a lock server. -/
structure Server where
  /-- The configured read keys, empty ones left out. -/
  readKeys : List String
  /-- The configured write keys, empty ones left out. -/
  writeKeys : List String
  store : TargetStore
  operations : CounterFamily :=
    { name := "testfleet_lockd_operations_total",
      help := "Lock store operations by primitive and result.", labels := ["op", "result"] }
  /-- How many request ids the server has made up. -/
  issued : Nat := 0
  deriving Repr, Inhabited

/-- A server over a store with the given keys. -/
def Server.create (readKeys writeKeys : List String) (store : TargetStore) : Server :=
  { readKeys := readKeys.filter (· ≠ ""), writeKeys := writeKeys.filter (· ≠ ""), store }

namespace Server

/-- Whether keys are required. -/
def authEnabled (s : Server) : Bool := !(s.readKeys.isEmpty && s.writeKeys.isEmpty)

/-- The role that presented keys give. -/
def resolve (s : Server) (readKey writeKey : String) : Role :=
  if writeKey ≠ "" && s.writeKeys.contains writeKey then .write
  else if readKey ≠ "" && s.readKeys.contains readKey then .read
  else .none

/-- The role of a request, or the error that refuses it. -/
def authorize (s : Server) (r : Http.Request) : Except ApiError Role :=
  if !s.authEnabled then .ok .write
  else
    let readKey := r.header "X-Read-Key"
    let writeKey := r.header "X-Write-Key"
    if readKey = "" && writeKey = "" then
      .error { code := ApiError.unauthorizedCode,
               message := "authentication required (X-Read-Key or X-Write-Key header missing)" }
    else match s.resolve readKey writeKey with
      | .none => .error { code := ApiError.unauthorizedCode, message := "invalid key" }
      | role => .ok role

/-- Counts one store operation and its result. -/
def count (s : Server) (op result : String) : Server :=
  { s with operations := s.operations.inc [op, result] }

end Server

/-- What a handler answers: the status and the envelope's data, or an error. -/
inductive Reply where
  | ok (status : Nat) (data : Value)
  | failed (e : ApiError)
  deriving Repr, Inhabited

/-- The error for a store operation that failed inside the server. -/
def internal (op : String) : Reply :=
  .failed { code := ApiError.internalCode, message := s!"{op} failed" }

/-- The error for a body that could not be read. -/
def unreadable (why : String) : Reply := .failed (ApiError.validation s!"invalid JSON: {why}")

/-- The fields a projection may name. -/
def projectable : List String := ["id", "occupied", "holder", "updated_at"]

/-- The fields of a record that a projection names, as an object with sorted member names and
each name once. -/
def project (fields : List String) (r : TargetRecord) : Value :=
  let names := (fields.eraseDups).mergeSort fun a b => decide (a ≤ b)
  .object (names.filterMap fun f => match f with
    | "id" => some (f, .string r.id)
    | "occupied" => some (f, .bool r.occupied)
    | "holder" => some (f, .string r.holder)
    | "updated_at" => some (f, .string r.updatedAt.format)
    | _ => none)

/-- Runs a store operation on the server's store. -/
def Server.onStore (s : Server) (m : StoreM α) : Except StoreError α × Server :=
  let (r, store) := m.run.run s.store
  (r, { s with store })

/-- The health report. -/
def health (s : Server) : Reply :=
  match (s.onStore (TargetStore.search {})).1 with
  | .error _ => .failed { code := ApiError.internalCode, message := "lock store unavailable" }
  | .ok rs =>
    .ok 200 (.object [("status", .string "healthy"), ("uptime", .string "0s"),
      ("targets", .number (Number.ofNat rs.length)),
      ("occupied", .number (Number.ofNat (rs.filter (·.occupied)).length)),
      ("auth", .bool s.authEnabled)])

/-- A search. -/
def search (s : Server) (body : String) : Reply × Server :=
  match SearchRequest.read body with
  | .error why => (unreadable why, s)
  | .ok req =>
    let fields := req.projection.getD []
    match fields.find? (fun f => !projectable.contains f) with
    | some bad =>
      (.failed (ApiError.validation "invalid projection"
        [{ field := "projection", message := s!"unknown field {bad}" }]), s)
    | none =>
      match s.onStore (TargetStore.search req.query) with
      | (.error _, s) => (internal "search", s.count "search" "error")
      | (.ok rs, s) =>
        let data := if fields.isEmpty then rs.map TargetRecord.toJson else rs.map (project fields)
        (.ok 200 (.array data), s.count "search" "ok")

/-- A registration. -/
def create (now : Instant) (s : Server) (body : String) : Reply × Server :=
  match CreateRequest.read body with
  | .error why => (unreadable why, s)
  | .ok req =>
    let r := req.record
    if r.id = "" then
      (.failed (ApiError.validation "invalid record" [{ field := "record.id", message := "required" }]), s)
    else if r.occupied ≠ (r.holder ≠ "") then
      (.failed (ApiError.validation "invalid record"
        [{ field := "record.holder", message := "holder must be set exactly when occupied" }]), s)
    else
      match s.onStore (TargetStore.create now r) with
      | (.ok row, s) => (.ok 201 row.toJson, s.count "create" "ok")
      | (.error (.conflict _), s) => (.failed (ApiError.conflict "target" r.id), s.count "create" "conflict")
      | (.error _, s) => (internal "create", s.count "create" "error")

/-- A patch. -/
def update (now : Instant) (s : Server) (body : String) : Reply × Server :=
  match UpdateRequest.read body with
  | .error why => (unreadable why, s)
  | .ok req =>
    let required (field : String) : Reply :=
      .failed (ApiError.validation "invalid update" [{ field, message := "at least one field required" }])
    if req.filter.isEmpty then (required "filter", s)
    else if req.patch.isEmpty then (required "patch", s)
    else
      match s.onStore (TargetStore.update now req.filter req.patch) with
      | (.error _, s) => (internal "update", s.count "update" "error")
      | (.ok n, s) =>
        (.ok 200 (.object [("matched", .number (Number.ofNat n))]),
          s.count "update" (if n = 0 then "no_match" else "ok"))

/-- The envelope of a reply, as written: compact JSON with a line end. -/
def envelope (now : Instant) (requestId : String) : Reply → Nat × String
  | .ok status data =>
    (status, Value.write true (.object [("status", .string "ok"), ("request_id", .string requestId),
      ("timestamp", .string now.format), ("data", data), ("error", .null)]) ++ "\n")
  | .failed e =>
    (e.status, Value.write true (.object [("status", .string "error"),
      ("request_id", .string requestId), ("timestamp", .string now.format), ("data", .null),
      ("error", e.toJson)]) ++ "\n")

/-- What a request under `/api/v1/targets` reaches, given the path below it. -/
def targets (now : Instant) (s : Server) (r : Http.Request) (sub : String) :
    Except Http.Response (Reply × Server) :=
  match s.authorize r with
  | .error e => .ok (.failed e, s)
  | .ok role =>
    let need (min : Role) (run : Reply × Server) : Reply × Server :=
      if role.rank < min.rank then
        (.failed { code := ApiError.forbiddenCode, message := s!"{min.name} role required" }, s)
      else run
    if sub = "/" then
      if r.method = "POST" then .ok (need .write (create now s r.body))
      else if r.method = "PATCH" then .ok (need .write (update now s r.body))
      else .error Http.methodNotAllowed
    else if sub = "/search" then
      if r.method = "POST" then .ok (need .read (search s r.body)) else .error Http.methodNotAllowed
    else .error Http.notFound

/-- The path below `/api/v1/targets`, when the path is that or below it. -/
def targetsPath (path : String) : Option String :=
  let pre := "/api/v1/targets".toList
  let cs := path.toList
  if cs = pre then some "/"
  else if pre ++ ['/'] <+: cs then some (String.ofList ('/' :: cs.drop (pre.length + 1)))
  else none

/-- Answers a request, stamping writes and envelopes with `now`. -/
def Server.handle (now : Instant) (s : Server) (r : Http.Request) : Http.Response × Server :=
  let given := r.header "X-Request-Id"
  let (requestId, s) :=
    if given ≠ "" then (given, s)
    else (s!"lockd/{Instant.padded 6 (s.issued + 1)}", { s with issued := s.issued + 1 })
  let withId (resp : Http.Response) : Http.Response := { resp with requestId }
  let json (reply : Reply) : Http.Response :=
    let (status, body) := envelope now requestId reply
    { status, contentType := "application/json", requestId, body }
  let path := r.path
  if path = "/metrics" then
    (withId { status := 200, body := s.operations.exposition,
              contentType := "text/plain; version=0.0.4; charset=utf-8; escaping=underscores" }, s)
  else if path = "/api/v1/health" then
    if r.method = "GET" then (json (health s), s) else (withId Http.methodNotAllowed, s)
  else match targetsPath path with
    | some sub =>
      match targets now s r sub with
      | .ok (reply, s) => (json reply, s)
      | .error resp => (withId resp, s)
    | none => (withId Http.notFound, s)

/-- Closes the server's store. -/
def Server.closeStore (s : Server) : Server :=
  { s with store := (TargetStore.close.run.run s.store).2 }

end TestDispatch.LockServer
