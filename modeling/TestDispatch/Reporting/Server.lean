import TestDispatch.Reporting.Rpc
import TestDispatch.Reporting.Recorder
import TestDispatch.Http.Message
import TestDispatch.Metrics.Counter
/-!
# The reporting endpoint

An HTTP server with two routes: `GET /health`, which answers `{"status":"ok"}`, and
`POST /rpc`, which serves JSON-RPC 1.1 calls. A call is answered with status 200 whatever its
outcome; the outcome is in the answer:

* a body that holds no call is a parse error (`parse error: ...`), answered without an id;
* a call without a method is an invalid request;
* a call of a method that no handler serves is answered `method "m" not found`;
* a handler that fails answers a `HandlerError` fault with its words, one that panics a
  `HandlerPanic` fault, and one whose result cannot be written (`+Inf`) a fault
  `encode result: ...`;
* otherwise the answer carries the handler's result.

Each call is counted by method and outcome (`ok` or `fault`); a call that names no method is
counted under the empty method. Only the first MiB of a body is read.

A handler is any function of the call's parameters and the recorder whose results have a JSON
form; the endpoint binds handlers to method names. The recorder's handler serves
`Reporter.TestFinished`, whose one parameter is a test result.
-/

namespace TestDispatch.Reporting

open TestDispatch.Json

/-- How a handler ended. -/
inductive Outcome where
  | returned (v : Value)
  /-- The result has no JSON form, for the reason given. -/
  | unwritable (why : String)
  | failed (why : String)
  | panicked (why : String)
  deriving Repr, Inhabited

/-- A method handler: run at time `now` on a call's parameters (none when the call has none) with
the endpoint's recorder, it ends with an outcome and the recorder it leaves. What it returns has
a JSON form whenever its parameters do. -/
structure Handler where
  run : Instant → Option (List Value) → Recorder → Outcome × Recorder
  returned_valid : ∀ now params rec v, (∀ ps ∈ params, ∀ p ∈ ps, ValidLiterals p) →
    (run now params rec).1 = .returned v → ValidLiterals v

/-- The recorder serving `Reporter.TestFinished` at time `now`: the one parameter is a test
result, and the answer is `true` once the recorder took it. -/
def Recorder.handle (now : Instant) (params : Option (List Value)) (rec : Recorder) :
    Outcome × Recorder :=
  match params.getD [] with
  | [p] =>
    match TestResult.decode p with
    | .error e => (.failed s!"{testFinishedMethod}: decode result: {e}", rec)
    | .ok r =>
      match rec.record now r with
      | (.ok (), rec) => (.returned (.bool true), rec)
      | (.error e, rec) => (.failed e, rec)
  | ps => (.failed s!"{testFinishedMethod}: expected 1 param, got {ps.length}", rec)

/-- The recorder answers `true` or nothing. -/
theorem Recorder.handle_returned {now : Instant} {params : Option (List Value)} {rec : Recorder}
    {v : Value} (h : (Recorder.handle now params rec).1 = .returned v) : v = .bool true := by
  unfold Recorder.handle at h
  split at h
  · split at h
    · cases h
    · split at h
      · cases h
        rfl
      · cases h
  · cases h

/-- The recorder as a handler. -/
def Handler.testFinished : Handler where
  run := Recorder.handle
  returned_valid _ _ _ _ _ h := by
    rw [Recorder.handle_returned h]
    exact .bool true

/-- A reporting server. -/
structure Server where
  /-- The handlers by method name, each name at most once. -/
  handlers : List (String × Handler) := []
  recorder : Recorder := {}
  calls : CounterFamily :=
    { name := "testfleet_rpc_calls_total",
      help := "Reporting RPC calls served, by method and outcome (ok, fault).",
      labels := ["method", "outcome"] }
  deriving Inhabited

namespace Server

/-- Binds a method to a handler, replacing the handler it had. -/
def register (s : Server) (method : String) (h : Handler) : Server :=
  { s with handlers := (s.handlers.filter (·.1 ≠ method)) ++ [(method, h)] }

/-- Leaves a method without handler. -/
def unregister (s : Server) (method : String) : Server :=
  { s with handlers := s.handlers.filter (·.1 ≠ method) }

/-- A server whose recorder serves `Reporter.TestFinished`. -/
def create (recorder : Recorder) : Server :=
  ({ recorder } : Server).register testFinishedMethod .testFinished

/-- Counts a call. -/
def count (s : Server) (method outcome : String) : Server :=
  { s with calls := s.calls.inc [method, outcome] }

/-- The fault of the server itself (not of a handler). -/
def refusal (code : Int) (message : String) : Fault := { name := "JSONRPCError", code, message }

/-- The largest body read, in octets. -/
def maxBody : Nat := 1048576

/-- Serves a call at time `now`. -/
def call (now : Instant) (s : Server) (body : List UInt8) : RpcResponse × Server :=
  match RpcRequest.decode (body.take maxBody) with
  | .error e =>
    ({ error := some (refusal parseErrorCode s!"parse error: {e}") }, s.count "" "fault")
  | .ok req =>
    if req.method = "" then
      ({ id := req.id, error := some (refusal invalidRequestCode "method is required") },
        s.count "" "fault")
    else
      let answer : RpcResponse := { id := req.id }
      let fault (f : Fault) (s : Server) := ({ answer with error := some f }, s.count req.method "fault")
      match s.handlers.find? (·.1 = req.method) with
      | none => fault (refusal methodNotFoundCode s!"method {Quoted.quote req.method} not found") s
      | some (_, h) =>
        let (outcome, recorder) := h.run now req.params s.recorder
        let s := { s with recorder }
        match outcome with
        | .returned v => ({ answer with result := some v }, s.count req.method "ok")
        | .failed why => fault { name := "HandlerError", code := serverErrorCode, message := why } s
        | .panicked why => fault { name := "HandlerPanic", code := serverErrorCode, message := why } s
        | .unwritable why => fault (refusal serverErrorCode s!"encode result: {why}") s

/-- Answers an HTTP request at time `now`. -/
def handle (now : Instant) (s : Server) (r : Http.Request) : Http.Response × Server :=
  let path := r.path
  if path = "/health" then
    if r.method = "GET" then
      ({ status := 200, contentType := "application/json",
         body := Value.write true (.object [("status", .string "ok")]) }, s)
    else (Http.methodNotAllowed, s)
  else if path = "/rpc" then
    if r.method = "POST" then
      let (answer, s) := s.call now r.body.toUTF8.toList
      ({ status := 200, contentType := "application/json",
         body := Value.write true answer.toJson ++ "\n" }, s)
    else (Http.methodNotAllowed, s)
  else (Http.notFound, s)

end Server

end TestDispatch.Reporting
