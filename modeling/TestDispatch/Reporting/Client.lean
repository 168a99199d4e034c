import TestDispatch.Reporting.Server
import TestDispatch.Logging.Level
/-!
# The reporting client

A client calls the reporting endpoint over HTTP. A call is a JSON-RPC 1.1 request
`{id, method, version, params}` posted to `/rpc`, each parameter written as JSON with `<`, `>`
and `&` escaped, and the id the client's stem and the call's number (`3f2a9c1e-4`). The answer
is read whole:

* an answer that is no JSON response is an error showing the HTTP status and the body, blanks
  around it trimmed (`Reporter.TestFinished: HTTP 502: bad gateway`);
* an answer with a fault is an error that carries the fault, worded
  `Reporter.TestFinished: rpc fault -32000: test_id is required`;
* any other answer is the call's result.

A parameter that cannot be written as JSON stops the call before anything is sent
(`Reporter.TestFinished: marshal param: ...`).

`testFinished` reports one test result, written with the members `test_id`, `ticket`, `status`,
`artifact`, then `target` and `build` when not empty, `started_at` in RFC 3339 with as many
fraction digits as it needs, and `duration` in nanoseconds. A start time can be written only when
its year, as shown, lies in 0..9999 and its zone is less than 24 hours away from UTC.
-/

namespace TestDispatch

open Json

namespace TestResult

/-- The JSON form of a result. -/
def toJson (r : TestResult) : Value :=
  .object ([("test_id", .string r.testId), ("ticket", .string r.ticket),
    ("status", .string r.status), ("artifact", .string r.artifact)] ++
    (if r.target = "" then [] else [("target", .string r.target)]) ++
    (if r.build = "" then [] else [("build", .string r.build)]) ++
    [("started_at", .string r.startedAt.format), ("duration", Value.int r.duration)])

/-- Why a result has no JSON form: its start time has none. -/
def marshalError? (r : TestResult) : Option String := r.startedAt.marshalError?

end TestResult

namespace Reporting

/-- The JSON form of a call. -/
def callJson (id method : String) (params : List Value) : Value :=
  .object [("id", .string id), ("method", .string method), ("version", .string "1.1"),
    ("params", .array params)]

/-- The fields of a fault. -/
def Fault.fields (s : Site) : List (String × (Value → Fault → Decoding Fault)) :=
  [("name", fun v f => return { f with name := ← decodeText (s.child "name") v f.name }),
   ("code", fun v f => return { f with code := ← decodeInt64 (s.child "code") "int" v f.code }),
   ("message", fun v f =>
      return { f with message := ← decodeText (s.child "message") v f.message })]

/-- A fault of an answer: `null` clears it, and an object fills the fields it names. -/
def decodeFault (s : Site) (v : Value) (old : Option Fault) : Decoding (Option Fault) :=
  match v with
  | .object members => some <$> decodeMembers members (old.getD default) (select (Fault.fields s))
  | .null => pure none
  | v => do mismatch s v.mismatchName "reporting.Fault"; pure old

/-- The fields of an answer; its result is kept as written. -/
def RpcResponse.fields (s : Site) : List (String × (Value → RpcResponse → Decoding RpcResponse)) :=
  [("id", fun v r => return { r with id := ← decodeText (s.child "id") v r.id }),
   ("version", fun v r => return { r with version := ← decodeText (s.child "version") v r.version }),
   ("result", fun v r => pure { r with result := some v }),
   ("error", fun v r => return { r with error := ← decodeFault (s.child "error") v r.error })]

/-- Decodes an answer from a whole body. -/
def RpcResponse.decode (body : List UInt8) : Except String RpcResponse :=
  decodeWhole { root := "Response", qualified := "reporting.Response" } { version := "" }
    RpcResponse.fields body

/-- Why a call failed: its words, and the fault the endpoint answered with, if it did. -/
structure CallError where
  message : String
  fault : Option Fault := none
  deriving DecidableEq, Repr, Inhabited

/-- Whether a call error carries a fault of the given code. -/
def CallError.isFault (e : CallError) (code : Int) : Bool := e.fault.any (·.code == code)

/-- A reporting client: the stem of its call ids, and how many calls it has made. -/
structure Client where
  idStem : String
  calls : Nat := 0
  deriving DecidableEq, Repr, Inhabited

namespace Client

/-- The HTTP request of a call. -/
def post (body : String) : Http.Request :=
  { method := "POST", target := "/rpc", headers := [("Content-Type", "application/json")], body }

/-- Calls `method` with `params`, already in JSON form, on the endpoint `s` at time `now`: the
answer or the error, the client, and the endpoint after the call. -/
def send (now : Instant) (c : Client) (s : Server) (method : String) (params : List Value) :
    Except CallError RpcResponse × Client × Server :=
  let c := { c with calls := c.calls + 1 }
  let body := Value.write true (callJson s!"{c.idStem}-{c.calls}" method params)
  let (resp, s) := s.handle now (post body)
  match RpcResponse.decode resp.body.toUTF8.toList with
  | .error _ =>
    (.error { message := s!"{method}: HTTP {resp.status}: {Logging.trimSpace resp.body}" }, c, s)
  | .ok answer =>
    match answer.error with
    | some f =>
      (.error { message := s!"{method}: rpc fault {f.code}: {f.message}", fault := some f }, c, s)
    | none => (.ok answer, c, s)

/-- Reports a finished test to the endpoint `s` at time `now`. -/
def testFinished (now : Instant) (c : Client) (s : Server) (r : TestResult) :
    Except CallError Unit × Client × Server :=
  match r.marshalError? with
  | some e => (.error { message := s!"{testFinishedMethod}: marshal param: {e}" }, c, s)
  | none =>
    let (answer, c, s) := c.send now s testFinishedMethod [r.toJson]
    (answer.map fun _ => (), c, s)

end Client

end Reporting

end TestDispatch
