import TestDispatch.Json.Decode
import TestDispatch.Json.Writer
/-!
# JSON-RPC 1.1 envelopes

A call is an object `{id, method, version, params}` whose `params` are positional and kept as
written, each a JSON value that the handler of the method decodes itself. The answer is
`{id, version, result}` when the call succeeded and `{id, version, error}` when it failed,
`error` being a fault `{name, code, message}`.

A call is decoded from the whole body: text after the call object is refused, and so is a body
that holds no call (`unexpected end of JSON input`). Members are matched by the rules of
`Json.Decode`, so `{"ID": "x", "METHOD": "m"}` is a call too.
-/

namespace TestDispatch.Reporting

open TestDispatch.Json

/-- The code of a body that holds no call. -/
def parseErrorCode : Int := -32700
/-- The code of a call without a method. -/
def invalidRequestCode : Int := -32600
/-- The code of a call of a method that no handler serves. -/
def methodNotFoundCode : Int := -32601
/-- The code of a handler that failed, panicked, or answered what cannot be written. -/
def serverErrorCode : Int := -32000

/-- The method name of the "test finished" call. -/
def testFinishedMethod : String := "Reporter.TestFinished"

/-- A call. -/
structure RpcRequest where
  id : String := ""
  method : String := ""
  version : String := ""
  /-- The positional parameters; none when the call has no `params` or `null` there. -/
  params : Option (List Value) := none
  deriving Repr, Inhabited

/-- A fault: why a call failed. -/
structure Fault where
  name : String
  code : Int
  message : String
  deriving DecidableEq, Repr, Inhabited

/-- An answer. -/
structure RpcResponse where
  id : String := ""
  version : String := "1.1"
  result : Option Value := none
  error : Option Fault := none
  deriving Repr, Inhabited

/-- The JSON form of a fault. -/
def Fault.toJson (f : Fault) : Value :=
  .object [("name", .string f.name), ("code", .number (Number.ofInt f.code)),
    ("message", .string f.message)]

/-- The JSON form of an answer: `result` and `error` only when present. -/
def RpcResponse.toJson (r : RpcResponse) : Value :=
  .object ([("id", .string r.id), ("version", .string r.version)] ++
    (r.result.map fun v => ("result", v)).toList ++
    (r.error.map fun f => ("error", f.toJson)).toList)

/-- The parameters of a call: an array, kept element by element; `null` clears them. -/
def decodeParams (s : Site) (v : Value) (old : Option (List Value)) : Decoding (Option (List Value)) :=
  match v with
  | .array items => pure (some items)
  | .null => pure none
  | v => do mismatch s v.mismatchName "[]jsontext.Value"; pure old

/-- The fields of a call. -/
def RpcRequest.fields (s : Site) : List (String × (Value → RpcRequest → Decoding RpcRequest)) :=
  [("id", fun v r => return { r with id := ← decodeText (s.child "id") v r.id }),
   ("method", fun v r => return { r with method := ← decodeText (s.child "method") v r.method }),
   ("version", fun v r => return { r with version := ← decodeText (s.child "version") v r.version }),
   ("params", fun v r => return { r with params := ← decodeParams (s.child "params") v r.params })]

/-- Decodes a call from a whole body. -/
def RpcRequest.decode (body : List UInt8) : Except String RpcRequest :=
  decodeWhole { root := "Request", qualified := "reporting.Request" } {} RpcRequest.fields body

end TestDispatch.Reporting
