import TestDispatch.Json.Value
import TestDispatch.Text.Quoted
/-!
# API errors

The lock server answers a failed request with an error code, a message and, for invalid input,
the fields at fault. Each code has its HTTP status; an unknown code counts as an internal error.
-/

namespace TestDispatch

/-- A field at fault and what is wrong with it. -/
structure FieldError where
  field : String := ""
  message : String
  deriving DecidableEq, Repr, Inhabited

/-- An error of the lock server's API. -/
structure ApiError where
  code : String
  message : String
  details : List FieldError := []
  deriving DecidableEq, Repr, Inhabited

namespace ApiError

/-- The code of invalid input. -/
def validationCode : String := "VALIDATION_ERROR"
/-- The code of a missing resource. -/
def notFoundCode : String := "NOT_FOUND"
/-- The code of a resource that already exists. -/
def conflictCode : String := "CONFLICT"
/-- The code of a caller without valid keys. -/
def unauthorizedCode : String := "UNAUTHORIZED"
/-- The code of a caller whose keys do not allow the request. -/
def forbiddenCode : String := "FORBIDDEN"
/-- The code of a failure inside the server. -/
def internalCode : String := "INTERNAL_ERROR"

/-- The words of an error: code and message, and the first field at fault. -/
def text (e : ApiError) : String :=
  match e.details with
  | [] => s!"{e.code}: {e.message}"
  | d :: _ => s!"{e.code}: {e.message} ({d.field}: {d.message})"

/-- The HTTP status of an error's code. -/
def status (e : ApiError) : Nat :=
  if e.code = validationCode then 400
  else if e.code = notFoundCode then 404
  else if e.code = conflictCode then 409
  else if e.code = unauthorizedCode then 401
  else if e.code = forbiddenCode then 403
  else 500

/-- An invalid-input error. -/
def validation (message : String) (details : List FieldError := []) : ApiError :=
  { code := validationCode, message, details }

/-- The error for a resource that already exists. -/
def conflict (resource id : String) : ApiError :=
  { code := conflictCode, message := s!"{resource} {Quoted.quote id} already exists" }

/-- Whether an error is an API error with the given code. -/
def hasCode (e : Option ApiError) (code : String) : Bool :=
  match e with
  | some e => e.code = code
  | none => false

/-- An error as JSON: code, message, and the fields at fault when there are any (a field's name
is left out when empty). -/
def toJson (e : ApiError) : Json.Value :=
  let detail (d : FieldError) : Json.Value :=
    .object ((if d.field = "" then [] else [("field", Json.Value.string d.field)]) ++
      [("message", .string d.message)])
  .object ([("code", .string e.code), ("message", .string e.message)] ++
    (if e.details.isEmpty then [] else [("details", .array (e.details.map detail))]))

end ApiError

/-- The outcome of a test. -/
inductive TestStatus where
  | passed
  | failed
  | error
  | skipped
  deriving DecidableEq, Repr, Inhabited

/-- The name of an outcome. -/
def TestStatus.name : TestStatus → String
  | .passed => "PASSED"
  | .failed => "FAILED"
  | .error => "ERROR"
  | .skipped => "SKIPPED"

/-- The outcome a name stands for, exactly as written. -/
def TestStatus.ofName? : String → Option TestStatus
  | "PASSED" => some .passed
  | "FAILED" => some .failed
  | "ERROR" => some .error
  | "SKIPPED" => some .skipped
  | _ => none

end TestDispatch
