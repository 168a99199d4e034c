import TestDispatch.Json.Decode
import TestDispatch.ApiError
import TestDispatch.Report.Database
/-!
# Test results

A test result is what a worker reports once a test has run against a target: the test, the
execution ticket it ran for, its outcome, where its log went, the target and build, when it
started and how long it ran (in nanoseconds).

The outcome is kept as the text that was reported; only `PASSED`, `FAILED`, `ERROR` and
`SKIPPED` are valid, and a recorder refuses the others.
-/

namespace TestDispatch

open TestDispatch.Json

/-- A finished test. -/
structure TestResult where
  testId : String := ""
  ticket : String := ""
  status : String := ""
  artifact : String := ""
  target : String := ""
  build : String := ""
  startedAt : Instant := Instant.zero
  /-- Nanoseconds. -/
  duration : Int := 0
  deriving DecidableEq, Repr, Inhabited

namespace TestResult

/-- Whether the reported outcome is one of the four valid ones. -/
def statusValid (r : TestResult) : Bool := (TestStatus.ofName? r.status).isSome

/-- The fields of a result, by member name. -/
def fields (s : Site) : List (String × (Value → TestResult → Decoding TestResult)) :=
  [("test_id", fun v r => return { r with testId := ← decodeText (s.child "test_id") v r.testId }),
   ("ticket", fun v r => return { r with ticket := ← decodeText (s.child "ticket") v r.ticket }),
   ("status", fun v r => return { r with status := ← decodeText (s.child "status") v r.status "model.TestStatus" }),
   ("artifact", fun v r => return { r with artifact := ← decodeText (s.child "artifact") v r.artifact }),
   ("target", fun v r => return { r with target := ← decodeText (s.child "target") v r.target }),
   ("build", fun v r => return { r with build := ← decodeText (s.child "build") v r.build }),
   ("started_at", fun v r => return { r with startedAt := ← decodeTime v r.startedAt }),
   ("duration", fun v r => return { r with duration := ← decodeInt64 (s.child "duration") "time.Duration" v r.duration })]

/-- Decodes a result from a JSON value. -/
def decode (v : Value) : Except String TestResult :=
  decodeValue { root := "TestResult", qualified := "model.TestResult" } {} fields v

/-- The report of a result, without id or recording time: the database gives those. -/
def toEntry (r : TestResult) : ReportEntry :=
  { testId := r.testId, ticket := r.ticket, status := r.status, artifact := r.artifact,
    target := r.target, build := r.build, startedAt := r.startedAt, duration := r.duration }

end TestResult

end TestDispatch
