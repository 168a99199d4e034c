import TestDispatch.Time.Instant
/-!
# The report database

Test reports are kept in a table, one row per report, keyed by the report's id. A row keeps
its times as UTC text with exactly nine fraction digits (`2024-01-02T03:04:05.120000000Z`, the
empty text for no time) and its duration in whole milliseconds, truncated toward zero.

Reports of a build are listed in the order of their recording times, then of their ids, both
compared as the stored text. Listing reads the stored times back; a stored year outside
0..9999 does not read back, and the time is then lost.
-/

namespace TestDispatch

/-- A test report. -/
structure ReportEntry where
  id : String := ""
  testId : String
  ticket : String := ""
  status : String := ""
  artifact : String := ""
  target : String := ""
  build : String := ""
  startedAt : Instant := Instant.zero
  /-- Nanoseconds. -/
  duration : Int := 0
  recordedAt : Instant := Instant.zero
  deriving DecidableEq, Repr, Inhabited

/-- A report as stored. -/
structure ReportRow where
  id : String
  testId : String
  ticket : String
  status : String
  artifact : String
  target : String
  build : String
  started : String
  durationMs : Int
  recorded : String
  deriving DecidableEq, Repr, Inhabited

/-- A report database. -/
structure ReportDb where
  rows : List ReportRow := []
  deriving DecidableEq, Repr, Inhabited

namespace ReportDb

/-- The stored text of a time: UTC with nine fraction digits. -/
def storedTime (t : Instant) : String :=
  let u := t.utc
  let (y, mo, d, h, mi, s) := u.civil
  s!"{Instant.yearText y}-{Instant.padded 2 mo}-{Instant.padded 2 d}T{Instant.padded 2 h}:{Instant.padded 2 mi}:{Instant.padded 2 s}.{Instant.padded 9 u.nanos}Z"

/-- Reads a stored time back: four-digit year, and the layout `storedTime` writes. -/
def readTime (text : String) : Option Instant := do
  let cs := text.toList
  guard (cs.length = 30 && cs.getD 19 ' ' = '.' && cs.getD 29 ' ' = 'Z')
  let nanos ← Instant.digitsIn ((cs.drop 20).take 9) 0 999999999
  let base ← Instant.parse (String.ofList (cs.take 19 ++ ['Z']))
  pure { base with nanos }

/-- Adds a report. A report without an id takes `freshId`, and one without a recording time
takes `now`. -/
def create (now : Instant) (freshId : String) (e : ReportEntry) (db : ReportDb) :
    Except String ReportDb :=
  if e.testId = "" then .error "create entry: test_id is required"
  else
    let id := if e.id = "" then freshId else e.id
    let recordedAt := if e.recordedAt.isZero then now else e.recordedAt
    if db.rows.any (·.id = id) then
      .error s!"create entry {e.testId}: constraint failed: UNIQUE constraint failed: test_reports.id (1555)"
    else
      let row : ReportRow :=
        { id := id, testId := e.testId, ticket := e.ticket, status := e.status,
          artifact := e.artifact, target := e.target, build := e.build,
          started := (if e.startedAt.isZero then "" else storedTime e.startedAt),
          durationMs := e.duration.tdiv 1000000, recorded := storedTime recordedAt }
      .ok { rows := db.rows ++ [row] }

/-- Whether one row is listed before another. -/
def rowBefore (a b : ReportRow) : Bool := a.recorded < b.recorded || (a.recorded = b.recorded && a.id < b.id)

/-- The reports of a build, read back from their rows. -/
def listByBuild (build : String) (db : ReportDb) : List ReportEntry :=
  let rows := (db.rows.filter (·.build = build)).mergeSort fun a b => !rowBefore b a
  rows.map fun r =>
    { id := r.id, testId := r.testId, ticket := r.ticket, status := r.status,
      artifact := r.artifact, target := r.target, build := r.build,
      startedAt := (if r.started = "" then Instant.zero else (readTime r.started).getD Instant.zero),
      duration := r.durationMs * 1000000,
      recordedAt := (readTime r.recorded).getD Instant.zero }

end ReportDb

end TestDispatch
