import TestDispatch.TestResult
import TestDispatch.Text.Quoted
/-!
# The result recorder

The recorder takes a finished test and reports it twice: to the issue tracker, as the status of
the test in its execution ticket, and to the report database, as a new report. Either may be
missing, and is then skipped. A result is refused before either is told when it has no test id
(`test_id is required`) or an outcome other than the four valid ones (`test T: invalid status
"passed"`). A result without a ticket is not sent to the tracker. A tracker that refuses the
update stops the recording before the report is written.
-/

namespace TestDispatch.Reporting

/-- A status update sent to the tracker. -/
structure StatusCall where
  ticket : String
  testId : String
  status : String
  artifact : String
  deriving DecidableEq, Repr, Inhabited

/-- A tracker kept in memory: it notes every status update it is sent, and refuses the updates
of the tickets it has a refusal for, with the refusal's words. -/
structure TrackerLog where
  refusals : List (String × String) := []
  calls : List StatusCall := []
  deriving DecidableEq, Repr, Inhabited

/-- Sends a status update to an in-memory tracker. -/
def TrackerLog.update (t : TrackerLog) (c : StatusCall) : Except String Unit × TrackerLog :=
  let t := { t with calls := t.calls ++ [c] }
  match t.refusals.find? (·.1 = c.ticket) with
  | some (_, why) => (.error why, t)
  | none => (.ok (), t)

/-- A recorder: the tracker and the report database it reports to, when present. -/
structure Recorder where
  tracker : Option TrackerLog := none
  reports : Option ReportDb := none
  deriving DecidableEq, Repr, Inhabited

namespace Recorder

/-- Records a finished test at time `now`. -/
def record (now : Instant) (r : TestResult) (rec : Recorder) : Except String Unit × Recorder :=
  if r.testId = "" then (.error "test_id is required", rec)
  else if !r.statusValid then (.error s!"test {r.testId}: invalid status {Quoted.quote r.status}", rec)
  else
    let told : Except String Unit × Recorder :=
      match rec.tracker with
      | some t =>
        if r.ticket = "" then (.ok (), rec)
        else
          let (answer, t) := t.update ⟨r.ticket, r.testId, r.status, r.artifact⟩
          (answer.mapError fun e => s!"update tracker for {r.testId}: {e}", { rec with tracker := some t })
      | none => (.ok (), rec)
    match told with
    | (.error e, rec) => (.error e, rec)
    | (.ok (), rec) =>
      match rec.reports with
      | none => (.ok (), rec)
      | some db =>
        let freshId := s!"report-{db.rows.length + 1}"
        match db.create now freshId r.toEntry with
        | .ok db => (.ok (), { rec with reports := some db })
        | .error e => (.error s!"write report for {r.testId}: {e}", rec)

end Recorder

end TestDispatch.Reporting
