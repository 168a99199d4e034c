import TestDispatch.Reporting.Recorder
/-!
# What the recorder does with a result

`Recorder.record` checks a result, tells the tracker of its status and writes its report. Its
behaviour, for every result and every recorder:

* `record_ok_iff`: recording succeeds exactly when the result has a test id and a valid status,
  the tracker (if there is one) takes the status update of a result with a ticket, and the
  report database (if there is one) takes the report;
* `record_invalid`: a result without a test id or with an invalid status changes nothing;
* `record_tracker`: the tracker is sent the update `(ticket, test, status, artifact)` once when
  the result passes the checks and has a ticket, and nothing otherwise;
* `record_reports`: the database is given the report of the result once when the result passes
  the checks and the tracker took its update, and nothing otherwise.
-/

namespace TestDispatch.Reporting

/-- A success passes through `Except.mapError` unchanged. -/
@[simp] theorem mapError_ok {ε ε' α : Type} (f : ε → ε') (a : α) :
    (Except.ok a : Except ε α).mapError f = .ok a := rfl

/-- An error passes through `Except.mapError` with its words mapped. -/
@[simp] theorem mapError_error {ε ε' α : Type} (f : ε → ε') (e : ε) :
    (Except.error e : Except ε α).mapError f = .error (f e) := rfl

/-- The status update a result makes: its ticket, test, status and artifact. -/
def statusCall (r : TestResult) : StatusCall := ⟨r.ticket, r.testId, r.status, r.artifact⟩

namespace Recorder

/-- Whether the recorder's tracker, if it has one, takes the status update of a result: a result
without a ticket makes none, and the tracker refuses the tickets it has a refusal for. -/
def trackerAccepts (rec : Recorder) (r : TestResult) : Bool :=
  match rec.tracker with
  | some t => r.ticket = "" || (t.refusals.find? (·.1 = r.ticket)).isNone
  | none => true

/-- Whether the recorder's report database, if it has one, takes the report of a result. -/
def dbAccepts (now : Instant) (rec : Recorder) (r : TestResult) : Bool :=
  match rec.reports with
  | some db => (db.create now s!"report-{db.rows.length + 1}" r.toEntry).toBool
  | none => true

variable (now : Instant) (r : TestResult) (rec : Recorder)

theorem record_invalid (h : r.testId = "" ∨ r.statusValid = false) :
    (rec.record now r).2 = rec := by
  unfold record
  split
  · rfl
  · rcases h with h | h
    · contradiction
    · simp [h]

theorem record_ok_iff :
    (rec.record now r).1 = .ok () ↔
      r.testId ≠ "" ∧ r.statusValid ∧ rec.trackerAccepts r ∧ rec.dbAccepts now r := by
  unfold record trackerAccepts dbAccepts
  by_cases hid : r.testId = ""
  · simp [hid]
  by_cases hst : r.statusValid
  · rcases rec with ⟨_ | t, _ | db⟩
    · simp [hid, hst]
    · simp only [hid, hst]
      simp
      split <;> simp_all [Except.toBool]
    · by_cases ht : r.ticket = ""
      · simp [hid, hst, ht]
      · cases hf : t.refusals.find? (·.1 = r.ticket) <;>
          simp [hid, hst, ht, hf, TrackerLog.update]
    · by_cases ht : r.ticket = ""
      · simp [hid, hst, ht]
        split <;> simp_all [Except.toBool]
      · cases hf : t.refusals.find? (·.1 = r.ticket) <;>
          simp [hid, hst, ht, hf, TrackerLog.update]
        split <;> simp_all [Except.toBool]
  · simp [hid, hst]

/-- The tracker is told of a valid result with a ticket exactly once, and of nothing else. -/
theorem record_tracker :
    (rec.record now r).2.tracker =
      if r.testId ≠ "" ∧ r.statusValid ∧ r.ticket ≠ "" then
        rec.tracker.map fun t => { t with calls := t.calls ++ [statusCall r] }
      else rec.tracker := by
  unfold record
  by_cases hid : r.testId = ""
  · simp [hid]
  by_cases hst : r.statusValid
  · rcases rec with ⟨_ | t, _ | db⟩
    · simp [hid, hst]
    · simp [hid, hst]
      split <;> simp
    · by_cases ht : r.ticket = ""
      · simp [hid, hst, ht]
      · cases hf : t.refusals.find? (·.1 = r.ticket) <;>
          simp [hid, hst, ht, hf, TrackerLog.update, statusCall]
    · by_cases ht : r.ticket = ""
      · simp [hid, hst, ht]
        split <;> simp
      · cases hf : t.refusals.find? (·.1 = r.ticket) <;>
          simp [hid, hst, ht, hf, TrackerLog.update, statusCall]
        split <;> simp
  · simp [hid, hst]

/-- The report database is given the report of a valid result exactly once, after the tracker
took its update, and nothing else. -/
theorem record_reports :
    (rec.record now r).2.reports =
      if r.testId ≠ "" ∧ r.statusValid ∧ rec.trackerAccepts r then
        rec.reports.map fun db =>
          ((db.create now s!"report-{db.rows.length + 1}" r.toEntry).toOption).getD db
      else rec.reports := by
  unfold record trackerAccepts
  by_cases hid : r.testId = ""
  · simp [hid]
  by_cases hst : r.statusValid
  · rcases rec with ⟨_ | t, _ | db⟩
    · simp [hid, hst]
    · simp [hid, hst]
      split <;> simp_all [Except.toOption]
    · by_cases ht : r.ticket = ""
      · simp [hid, hst, ht]
      · cases hf : t.refusals.find? (·.1 = r.ticket) <;>
          simp [hid, hst, ht, hf, TrackerLog.update]
    · by_cases ht : r.ticket = ""
      · simp [hid, hst, ht]
        split <;> simp_all [Except.toOption]
      · cases hf : t.refusals.find? (·.1 = r.ticket) <;>
          simp [hid, hst, ht, hf, TrackerLog.update]
        split <;> simp_all [Except.toOption]
  · simp [hid, hst]

end Recorder

end TestDispatch.Reporting
