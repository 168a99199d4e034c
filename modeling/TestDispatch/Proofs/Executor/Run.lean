import TestDispatch.Executor.Command
/-!
# What a run reports

`CommandExecutor.run` makes the run directory of a request, then runs the request's tests one
after the other (`sequential`) or in slots (`inSlots`), and answers the results of the tests that
finished, in request order, with the error that ended the run early.

A test's result says what became of its command (`Fate`): the log could not be created, the
command could not be started, or it ran and ended with an exit code or a signal. `runOne_result`
gives the whole result of one test from that; every result a run answers is such a result
(`Reported`).

Main statement, `run_results_in_request_order`: a sequential run answers the results of a prefix
of the request's tests, a parallel run those of a subsequence, both in request order; a run that
answers no error answers one result per test, in order; each result carries the request's ticket,
target and build (`000` for none) and the status of its command's fate; and the only errors are
the deadline and a run directory that could not be made, with no result then.
-/

open scoped List

namespace TestDispatch.Executor

open TestDispatch.Shell

/-- The log of a test in a run directory: its safe name with `.log`. -/
def logPath (dir testId : String) : String := joinPath [dir, safeName testId ++ ".log"]

/-- What became of a test's command. -/
inductive Fate where
  /-- Its log could not be created, so it never ran. -/
  | noLog
  /-- It could not be started. -/
  | notStarted
  /-- It ran and ended so. -/
  | ended (ending : Ending)
  deriving DecidableEq, Repr

/-- The status a result reports for a command's fate: `PASSED` for an exit with 0, `FAILED` for
any other end of a command that ran, `ERROR` for one that never ran. -/
def Fate.status : Fate → String
  | .ended (.exited 0) => "PASSED"
  | .ended _ => "FAILED"
  | _ => "ERROR"

namespace CommandExecutor

/-- The run directory of a request: `<work>/<build>/<ticket>`, each name made safe. -/
def runDirOf (e : CommandExecutor) (req : RunRequest) : String :=
  joinPath [e.workDir, safeName (buildOrDefault req.build), safeName req.ticket]

/-- What becomes of the command of a test when it is started in the work tree `ws`. -/
def fate (e : CommandExecutor) (req : RunRequest) (testId dir : String) (ws : Workspace) : Fate :=
  match ws.create (logPath dir testId) with
  | .error _ => .noLog
  | .ok ws =>
    let args := expand e.command req testId
    match start (args.headD "") args.tail { ws, cwd := dir, log := logPath dir testId } with
    | .error _ => .notStarted
    | .ok run => .ended run.ending

/-- The result of one test: the test, the request's ticket and target, the build, its log, the
status of its command's fate, and how long the command ran. -/
theorem runOne_result (e : CommandExecutor) (t : Instant) (req : RunRequest)
    (testId dir : String) (ws : Workspace) :
    (e.runOne t req testId dir ws).result =
      { testId, ticket := req.ticket, target := req.target, build := buildOrDefault req.build,
        startedAt := t.utc, artifact := logPath dir testId,
        status := (e.fate req testId dir ws).status,
        duration := (e.runOne t req testId dir ws).duration } := by
  unfold runOne fate logPath
  -- the log first, then the start, then how the command ended
  rcases hc : ws.create (joinPath [dir, safeName testId ++ ".log"]) with why | ws'
  · simp only [hc, Fate.status]
    rfl
  rcases hs : start ((expand e.command req testId).headD "") (expand e.command req testId).tail
      { ws := ws', cwd := dir, log := joinPath [dir, safeName testId ++ ".log"] } with why | run
  · simp only [hc, hs, Fate.status]
    rfl
  simp only [hc, hs]
  match run.ending with
  | .exited 0 => simp [Fate.status]
  | .exited (_ + 1) => simp [Fate.status]
  | .signalled _ => simp [Fate.status]

theorem runOne_testId (e : CommandExecutor) (t : Instant) (req : RunRequest)
    (testId dir : String) (ws : Workspace) :
    (e.runOne t req testId dir ws).result.testId = testId := by
  rw [runOne_result]

/-- A result that running its test in some work tree, at some time, gave. -/
def Reported (e : CommandExecutor) (req : RunRequest) (dir : String) (r : TestResult) : Prop :=
  ∃ t ws, r = (e.runOne t req r.testId dir ws).result

theorem reported_runOne (e : CommandExecutor) (t : Instant) (req : RunRequest)
    (testId dir : String) (ws : Workspace) :
    Reported e req dir (e.runOne t req testId dir ws).result := by
  refine ⟨t, ws, ?_⟩
  rw [runOne_testId]

/-- What a reported result says: the request's ticket and target, the build, and the status of
its command's fate in some work tree. -/
theorem Reported.fields {e : CommandExecutor} {req : RunRequest} {dir : String} {r : TestResult}
    (h : Reported e req dir r) :
    r.ticket = req.ticket ∧ r.target = req.target ∧ r.build = buildOrDefault req.build ∧
      ∃ ws, r.status = (e.fate req r.testId dir ws).status := by
  obtain ⟨t, ws, hr⟩ := h
  rw [runOne_result] at hr
  refine ⟨?_, ?_, ?_, ws, ?_⟩ <;> rw [hr]

/-- A reported result names as its log the test's log in the directory it ran in. -/
theorem Reported.artifact {e : CommandExecutor} {req : RunRequest} {dir : String} {r : TestResult}
    (h : Reported e req dir r) : r.artifact = logPath dir r.testId := by
  obtain ⟨t, ws, hr⟩ := h
  rw [hr, runOne_result]

/-! ## One test after the other -/

section Sequential

variable (e : CommandExecutor) (now : Instant) (deadline : Option Nat) (req : RunRequest)
  (dir : String)

/-- The sequential loop answers the results gathered so far and those of a prefix of the tests
left, each reported; all of them when it ends without an error. -/
theorem sequential_results (ids : List String) (t : Nat) (ws : Workspace) (acc : List TestResult) :
    ∃ done, (e.sequential now deadline req dir ids t ws acc).results = acc.reverse ++ done ∧
      done.map (·.testId) <+: ids ∧ (∀ r ∈ done, Reported e req dir r) ∧
      ((e.sequential now deadline req dir ids t ws acc).error = none →
        done.map (·.testId) = ids) := by
  induction ids generalizing t ws acc with
  | nil => exact ⟨[], by simp [sequential]⟩
  | cons id rest ih =>
    rw [sequential]
    split
    · -- the deadline passed before the test could start
      exact ⟨[], by simp⟩
    dsimp only
    split
    · -- the deadline passed while it ran
      exact ⟨[], by simp⟩
    -- the test finished: its result leads the rest
    have hrep' := reported_runOne e (now.addNanos t) req id dir ws
    have hid := runOne_testId e (now.addNanos t) req id dir ws
    generalize e.runOne (now.addNanos t) req id dir ws = r at hrep' hid ⊢
    obtain ⟨done, hres, hpre, hrep, hall⟩ := ih (t + r.duration) r.finished (r.result :: acc)
    refine ⟨r.result :: done, ?_, ?_, List.forall_mem_cons.2 ⟨hrep', hrep⟩, fun h => ?_⟩
    · simp [hres]
    · simpa [hid] using hpre
    · simp [hid, hall h]

/-- The sequential loop ends early only at the deadline. -/
theorem sequential_error (ids : List String) (t : Nat) (ws : Workspace) (acc : List TestResult) :
    (e.sequential now deadline req dir ids t ws acc).error = none ∨
      (e.sequential now deadline req dir ids t ws acc).error = some .deadline := by
  induction ids generalizing t ws acc with
  | nil => simp [sequential]
  | cons id rest ih =>
    rw [sequential]
    split
    · simp
    dsimp only
    split
    · simp
    exact ih ..

end Sequential

/-! ## Tests in slots -/

section Slots

variable (e : CommandExecutor) (now : Instant) (deadline : Option Nat) (req : RunRequest)
  (dir : String)

/-- The place and test of each result. -/
def placed (done : List (Nat × TestResult)) : List (Nat × String) :=
  done.map fun p => (p.1, p.2.testId)

/-- The slots answer the results of some of the tests, in order and each at its place, each
reported; all of them when no test was stopped. -/
theorem inSlots_results (input : List (Nat × String)) (slots : List Nat) (launched : Nat)
    (ws : Workspace) :
    placed (e.inSlots now deadline req dir input slots launched ws).1 <+ input ∧
      (∀ p ∈ (e.inSlots now deadline req dir input slots launched ws).1, Reported e req dir p.2) ∧
      ((e.inSlots now deadline req dir input slots launched ws).2.1 = false →
        placed (e.inSlots now deadline req dir input slots launched ws).1 = input) := by
  fun_induction e.inSlots now deadline req dir input slots launched ws with
  | case1 => simp [placed]
  | case2 i id rest slots launched ws free others htake t ht done fst ws' last hrec ih =>
    -- the deadline passed before the test could start: it gives no result
    rw [hrec] at ih
    exact ⟨ih.1.cons _, ih.2.1, by simp⟩
  | case3 i id rest slots launched ws free others htake t ht r stop hstop d done fst ws' last
      hrec ih =>
    -- the deadline passed while it ran: it gives no result
    rw [hrec] at ih
    exact ⟨ih.1.cons _, ih.2.1, by simp⟩
  | case4 i id rest slots launched ws free others htake t ht r stop hstop done fst ws' last
      hrec ih =>
    -- the test finished: its result comes first, at its place
    rw [hrec] at ih
    have hid : r.result.testId = id := by simp only [r, runOne_testId]
    have hrep : Reported e req dir r.result := by
      simp only [r]
      exact reported_runOne ..
    -- from here on `r` is only its result: no step may unfold the command it ran
    clear_value r
    refine ⟨?_, List.forall_mem_cons.2 ⟨hrep, ih.2.1⟩, fun h => ?_⟩
    · simpa [placed, hid] using ih.1
    · simpa [placed, hid] using ih.2.2 h

end Slots

/-! ## A whole run -/

/-- The places of the tests of a request, in order. -/
theorem placed_sorted {input : List (Nat × String)} {done : List (Nat × TestResult)}
    (hin : input.Pairwise (fun a b => a.1 < b.1)) (h : placed done <+ input) :
    done.Pairwise (fun a b => a.1 ≤ b.1) := by
  have hp : (placed done).Pairwise (fun a b => a.1 < b.1) := hin.sublist h
  exact (List.pairwise_map.1 hp).imp Nat.le_of_lt

/-- The tests of a request with their places, in order. -/
theorem places_sorted (ids : List String) :
    ((List.range ids.length).zip ids).Pairwise (fun a b => a.1 < b.1) := by
  have hfst : ((List.range ids.length).zip ids).map Prod.fst = List.range ids.length :=
    List.map_fst_zip (by simp)
  have h : (List.range ids.length).Pairwise (· < ·) := List.pairwise_lt_range
  rw [← hfst, List.pairwise_map] at h
  exact h

theorem places_tests (ids : List String) : ((List.range ids.length).zip ids).map Prod.snd = ids :=
  List.map_snd_zip (by simp)

section Run

variable (e : CommandExecutor) (now : Instant) (deadline : Option Nat) (req : RunRequest)
  (ws : Workspace)

/-- A run directory that cannot be made ends the run with no result. -/
theorem run_of_runDir_error {why : String} (h : ws.mkdirAll (e.runDirOf req) = .error why) :
    e.run now deadline req ws = { error := some (.runDir req.ticket why), workspace := ws } := by
  simp only [runDirOf] at h
  simp only [run, h]

/-- A sequential request runs its tests one after the other in the run directory. -/
theorem run_of_sequential {ws' : Workspace} (h : ws.mkdirAll (e.runDirOf req) = .ok ws')
    (hp : req.parallel = false) :
    e.run now deadline req ws =
      e.sequential now deadline req (e.runDirOf req) req.testIds 0 ws' [] := by
  simp only [runDirOf] at h
  simp only [run, h, hp]
  rfl

/-- A parallel request runs its tests in slots, and answers their results by place. -/
theorem run_of_parallel {ws' : Workspace} (h : ws.mkdirAll (e.runDirOf req) = .ok ws')
    (hp : req.parallel = true) :
    let slots := e.inSlots now deadline req (e.runDirOf req)
      ((List.range req.testIds.length).zip req.testIds) (List.replicate (max e.maxParallel 1) 0) 0 ws'
    (e.run now deadline req ws).results = (slots.1.mergeSort fun a b => a.1 ≤ b.1).map Prod.snd ∧
      (e.run now deadline req ws).error = if slots.2.1 then some .deadline else none := by
  simp only [runDirOf] at h
  simp only [run, h, hp]
  constructor <;> rfl

/-- Every result a run answers was reported by its test, run in the run directory. -/
theorem run_results_reported : ∀ r ∈ (e.run now deadline req ws).results,
    Reported e req (e.runDirOf req) r := by
  intro r hr
  rcases hdir : ws.mkdirAll (e.runDirOf req) with why | ws'
  · rw [run_of_runDir_error e now deadline req ws hdir] at hr
    cases hr
  cases hp : req.parallel
  · rw [run_of_sequential e now deadline req ws hdir hp] at hr
    obtain ⟨done, hres, -, hrep, -⟩ :=
      sequential_results e now deadline req (e.runDirOf req) req.testIds 0 ws' []
    rw [hres, List.reverse_nil, List.nil_append] at hr
    exact hrep r hr
  · rw [(run_of_parallel e now deadline req ws hdir hp).1] at hr
    obtain ⟨p, hp, rfl⟩ := List.mem_map.1 hr
    exact (inSlots_results e now deadline req (e.runDirOf req) _ _ 0 ws').2.1 p
      (List.mem_mergeSort.1 hp)

end Run

/-- Whatever its tests do and whenever the deadline falls, a run answers the results of the tests
that finished in request order: those of a prefix of the tests when they run one after the
other, of a subsequence when they run in slots, and of every test, in order, when it answers no
error. Each result carries the request's ticket and target, the build (`000` for none) and the
status of what became of its command: `PASSED` for an exit with 0, `FAILED` for any other end,
`ERROR` when it never ran. The run ends early only at the deadline, or with no result when its run
directory cannot be made. -/
theorem run_results_in_request_order (e : CommandExecutor) (now : Instant)
    (deadline : Option Nat) (req : RunRequest) (ws : Workspace) :
    (if req.parallel then (e.run now deadline req ws).results.map (·.testId) <+ req.testIds
      else (e.run now deadline req ws).results.map (·.testId) <+: req.testIds) ∧
    ((e.run now deadline req ws).error = none →
      (e.run now deadline req ws).results.map (·.testId) = req.testIds) ∧
    (∀ r ∈ (e.run now deadline req ws).results,
      r.ticket = req.ticket ∧ r.target = req.target ∧ r.build = buildOrDefault req.build ∧
        ∃ ws', r.status = (e.fate req r.testId (e.runDirOf req) ws').status) ∧
    (∀ err, (e.run now deadline req ws).error = some err →
      err = .deadline ∨ ∃ why, err = .runDir req.ticket why ∧
        ws.mkdirAll (e.runDirOf req) = .error why ∧ (e.run now deadline req ws).results = []) := by
  have hrep := run_results_reported e now deadline req ws
  rcases hdir : ws.mkdirAll (e.runDirOf req) with why | ws'
  · -- no run directory: no result, and the error says why
    rw [run_of_runDir_error e now deadline req ws hdir]
    refine ⟨by split <;> simp, by simp, by simp, fun err herr => .inr ⟨why, ?_, rfl, rfl⟩⟩
    exact (Option.some.inj herr).symm
  cases hp : req.parallel
  · -- one test after the other
    rw [run_of_sequential e now deadline req ws hdir hp] at hrep ⊢
    obtain ⟨done, hres, hpre, -, hall⟩ :=
      sequential_results e now deadline req (e.runDirOf req) req.testIds 0 ws' []
    simp only [List.reverse_nil, List.nil_append] at hres
    rw [hres] at hrep ⊢
    refine ⟨by simpa using hpre, hall, fun r hr => (hrep r hr).fields, fun err herr => .inl ?_⟩
    rcases sequential_error e now deadline req (e.runDirOf req) req.testIds 0 ws' [] with h | h
    · rw [h] at herr; cases herr
    · rw [h] at herr; exact (Option.some.inj herr).symm
  · -- in slots: the results are already in place order, and sorting keeps them
    obtain ⟨hres, herror⟩ := run_of_parallel e now deadline req ws hdir hp
    rw [hres] at hrep
    rw [hres, herror]
    obtain ⟨hsub, -, hall⟩ := inSlots_results e now deadline req (e.runDirOf req)
      ((List.range req.testIds.length).zip req.testIds) (List.replicate (max e.maxParallel 1) 0) 0 ws'
    rw [List.mergeSort_of_pairwise (by simpa using placed_sorted (places_sorted req.testIds) hsub)]
      at hrep ⊢
    -- the tests of the results, read off their places
    have htests : ∀ done : List (Nat × TestResult),
        (done.map Prod.snd).map (·.testId) = (placed done).map Prod.snd := by
      intro done; simp [placed]
    refine ⟨?_, fun h => ?_, fun r hr => (hrep r hr).fields, fun err herr => .inl ?_⟩
    · simpa [htests, places_tests] using hsub.map Prod.snd
    · rw [htests, hall (by simpa using h), places_tests]
    · split at herr
      · exact (Option.some.inj herr).symm
      · cases herr

end CommandExecutor

end TestDispatch.Executor
