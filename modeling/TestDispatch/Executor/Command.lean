import TestDispatch.Executor.Workspace
import TestDispatch.Shell.Run
import TestDispatch.TestResult
/-!
# The command executor

The executor runs the tests of a ticket on a target by starting a configured command once per
test. The command's arguments may name the placeholders `{test}`, `{target}`, `{build}`,
`{build_type}`, `{ticket}` and `{test_plan}`, which are replaced before the command starts.

Each test gets a log file, `<work>/<build>/<ticket>/<test>.log` with each name made safe as one
path part (`/`, `\`, `:`, `*`, `?`, `"`, `<`, `>`, `|` and blanks become `_`, the empty name
`_`; the build defaults to `000`). The log takes everything the command writes, and is the
result's artifact. A command that exits with 0 passes; one that exits otherwise, or is killed
by a signal, fails; one that cannot be started is an error, and the reason is added to its log
(`testfleet: exec: ...`). A log that cannot be created makes the test an error without running
it.

Tests of a sequential request run one after the other, in order. Tests of a parallel request
run at most `maxParallel` at a time: each starts, in order, as soon as one of the slots is free.

A deadline ends the run: a test not started by then is not run, and one still running then is
killed; neither gives a result. The run answers the results of the tests that finished, in
request order, with the error `context deadline exceeded`. Time passes only while commands
sleep.
-/

namespace TestDispatch.Executor

open TestDispatch.Shell

/-- The tests of a ticket to run on one target. -/
structure RunRequest where
  ticket : String := ""
  testIds : List String := []
  target : String := ""
  build : String := ""
  buildType : String := ""
  testPlan : String := ""
  parallel : Bool := false
  deriving DecidableEq, Repr, Inhabited

/-- The build of a work item that names none. -/
def defaultBuild : String := "000"

/-- A build, or the default build for none. -/
def buildOrDefault (build : String) : String := if build = "" then defaultBuild else build

/-- A name made safe as one path part. -/
def safeName (s : String) : String :=
  if s = "" then "_" else s.map fun c => if "/\\:*?\"<>| ".toList.contains c then '_' else c

/-- The placeholders of a command and what they stand for in a request, for a test. -/
def placeholders (req : RunRequest) (testId : String) : List (String × String) :=
  [("\x7btest\x7d", testId), ("\x7btarget\x7d", req.target), ("\x7bbuild\x7d", buildOrDefault req.build),
   ("\x7bbuild_type\x7d", req.buildType), ("\x7bticket\x7d", req.ticket),
   ("\x7btest_plan\x7d", req.testPlan)]

/-- Replaces the placeholders in a text, left to right without overlaps; at one place the
first placeholder in the list that matches wins. -/
def replacePlaceholders (pairs : List (String × String)) : Nat → List Char → List Char
  | 0, cs => cs
  | _ + 1, [] => []
  | fuel + 1, c :: rest =>
    match pairs.find? (fun (p, _) => p.toList <+: (c :: rest)) with
    | some (p, r) => r.toList ++ replacePlaceholders pairs fuel ((c :: rest).drop p.length)
    | none => c :: replacePlaceholders pairs fuel rest

/-- The arguments of a command for a test of a request. -/
def expand (command : List String) (req : RunRequest) (testId : String) : List String :=
  command.map fun arg =>
    String.ofList (replacePlaceholders (placeholders req testId) (arg.length + 1) arg.toList)

/-- Why a run ended early. -/
inductive RunError where
  /-- The deadline passed. -/
  | deadline
  /-- The run directory of the ticket could not be made. -/
  | runDir (ticket why : String)
  deriving DecidableEq, Repr, Inhabited

/-- The words of a run error. -/
def RunError.message : RunError → String
  | .deadline => "context deadline exceeded"
  | .runDir ticket why => s!"ticket {ticket}: create run dir: {why}"

/-- An executor that runs a command per test. -/
structure CommandExecutor where
  command : List String
  workDir : String := "work"
  maxParallel : Nat := 4
  deriving DecidableEq, Repr, Inhabited

/-- An executor for a command: the command must not be empty, no work directory means
`testfleet` in the system's directory for temporary files `tempDir`, and a parallel limit of zero
or less means four. -/
def CommandExecutor.create (command : List String) (workDir tempDir : String) (maxParallel : Int) :
    Except String CommandExecutor :=
  if command.isEmpty then .error "executor command is empty"
  else .ok { command, workDir := if workDir = "" then joinPath [tempDir, "testfleet"] else workDir,
             maxParallel := if maxParallel ≤ 0 then 4 else maxParallel.toNat }

/-- One test run: its result, the tree once the log was created and once the run wrote to it,
and how long the command ran. -/
structure TestRun where
  result : TestResult
  created : Workspace
  finished : Workspace
  duration : Nat
  deriving Repr, Inhabited

namespace CommandExecutor

/-- Runs one test, started at `startedAt`, with its log in `runDir`. -/
def runOne (e : CommandExecutor) (startedAt : Instant) (req : RunRequest) (testId runDir : String)
    (ws : Workspace) : TestRun :=
  let artifact := joinPath [runDir, safeName testId ++ ".log"]
  let res : TestResult :=
    { testId := testId, ticket := req.ticket, target := req.target,
      build := buildOrDefault req.build, startedAt := startedAt.utc, artifact := artifact }
  match ws.create artifact with
  | .error _ =>
    let result := { res with status := "ERROR" }
    { result, created := ws, finished := ws, duration := 0 }
  | .ok ws =>
    let args := expand e.command req testId
    match start (args.headD "") args.tail { ws, cwd := runDir, log := artifact } with
    | .error why =>
      { result := { res with status := "ERROR" }, created := ws,
        finished := ws.append artifact (octets ("testfleet: " ++ why ++ "\n")), duration := 0 }
    | .ok run =>
      let status := if run.ending = .exited 0 then "PASSED" else "FAILED"
      { result := { res with status, duration := run.slept }, created := ws,
        finished := run.ws, duration := run.slept }

/-- What a run gave: the results of the tests that finished, in request order, the error that
ended it early, the tree, and the time it took. -/
structure RunOutcome where
  results : List TestResult := []
  error : Option RunError := none
  workspace : Workspace
  elapsed : Nat := 0
  deriving Repr, Inhabited

/-- Whether a time is at or past the deadline. -/
def expired (deadline : Option Nat) (t : Nat) : Bool :=
  match deadline with
  | some d => t ≥ d
  | none => false

/-- Runs tests one after the other from time `t`. -/
def sequential (e : CommandExecutor) (now : Instant) (deadline : Option Nat) (req : RunRequest)
    (runDir : String) : List String → Nat → Workspace → List TestResult → RunOutcome
  | [], t, ws, acc => { results := acc.reverse, workspace := ws, elapsed := t }
  | id :: rest, t, ws, acc =>
    if expired deadline t then
      { results := acc.reverse, error := some .deadline, workspace := ws, elapsed := t }
    else
      let r := e.runOne (now.addNanos t) req id runDir ws
      if expired deadline (t + r.duration) then
        { results := acc.reverse, error := some .deadline, workspace := r.created,
          elapsed := deadline.getD t }
      else sequential e now deadline req runDir rest (t + r.duration) r.finished (r.result :: acc)

/-- The earliest of the slots' free times, and the slots without it. -/
def takeSlot (slots : List Nat) : Nat × List Nat :=
  let least := slots.foldl min (slots.headD 0)
  (least, slots.erase least)

/-- Runs tests in slots: each test starts, in order, when a slot is free and not before the
test before it started; the slots hold the times they are free. Answers the finished tests by
their place, whether one was stopped by the deadline, the tree and the last time a slot was
busy. -/
def inSlots (e : CommandExecutor) (now : Instant) (deadline : Option Nat) (req : RunRequest)
    (runDir : String) : List (Nat × String) → List Nat → Nat → Workspace →
    List (Nat × TestResult) × Bool × Workspace × Nat
  | [], slots, _, ws => ([], false, ws, slots.foldl max 0)
  | (i, id) :: rest, slots, launched, ws =>
    let (free, others) := takeSlot slots
    let t := max free launched
    if expired deadline t then
      let (done, _, ws, last) := inSlots e now deadline req runDir rest (t :: others) t ws
      (done, true, ws, last)
    else
      let r := e.runOne (now.addNanos t) req id runDir ws
      let stop := t + r.duration
      if expired deadline stop then
        let d := deadline.getD stop
        let (done, _, ws, last) := inSlots e now deadline req runDir rest (d :: others) t r.created
        (done, true, ws, last)
      else
        let (done, stopped, ws, last) := inSlots e now deadline req runDir rest (stop :: others) t r.finished
        ((i, r.result) :: done, stopped, ws, last)

/-- Runs a request at time `now`, with the deadline (if any) that many nanoseconds later. -/
def run (e : CommandExecutor) (now : Instant) (deadline : Option Nat) (req : RunRequest)
    (ws : Workspace) : RunOutcome :=
  let runDir := joinPath [e.workDir, safeName (buildOrDefault req.build), safeName req.ticket]
  match ws.mkdirAll runDir with
  | .error why => { error := some (.runDir req.ticket why), workspace := ws }
  | .ok ws =>
    if req.parallel then
      let limit := max e.maxParallel 1
      let (done, stopped, ws, last) :=
        e.inSlots now deadline req runDir ((List.range req.testIds.length).zip req.testIds)
          (List.replicate limit 0) 0 ws
      let done := done.mergeSort fun a b => a.1 ≤ b.1
      { results := done.map Prod.snd, error := if stopped then some .deadline else none,
        workspace := ws, elapsed := last }
    else e.sequential now deadline req runDir req.testIds 0 ws []

end CommandExecutor

end TestDispatch.Executor
