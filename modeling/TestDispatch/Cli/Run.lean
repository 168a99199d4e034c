import TestDispatch.Cli.Command
import TestDispatch.Cli.Output
import TestDispatch.Config
import TestDispatch.Universe.Snapshot
import TestDispatch.Tracker.Client
import TestDispatch.Lock.Service
import TestDispatch.Network
/-!
# Running a command line

`Cli.run` answers what the program prints and the error it ends with, for a command line and
the files of the working directory. Before a command runs, its settings are loaded: the file
that `--config` names (defaults without one), then `--log-level`, `--log-format` and `--debug`
on top, and the whole is checked.

What each command does, on a network that reaches nothing:

* `plan` reads the universe, takes the tests of `--test` as one request (named after the first
  `--ticket`, else `adhoc`) or resolves the tickets at the tracker (none resolve), classifies,
  plans and prints the work items.
* `coordinate` does the same, then fails to reset the work topic: the broker cannot be dialed.
  It prints the session's summary and ends with that error.
* `worker` and `unlock` check the lock store first, which cannot be reached.
* `reporter` opens its report database and listens; `lockd` opens its store and listens. Both
  fail only on a database in a directory that does not exist or on a malformed address, and
  otherwise serve until they are stopped.
* `stop` publishes its tickets, which never reach the broker before their delivery timeout.
-/

namespace TestDispatch.Cli

open TestDispatch.Coordinator

/-- What the program finds around it: the files of its working directory, by name, and the
variables of its environment. -/
structure Surroundings where
  files : List (String × String) := []
  env : List (String × String) := []
  deriving DecidableEq, Repr, Inhabited

namespace Surroundings

/-- The parts of a path that name directories or a file: without empty and `.` parts. -/
def pathParts (path : String) : List String := (path.splitOn "/").filter fun p => p ≠ "" && p ≠ "."

/-- The contents of the file at a path, if there is one: the working directory holds plain
files only. -/
def read? (s : Surroundings) (path : String) : Option String :=
  match pathParts path with
  | [name] => if path.startsWith "/" then none else s.files.lookup name
  | _ => none

/-- Whether the directory of a path exists: the working directory, the root and `/tmp`. -/
def dirExists (path : String) : Bool :=
  let dir := pathParts path |>.dropLast
  if path.startsWith "/" then dir.isEmpty || dir = ["tmp"] else dir.isEmpty

/-- The value of an environment variable, empty when it is not set. -/
def getEnv (s : Surroundings) (name : String) : String := (s.env.lookup name).getD ""

end Surroundings

/-- Why a command failed. -/
inductive CliError where
  /-- The command line names nothing to run. -/
  | command (e : CommandError)
  /-- The configuration file could not be loaded. -/
  | config (e : Config.LoadError)
  /-- A setting, a flag or a request that cannot work, in words. -/
  | invalid (message : String)
  /-- A coordinating session failed. -/
  | session (e : SessionError)
  /-- The lock store at the endpoint failed. -/
  | lock (endpoint : String) (e : LockError)
  /-- An operation failed, in its words. -/
  | failed (message : String)
  deriving Repr

/-- The words of a command's failure. -/
def CliError.message : CliError → String
  | .command e => e.message
  | .config e => e.message
  | .invalid m => m
  | .session e => e.message
  | .lock endpoint e => "lock backend " ++ endpoint ++ ": " ++ e.message
  | .failed m => m

/-- What a command line did: what it printed, the error it ended with, and the records it
added to the work topic. -/
structure Outcome where
  stdout : String := ""
  error : Option CliError := none
  published : List String := []
  deriving Repr

/-- An outcome that is only an error. -/
def Outcome.failure (e : CliError) : Outcome := { error := some e }

namespace Parsed

/-- A text flag's value. -/
def text (p : Parsed) (name : String) (default : String := "") : String :=
  match p.get? name with
  | some (.text s) => s
  | _ => default

/-- A list flag's value. -/
def texts (p : Parsed) (name : String) : List String :=
  match p.get? name with
  | some (.texts xs) => xs
  | _ => []

/-- A switch's value. -/
def switch (p : Parsed) (name : String) : Bool := p.get? name = some (.switch true)

/-- An integer flag's value. -/
def int (p : Parsed) (name : String) (default : Int) : Int :=
  match p.get? name with
  | some (.int n) => n
  | _ => default

end Parsed

/-! ## Settings -/

/-- The settings a command runs with: the configuration, with the logging flags on top,
checked. -/
def settings (s : Surroundings) (p : Parsed) : Except CliError Config := do
  let path := p.text "config"
  let c ← (Config.load path (s.read? path) s.getEnv).mapError .config
  let c := if p.changed "log-level" then { c with log := { c.log with level := p.text "log-level" } } else c
  let c := if p.changed "log-format" then { c with log := { c.log with format := p.text "log-format" } } else c
  let c := if p.switch "debug" then { c with log := { c.log with level := "debug" } } else c
  match c.validate with
  | .error e => throw (.invalid e)
  | .ok () => pure c

/-- The classification options a configuration sets. -/
def classifierOptions (c : ClassifierConfig) : Classify.Options :=
  { skipTag := c.skipTag, parallelTag := c.parallelTag, noiseTags := c.noiseTags.getD [],
    internalSkipTags := c.internalSkipTags.getD [], baseComponentTags := c.baseComponentTags.getD [],
    tieBreak := Classify.TieBreak.ofName c.tieBreak }

/-! ## Planning -/

/-- Checks an output format. -/
def checkFormat (format : String) : Except CliError Unit :=
  if formats.contains format then .ok ()
  else .error (.invalid s!"invalid output format {Quoted.quote format} (table, json, csv)")

/-- The universe in the snapshot file at a path. -/
def loadUniverse (s : Surroundings) (path : String) : Except CliError Universe :=
  if path = "" then .error (.invalid "--universe is required")
  else match s.read? path with
    | none => .error (.failed s!"open universe {path}: open {path}: no such file or directory")
    | some text =>
      match Universe.read text with
      | .ok u => .ok u
      | .error e => .error (.failed s!"universe {path}: {e.message}")

/-- The tracker client of a configuration. -/
def trackerClient (c : Config) : Tracker.Client :=
  Tracker.Client.create c.tracker.url (Network.HttpTarget.ofUrl c.tracker.url).host

/-- Where a session's requests come from: the tests given, as one request named after the
first ticket or `adhoc`, or else the tickets, resolved at the tracker. -/
def requestSource (c : Config) (tickets tests : List String) : Except CliError Source :=
  if !tests.isEmpty then .ok (.requests [⟨tickets.headD "adhoc", tests⟩])
  else if tickets.isEmpty then .error (.invalid "at least one --ticket or --test is required")
  else if c.tracker.url = "" then .error (.invalid "tracker.url is required to resolve --ticket")
  else .ok (.tickets tickets fun t => ((trackerClient c).resolve t).map (·.getD []))

/-- What the plan flags say about the items. -/
def planMeta (p : Parsed) : PlanMeta :=
  { targets := p.texts "target", build := p.text "build", buildType := p.text "build-type",
    testPlan := p.text "test-plan" }

/-- The `plan` command. -/
def planCommand (s : Surroundings) (c : Config) (p : Parsed) : Outcome :=
  let format := p.text "output" "table"
  match (do
      checkFormat format
      let u ← loadUniverse s (p.text "universe")
      let source ← requestSource c (p.texts "ticket") (p.texts "test")
      pure (u, source) : Except CliError (Universe × Source)) with
  | .error e => .failure e
  | .ok (u, source) =>
    let plan := Plan.build source.requestList u ((classifierOptions c.classifier).classify u.records)
    { stdout := writeItems format (plan.workItems (planMeta p)) }

/-! ## Coordinating -/

/-- Why the work topic cannot be reset: its first broker cannot be dialed. -/
def resetFailure (c : Config) : ResetFailure :=
  let broker := (c.kafka.brokers.getD []).headD ""
  .unavailable c.kafka.topic ("unable to dial: " ++ Network.dialAddress broker "9092")

/-- The `coordinate` command. -/
def coordinateCommand (s : Surroundings) (c : Config) (p : Parsed) : Outcome :=
  let format := p.text "output" "table"
  match (do
      checkFormat format
      if (p.texts "target").isEmpty then throw (CliError.invalid "at least one --target is required")
      let u ← loadUniverse s (p.text "universe")
      let source ← requestSource c (p.texts "ticket") (p.texts "test")
      pure (u, source) : Except CliError (Universe × Source)) with
  | .error e => .failure e
  | .ok (u, source) =>
    let session : Session :=
      { tests := some u, classifier := some (classifierOptions c.classifier), source,
        planMeta := planMeta p, topic := some { resetFailure := some (resetFailure c) } }
    let (summary, error, published) := session.run false
    { stdout := writeSummary format summary, error := error.map .session, published }

/-! ## The lock store and the servers -/

/-- Why the lock store of a configuration cannot be used: its backend needs a URL, or it does
not answer its health check. -/
def lockFailure (c : Config) : CliError :=
  if c.lock.backend = "redis" then
    .lock ("redis://" ++ c.lock.redisAddr) (.unreachable (Network.dialAddress c.lock.redisAddr "6379"))
  else if c.lock.url = "" then .invalid "lock backend http: url is required"
  else
    let base := String.ofList (c.lock.url.toList.reverse.dropWhile (· = '/')).reverse
    .lock c.lock.url (.unreachable ("health: " ++ Network.HttpTarget.failure "Get" (base ++ "/api/v1/health")))

/-- Whether a database name is a PostgreSQL connection URL. -/
def isPostgres (dsn : String) : Bool := dsn.startsWith "postgres://" || dsn.startsWith "postgresql://"

/-- The failure of opening a database file whose directory does not exist. -/
def cannotOpen (pragma : String) : String :=
  "pragma " ++ pragma ++ ": unable to open database file: out of memory (14)"

/-- The `reporter` command. -/
def reporterCommand (c : Config) (p : Parsed) : Outcome :=
  let addr := match p.text "addr" with
    | "" => c.reporter.addr
    | a => a
  let dsn := c.reportDb.dsn
  if dsn ≠ "" && !isPostgres dsn && !Surroundings.dirExists dsn then .failure (.failed (cannotOpen "busy_timeout"))
  else match Network.listenError addr with
    | some e => .failure (.failed ("listen " ++ addr ++ ": " ++ e))
    | none => {}

/-- The `lockd` command. -/
def lockdCommand (c : Config) (p : Parsed) : Outcome :=
  let addr := match p.text "addr" with
    | "" => c.lockServer.addr
    | a => a
  let db := match p.text "db" with
    | "" => c.lockServer.dbPath
    | d => d
  if db ≠ "" && !Surroundings.dirExists db then .failure (.failed ("open database: " ++ cannotOpen "wal"))
  else match Network.listenError addr with
    | some e => .failure (.failed ("lock store: " ++ e))
    | none => {}

/-- The `stop` command. -/
def stopCommand (p : Parsed) : Outcome :=
  if p.int "count" 1 ≤ 0 then .failure (.invalid "--count must be positive")
  else .failure (.failed "publish stop: records have timed out before they were able to be produced")

/-! ## The command line -/

/-- Whether a text can stand between backquotes: no control character but the tab, no
backquote, no byte order mark. -/
def canBackquote (s : String) : Bool :=
  s.all fun c => (c.toNat ≥ 0x20 || c = '\t') && c.toNat ≠ 0x60 && c.toNat ≠ 0x7F && c.toNat ≠ 0xFEFF

/-- Texts listed between brackets, each between backquotes where it can be, else quoted. -/
def backquotedList (xs : List String) : String :=
  let tick := String.singleton (Char.ofNat 0x60)
  "[" ++ " ".intercalate (xs.map fun s => if canBackquote s then tick ++ s ++ tick else Quoted.quote s) ++ "]"

/-- Runs an action with the settings loaded. -/
def perform (s : Surroundings) (c : Config) (a : Action) (p : Parsed) : Outcome :=
  match a with
  | .plan => planCommand s c p
  | .coordinate => coordinateCommand s c p
  | .worker | .unlock => .failure (lockFailure c)
  | .reporter => reporterCommand c p
  | .lockd => lockdCommand c p
  | .stop => stopCommand p
  | .help =>
    match Command.find p.args with
    | (c, rest) =>
      if c.path.isEmpty && !(commandWords c.known rest).isEmpty then
        { stdout := "Unknown help topic " ++ backquotedList p.args ++ "\n" ++ root.usage }
      else { stdout := c.helpText }
  | .completion _ => {}

/-- What a command line does. -/
def run (s : Surroundings) (args : List String) : Outcome :=
  match Command.invoke args with
  | .error e => .failure (.command e)
  | .ok (.help c) => { stdout := c.helpText }
  | .ok (.run _ a p) =>
    match settings s p with
    | .error e => .failure e
    | .ok c => perform s c a p

end TestDispatch.Cli
