import TestDispatch.Yaml.Decode
import TestDispatch.Json.Value
import TestDispatch.Logging.Level
/-!
# Configuration

The configuration of every part of the fleet, with its defaults. A configuration file is a YAML
document laid over the defaults: a key that is present replaces the default, a key that is
absent or null keeps it, and a list given as null becomes empty. Durations are written as
duration texts (`30s`, `1h30m`). Three secrets may also come from the environment, where a
non-empty value wins over the file.

`Config.validate` reports the first setting that cannot work.
-/

namespace TestDispatch

open Yaml

/-- Logging: the level name and the format. -/
structure LogConfig where
  level : String := "info"
  format : String := "text"
  deriving DecidableEq, Repr, Inhabited

/-- The message broker. Durations are in nanoseconds; `none` is a list left empty. -/
structure KafkaConfig where
  brokers : Option (List String) := some ["localhost:9092"]
  topic : String := "testfleet-tickets"
  partitions : Int := 2
  replicationFactor : Int := 1
  deleteTimeout : Int := 30000000000
  pollTimeout : Int := 60000000000
  consumerGroup : String := "testfleet-workers"
  clientId : String := "testfleet"
  deriving DecidableEq, Repr, Inhabited

/-- The target lock service a worker uses. -/
structure LockConfig where
  backend : String := "http"
  url : String := "http://localhost:8090"
  readKey : String := ""
  writeKey : String := ""
  timeout : Int := 10000000000
  retryInterval : Int := 15000000000
  redisAddr : String := "localhost:6379"
  redisPassword : String := ""
  redisDb : Int := 0
  redisPrefix : String := "testfleet:target:"
  deriving DecidableEq, Repr, Inhabited

/-- The lock server. -/
structure LockServerConfig where
  addr : String := ":8090"
  dbPath : String := ""
  readKeys : Option (List String) := none
  writeKeys : Option (List String) := none
  deriving DecidableEq, Repr, Inhabited

/-- The issue tracker. -/
structure TrackerConfig where
  url : String := ""
  token : String := ""
  timeout : Int := 30000000000
  maxRetries : Int := 3
  deriving DecidableEq, Repr, Inhabited

/-- The report database. -/
structure ReportDbConfig where
  dsn : String := ""
  deriving DecidableEq, Repr, Inhabited

/-- Test classification. -/
structure ClassifierConfig where
  skipTag : String := "skip"
  parallelTag : String := "parallel"
  noiseTags : Option (List String) :=
    some ["parametrize", "usefixtures", "filterwarnings", "timeout", "flaky", "order", "xfail", "skipif"]
  internalSkipTags : Option (List String) := some ["tags_skip", "wip"]
  baseComponentTags : Option (List String) := none
  tieBreak : String := "lexical"
  deriving DecidableEq, Repr, Inhabited

/-- The result reporter. -/
structure ReporterConfig where
  addr : String := "127.0.0.1:8765"
  mode : String := "child"
  startTimeout : Int := 10000000000
  watchInterval : Int := 1000000000
  queueSize : Int := 256
  deriving DecidableEq, Repr, Inhabited

/-- How a test is run: the command template, the working directory and the parallelism. -/
structure ExecutorConfig where
  command : Option (List String) := some ["pytest", "{test}", "--target={target}", "--build={build}"]
  workDir : String := ""
  maxParallel : Int := 8
  deriving DecidableEq, Repr, Inhabited

/-- The worker's name. -/
structure WorkerConfig where
  name : String := ""
  deriving DecidableEq, Repr, Inhabited

/-- The whole configuration; every field starts at its default. -/
structure Config where
  log : LogConfig := {}
  kafka : KafkaConfig := {}
  lock : LockConfig := {}
  lockServer : LockServerConfig := {}
  tracker : TrackerConfig := {}
  reportDb : ReportDbConfig := {}
  classifier : ClassifierConfig := {}
  reporter : ReporterConfig := {}
  executor : ExecutorConfig := {}
  worker : WorkerConfig := {}
  deriving DecidableEq, Repr, Inhabited

namespace Config

/-! ## Reading a file -/

/-- Lists of texts. -/
def textsShape : Shape (Option (List String)) := Shape.list Shape.text ""

/-- The `log` section. -/
def logShape : Shape LogConfig := Shape.record "config.LogConfig" [
  Field.of "level" Shape.text (·.level) fun c v => { c with level := v },
  Field.of "format" Shape.text (·.format) fun c v => { c with format := v }]

/-- The `kafka` section. -/
def kafkaShape : Shape KafkaConfig := Shape.record "config.KafkaConfig" [
  Field.of "brokers" textsShape (·.brokers) fun c v => { c with brokers := v },
  Field.of "topic" Shape.text (·.topic) fun c v => { c with topic := v },
  Field.of "partitions" (Shape.integer "int32" 32) (·.partitions) fun c v => { c with partitions := v },
  Field.of "replication_factor" (Shape.integer "int16" 16) (·.replicationFactor)
    fun c v => { c with replicationFactor := v },
  Field.of "delete_timeout" Shape.duration (·.deleteTimeout) fun c v => { c with deleteTimeout := v },
  Field.of "poll_timeout" Shape.duration (·.pollTimeout) fun c v => { c with pollTimeout := v },
  Field.of "consumer_group" Shape.text (·.consumerGroup) fun c v => { c with consumerGroup := v },
  Field.of "client_id" Shape.text (·.clientId) fun c v => { c with clientId := v }]

/-- The `lock` section. -/
def lockShape : Shape LockConfig := Shape.record "config.LockConfig" [
  Field.of "backend" Shape.text (·.backend) fun c v => { c with backend := v },
  Field.of "url" Shape.text (·.url) fun c v => { c with url := v },
  Field.of "read_key" Shape.text (·.readKey) fun c v => { c with readKey := v },
  Field.of "write_key" Shape.text (·.writeKey) fun c v => { c with writeKey := v },
  Field.of "timeout" Shape.duration (·.timeout) fun c v => { c with timeout := v },
  Field.of "retry_interval" Shape.duration (·.retryInterval) fun c v => { c with retryInterval := v },
  Field.of "redis_addr" Shape.text (·.redisAddr) fun c v => { c with redisAddr := v },
  Field.of "redis_password" Shape.text (·.redisPassword) fun c v => { c with redisPassword := v },
  Field.of "redis_db" (Shape.integer "int" 64) (·.redisDb) fun c v => { c with redisDb := v },
  Field.of "redis_prefix" Shape.text (·.redisPrefix) fun c v => { c with redisPrefix := v }]

/-- The `lock_server` section. -/
def lockServerShape : Shape LockServerConfig := Shape.record "config.LockServerConfig" [
  Field.of "addr" Shape.text (·.addr) fun c v => { c with addr := v },
  Field.of "db_path" Shape.text (·.dbPath) fun c v => { c with dbPath := v },
  Field.of "read_keys" textsShape (·.readKeys) fun c v => { c with readKeys := v },
  Field.of "write_keys" textsShape (·.writeKeys) fun c v => { c with writeKeys := v }]

/-- The `tracker` section. -/
def trackerShape : Shape TrackerConfig := Shape.record "config.TrackerConfig" [
  Field.of "url" Shape.text (·.url) fun c v => { c with url := v },
  Field.of "token" Shape.text (·.token) fun c v => { c with token := v },
  Field.of "timeout" Shape.duration (·.timeout) fun c v => { c with timeout := v },
  Field.of "max_retries" (Shape.integer "int" 64) (·.maxRetries) fun c v => { c with maxRetries := v }]

/-- The `report_db` section. -/
def reportDbShape : Shape ReportDbConfig := Shape.record "config.ReportDBConfig" [
  Field.of "dsn" Shape.text (·.dsn) fun c v => { c with dsn := v }]

/-- The `classifier` section. -/
def classifierShape : Shape ClassifierConfig := Shape.record "config.ClassifierConfig" [
  Field.of "skip_tag" Shape.text (·.skipTag) fun c v => { c with skipTag := v },
  Field.of "parallel_tag" Shape.text (·.parallelTag) fun c v => { c with parallelTag := v },
  Field.of "noise_tags" textsShape (·.noiseTags) fun c v => { c with noiseTags := v },
  Field.of "internal_skip_tags" textsShape (·.internalSkipTags) fun c v => { c with internalSkipTags := v },
  Field.of "base_component_tags" textsShape (·.baseComponentTags)
    fun c v => { c with baseComponentTags := v },
  Field.of "tie_break" Shape.text (·.tieBreak) fun c v => { c with tieBreak := v }]

/-- The `reporter` section. -/
def reporterShape : Shape ReporterConfig := Shape.record "config.ReporterConfig" [
  Field.of "addr" Shape.text (·.addr) fun c v => { c with addr := v },
  Field.of "mode" Shape.text (·.mode) fun c v => { c with mode := v },
  Field.of "start_timeout" Shape.duration (·.startTimeout) fun c v => { c with startTimeout := v },
  Field.of "watch_interval" Shape.duration (·.watchInterval) fun c v => { c with watchInterval := v },
  Field.of "queue_size" (Shape.integer "int" 64) (·.queueSize) fun c v => { c with queueSize := v }]

/-- The `executor` section. -/
def executorShape : Shape ExecutorConfig := Shape.record "config.ExecutorConfig" [
  Field.of "command" textsShape (·.command) fun c v => { c with command := v },
  Field.of "workdir" Shape.text (·.workDir) fun c v => { c with workDir := v },
  Field.of "max_parallel" (Shape.integer "int" 64) (·.maxParallel) fun c v => { c with maxParallel := v }]

/-- The `worker` section. -/
def workerShape : Shape WorkerConfig := Shape.record "config.WorkerConfig" [
  Field.of "name" Shape.text (·.name) fun c v => { c with name := v }]

/-- The whole file. -/
def shape : Shape Config := Shape.record "config.Config" [
  Field.of "log" logShape (·.log) fun c v => { c with log := v },
  Field.of "kafka" kafkaShape (·.kafka) fun c v => { c with kafka := v },
  Field.of "lock" lockShape (·.lock) fun c v => { c with lock := v },
  Field.of "lock_server" lockServerShape (·.lockServer) fun c v => { c with lockServer := v },
  Field.of "tracker" trackerShape (·.tracker) fun c v => { c with tracker := v },
  Field.of "report_db" reportDbShape (·.reportDb) fun c v => { c with reportDb := v },
  Field.of "classifier" classifierShape (·.classifier) fun c v => { c with classifier := v },
  Field.of "reporter" reporterShape (·.reporter) fun c v => { c with reporter := v },
  Field.of "executor" executorShape (·.executor) fun c v => { c with executor := v },
  Field.of "worker" workerShape (·.worker) fun c v => { c with worker := v }]

/-- Why a configuration file could not be loaded. -/
inductive LoadError where
  /-- The file could not be read. -/
  | unreadable (path reason : String)
  /-- The file is no configuration. -/
  | unparsable (path : String) (e : YamlError)
  deriving Repr

/-- The words of a load error. -/
def LoadError.message : LoadError → String
  | .unreadable path reason => s!"read config {path}: {reason}"
  | .unparsable path e => s!"parse config {path}: {e.message}"

/-- Takes the secrets the environment sets to a non-empty value. -/
def applyEnv (env : String → String) (c : Config) : Config :=
  let pick (name current : String) : String := if env name = "" then current else env name
  { c with
    lock := { c.lock with
      readKey := pick "TESTFLEET_LOCK_READ_KEY" c.lock.readKey,
      writeKey := pick "TESTFLEET_LOCK_WRITE_KEY" c.lock.writeKey },
    tracker := { c.tracker with token := pick "TESTFLEET_TRACKER_TOKEN" c.tracker.token } }

/-- Loads the configuration: the defaults, the file at `path` over them (no file when the path
is empty; `file` is its text, `none` when it does not exist), then the environment's secrets. -/
def load (path : String) (file : Option String) (env : String → String) : Except LoadError Config :=
  if path = "" then .ok (applyEnv env {})
  else match file with
    | none => .error (.unreadable path s!"open {path}: no such file or directory")
    | some text =>
      match decodeDocument shape text {} with
      | .error e => .error (.unparsable path e)
      | .ok c => .ok (applyEnv env (c.getD {}))

/-! ## Checking -/

/-- The first setting that cannot work, if any. -/
def validate (c : Config) : Except String Unit := do
  match Logging.parseLevel c.log.level with
  | .error e => throw s!"log.level: {e}"
  | .ok _ => pure ()
  match Logging.checkFormat c.log.format with
  | .error e => throw s!"log.format: {e}"
  | .ok _ => pure ()
  if (c.kafka.brokers.getD []).isEmpty then throw "kafka.brokers: at least one broker is required"
  if c.kafka.topic = "" then throw "kafka.topic: required"
  if c.kafka.partitions ≤ 0 then throw s!"kafka.partitions: must be positive, got {c.kafka.partitions}"
  if c.kafka.replicationFactor ≤ 0 then
    throw s!"kafka.replication_factor: must be positive, got {c.kafka.replicationFactor}"
  if !(c.lock.backend = "http" || c.lock.backend = "redis") then
    throw s!"lock.backend: unknown backend {Quoted.quote c.lock.backend}"
  if !(c.classifier.tieBreak = "lexical" || c.classifier.tieBreak = "first-seen") then
    throw s!"classifier.tie_break: unknown mode {Quoted.quote c.classifier.tieBreak}"
  if !(c.reporter.mode = "child" || c.reporter.mode = "inproc") then
    throw s!"reporter.mode: unknown mode {Quoted.quote c.reporter.mode}"

/-! ## The JSON form -/

/-- A list of texts, `null` when left empty. -/
def textsJson : Option (List String) → Json.Value
  | none => .null
  | some xs => Json.Value.strs xs

/-- The configuration as JSON, each section and field under its record name. -/
def toJson (c : Config) : Json.Value :=
  .object [
    ("Log", .object [("Level", .string c.log.level), ("Format", .string c.log.format)]),
    ("Kafka", .object [("Brokers", textsJson c.kafka.brokers), ("Topic", .string c.kafka.topic),
      ("Partitions", Json.Value.int c.kafka.partitions),
      ("ReplicationFactor", Json.Value.int c.kafka.replicationFactor),
      ("DeleteTimeout", Json.Value.int c.kafka.deleteTimeout),
      ("PollTimeout", Json.Value.int c.kafka.pollTimeout),
      ("ConsumerGroup", .string c.kafka.consumerGroup), ("ClientID", .string c.kafka.clientId)]),
    ("Lock", .object [("Backend", .string c.lock.backend), ("URL", .string c.lock.url),
      ("ReadKey", .string c.lock.readKey), ("WriteKey", .string c.lock.writeKey),
      ("Timeout", Json.Value.int c.lock.timeout), ("RetryInterval", Json.Value.int c.lock.retryInterval),
      ("RedisAddr", .string c.lock.redisAddr), ("RedisPassword", .string c.lock.redisPassword),
      ("RedisDB", Json.Value.int c.lock.redisDb), ("RedisPrefix", .string c.lock.redisPrefix)]),
    ("LockServer", .object [("Addr", .string c.lockServer.addr), ("DBPath", .string c.lockServer.dbPath),
      ("ReadKeys", textsJson c.lockServer.readKeys), ("WriteKeys", textsJson c.lockServer.writeKeys)]),
    ("Tracker", .object [("URL", .string c.tracker.url), ("Token", .string c.tracker.token),
      ("Timeout", Json.Value.int c.tracker.timeout), ("MaxRetries", Json.Value.int c.tracker.maxRetries)]),
    ("ReportDB", .object [("DSN", .string c.reportDb.dsn)]),
    ("Classifier", .object [("SkipTag", .string c.classifier.skipTag),
      ("ParallelTag", .string c.classifier.parallelTag),
      ("NoiseTags", textsJson c.classifier.noiseTags),
      ("InternalSkipTags", textsJson c.classifier.internalSkipTags),
      ("BaseComponentTags", textsJson c.classifier.baseComponentTags),
      ("TieBreak", .string c.classifier.tieBreak)]),
    ("Reporter", .object [("Addr", .string c.reporter.addr), ("Mode", .string c.reporter.mode),
      ("StartTimeout", Json.Value.int c.reporter.startTimeout),
      ("WatchInterval", Json.Value.int c.reporter.watchInterval),
      ("QueueSize", Json.Value.int c.reporter.queueSize)]),
    ("Executor", .object [("Command", textsJson c.executor.command), ("WorkDir", .string c.executor.workDir),
      ("MaxParallel", Json.Value.int c.executor.maxParallel)]),
    ("Worker", .object [("Name", .string c.worker.name)])]

end Config

end TestDispatch
