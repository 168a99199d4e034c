import TestDispatch.Lock.Service
import TestDispatch.Lock.Redis
import TestDispatch.Lock.Http
/-!
# Lock sessions

A session drives lock services, one per holder, over one shared lock table, step by step, and
after every step reads the whole table back.

Where the table lives is a `LockSite`:

* `store`: a local store, used through `TargetStore.backend`;
* `redis`: a Redis server on another host, used through `redisBackend` with its key stem; the
  session keeps the server's data, which it can also write straight (`plantHash`, `plantSet`),
  but reaches the server only over a network that reaches nothing;
* `server`: the lock server on another host, used through `httpBackend` with no keys; the
  server keeps its table in a local store, which the session reads directly, but the session
  reaches the server only over a network that reaches nothing;
* `scripted`: an HTTP server on another host that answers from a script, reached the same way;
  it keeps no table, so the session reads it as empty.

Two steps let holders compete at once: `race` has every holder lock one target, and
`acquireRace` has every holder acquire from the same candidates. Nobody gives a target back
during a race, so running the holders one after another reaches the same counts: the winners
of a race (at most one, since one lock takes a free target), and of an acquire race as many
acquired targets, all distinct, as there were free or unregistered candidates to go round.
Which holder won depends on timing, though; so does how many attempts a waiting acquire made.
From the first race, or the first acquire that reached its deadline, a session is `raced`.
-/

namespace TestDispatch

/-- A step of a lock session. -/
inductive LockStep where
  | findAvailable (holder : String) (candidates : List String)
  | lock (holder target : String)
  | unlock (holder target : String)
  | forceUnlock (target : String)
  /-- Acquire with a deadline `timeout` milliseconds away. -/
  | acquire (holder : String) (candidates : List String) (timeout : Int)
  | ping
  | holder (holder : String)
  | create (record : TargetRecord)
  | search (query : TargetQuery)
  | update (filter : TargetQuery) (patch : TargetPatch)
  | race (target : String) (holders : List String)
  | acquireRace (candidates holders : List String) (timeout : Int)
  /-- Writes hash fields straight into the Redis server. -/
  | plantHash (key : String) (fields : List (String × String))
  /-- Adds members to a set straight in the Redis server. -/
  | plantSet (key : String) (members : List String)
  /-- Closes the site's local store, or stops the Redis server. -/
  | closeStore
  deriving Repr, Inhabited

/-- What a step answers. -/
inductive LockAnswer where
  | target (id : String)
  | held (ok : Bool)
  | done
  | holder (name : String)
  | records (rs : List TargetRecord)
  | matched (n : Nat)
  | raced (winners failures : Nat)
  | racedAcquire (acquired distinct timeouts others : Nat)
  | failed (e : LockError)
  /-- A failed create or search. -/
  | refused (e : BackendError)
  /-- A failed update, which selected nothing. -/
  | updateRefused (e : BackendError)
  deriving Repr, Inhabited

/-- Where a session's lock table lives. -/
inductive LockSite where
  | store (table : TargetStore)
  | redis (stem : String) (data : Keyspace)
  | server (table : TargetStore)
  | scripted
  deriving Repr, Inhabited

namespace LockSession

/-- How long the services of a session pause between sweeps: two milliseconds, in nanoseconds. -/
def retryInterval : Nat := 2000000

variable {σ : Type} (b : LockBackend σ)

/-- Every holder locks `target`, one after another: the winners and the failures. -/
def race (target : String) : List String → σ → (Nat × Nat) × List Attempt × σ
  | [], st => ((0, 0), [], st)
  | holder :: rest, st =>
    let (a, st) := LockService.lock b holder target st
    let ((w, f), attempts, st) := race target rest st
    match a.result with
    | .ok true => ((w + 1, f), a :: attempts, st)
    | .ok false => ((w, f), a :: attempts, st)
    | .error _ => ((w, f + 1), a :: attempts, st)

/-- Every holder acquires from `candidates`, one after another: the targets taken and the
errors met. -/
def acquireAll (candidates : List String) (timeout : Int) :
    List String → σ → (List String × List LockError) × List Attempt × σ
  | [], st => (([], []), [], st)
  | holder :: rest, st =>
    let (r, attempts, st) := LockService.acquire b holder candidates timeout retryInterval st
    let ((won, errs), more, st) := acquireAll candidates timeout rest st
    match r with
    | .ok t => ((t :: won, errs), attempts ++ more, st)
    | .error e => ((won, e :: errs), attempts ++ more, st)

/-- Runs a step of the service or of the backend's primitives; `closeStore` and the planting
steps are the site's and change nothing here. Answers the lock attempts made and whether the
answer depends on timing. -/
def perform (step : LockStep) (st : σ) : LockAnswer × List Attempt × Bool × σ :=
  match step with
  | .findAvailable _ candidates =>
    match LockService.findAvailable b candidates st with
    | (.ok t, st) => (.target t, [], false, st)
    | (.error e, st) => (.failed e, [], false, st)
  | .lock holder target =>
    let (a, st) := LockService.lock b holder target st
    match a.result with
    | .ok ok => (.held ok, [a], false, st)
    | .error e => (.failed e, [a], false, st)
  | .unlock holder target =>
    match LockService.unlock b holder target st with
    | (.ok ok, st) => (.held ok, [], false, st)
    | (.error e, st) => (.failed e, [], false, st)
  | .forceUnlock target =>
    match LockService.forceUnlock b target st with
    | (.ok ok, st) => (.held ok, [], false, st)
    | (.error e, st) => (.failed e, [], false, st)
  | .acquire holder candidates timeout =>
    match LockService.acquire b holder candidates (timeout * 1000000) retryInterval st with
    | (.ok t, attempts, st) => (.target t, attempts, false, st)
    | (.error e, attempts, st) => (.failed e, attempts, e == .deadline, st)
  | .ping =>
    match LockService.ping b st with
    | .ok () => (.done, [], false, st)
    | .error e => (.failed e, [], false, st)
  | .holder h => (.holder h, [], false, st)
  | .create r =>
    match b.create r st with
    | .ok st => (.done, [], false, st)
    | .error e => (.refused e, [], false, st)
  | .search q =>
    match b.search q st with
    | .ok rs => (.records rs, [], false, st)
    | .error e => (.refused e, [], false, st)
  | .update f p =>
    match b.update f p st with
    | .ok (n, st) => (.matched n, [], false, st)
    | .error e => (.updateRefused e, [], false, st)
  | .race target holders =>
    let ((w, f), attempts, st) := race b target holders st
    (.raced w f, attempts, true, st)
  | .acquireRace candidates holders timeout =>
    let ((won, errs), attempts, st) := acquireAll b candidates (timeout * 1000000) holders st
    let timeouts := (errs.filter (· == .deadline)).length
    (.racedAcquire won.length won.eraseDups.length timeouts (errs.length - timeouts),
      attempts, true, st)
  | .plantHash _ _ | .plantSet _ _ | .closeStore => (.done, [], false, st)

end LockSession

namespace LockSite

/-- The HTTP client of a session, of the server at `host`. -/
def client (host : String) : HttpClient := { baseUrl := "http://" ++ host }

/-- Runs a step at the site; `host` is the remote servers' host and `now` stamps writes. -/
def step (host : String) (now : Instant) (s : LockStep) : LockSite → LockAnswer × List Attempt × Bool × LockSite
  | .store t =>
    match s with
    | .closeStore => (.done, [], false, .store ((TargetStore.close.run.run t).2))
    | _ => let (a, at_, r, t) := LockSession.perform (TargetStore.backend now) s t; (a, at_, r, .store t)
  | .server t =>
    match s with
    | .closeStore => (.done, [], false, .server ((TargetStore.close.run.run t).2))
    | _ =>
      let (a, at_, r, _) := LockSession.perform (httpBackend (client host) (HttpServer.unreachable host)) s ()
      (a, at_, r, .server t)
  | .redis stem data =>
    match s with
    | .plantHash key fields =>
      (.done, [], false, .redis stem (data.plant (Keyspace.server.hset key fields)))
    | .plantSet key members =>
      (.done, [], false, .redis stem (data.plant (Keyspace.server.sadd key members)))
    | _ =>
      let (a, at_, r, data) :=
        LockSession.perform (redisBackend stem now (RedisServer.unreachable host)) s data
      (a, at_, r, .redis stem data)
  | .scripted =>
    let (a, at_, r, _) := LockSession.perform (httpBackend (client host) (HttpServer.unreachable host)) s ()
    (a, at_, r, .scripted)

/-- Every record of the table, in id order, or the reader's words when the read fails. -/
def view (host : String) (now : Instant) : LockSite → Except String (List TargetRecord)
  | .store t | .server t =>
    match ((TargetStore.search {}).run.run t).1 with
    | .ok rs => .ok rs
    | .error e => .error e.message
  | .redis stem data =>
    match (redisBackend stem now (RedisServer.unreachable host)).search {} data with
    | .ok rs => .ok rs
    | .error e => .error e.message
  | .scripted => .ok []

end LockSite

/-- What a session records for one step: the answer, the table read after it, and whether the
session is raced by then. -/
structure LockStepRecord where
  answer : LockAnswer
  view : Except String (List TargetRecord)
  raced : Bool
  deriving Repr, Inhabited

/-- The record of a whole session. -/
structure LockReport where
  steps : List LockStepRecord
  counts : AttemptCounts
  raced : Bool
  deriving Repr, Inhabited

/-- Runs the steps of a session at a site. -/
def LockSite.run (host : String) (now : Instant) (site : LockSite) (steps : List LockStep) :
    LockReport :=
  let rec go (site : LockSite) (counts : AttemptCounts) (raced : Bool) :
      List LockStep → List LockStepRecord × AttemptCounts × Bool
    | [] => ([], counts, raced)
    | s :: rest =>
      let (answer, attempts, r, site) := site.step host now s
      let counts := attempts.foldl AttemptCounts.record counts
      let racedNow := raced || r
      let (records, counts, racedAtEnd) := go site counts racedNow rest
      ({ answer, view := site.view host now, raced := racedNow } :: records, counts, racedAtEnd)
  let (steps, counts, raced) := go site {} false steps
  { steps, counts, raced }

end TestDispatch
