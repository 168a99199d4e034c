import TestDispatch.Lock.Backend
/-!
# The lock service

A worker holds a target while it runs tests against it. The service, acting for one holder,
takes and gives back targets through a backend's primitives:

* `lock` takes a free target with one conditional update. When nothing was free it looks the
  target up: a target with a record is busy; a target without one is registered, already held.
  Each attempt is counted by its outcome (`Attempt`).
* `unlock` gives back a target this holder holds; `forceUnlock` frees it whoever holds it.
* `findAvailable` walks the candidates in order and answers the first free one, registering a
  candidate that has no record yet; candidates the backend fails on are passed over.
* `acquire` finds and locks a candidate, dropping candidates another holder took in between.
  Until the deadline it sweeps again after each pause (`retries`, `sweeps`).
-/

namespace TestDispatch

/-- Why the lock service failed. -/
inductive LockError where
  /-- No candidate was free. -/
  | noTarget
  /-- An acquire was given no candidates. -/
  | noCandidates
  /-- The health check failed; its reason in words. -/
  | unreachable (reason : String)
  /-- The deadline passed before a target was taken. -/
  | deadline
  /-- A backend primitive failed during the operation named by `context`. -/
  | backend (context : String) (e : BackendError)
  deriving DecidableEq, Repr, Inhabited

/-- The words of a lock-service error. -/
def LockError.message : LockError → String
  | .noTarget => "no target available"
  | .noCandidates => "acquire: no target available"
  | .unreachable reason => s!"lock store unreachable: {reason}"
  | .deadline => "context deadline exceeded"
  | .backend context e => s!"{context}: {e.message}"

/-- The outcome of one attempt to lock a target. -/
inductive Attempt where
  /-- The target was free and is now held. -/
  | acquired
  /-- Someone else holds the target. -/
  | busy
  /-- The target had no record; it is now registered and held. -/
  | registered
  /-- The backend failed. -/
  | failed (e : LockError)
  deriving DecidableEq, Repr, Inhabited

namespace Attempt

/-- What a lock call answers: whether the target is now held. -/
def result : Attempt → Except LockError Bool
  | .acquired | .registered => .ok true
  | .busy => .ok false
  | .failed e => .error e

/-- The name an attempt is counted under. -/
def label : Attempt → String
  | .acquired => "acquired"
  | .busy => "busy"
  | .registered => "registered"
  | .failed _ => "error"

end Attempt

/-- How many lock attempts ended each way. -/
structure AttemptCounts where
  acquired : Nat := 0
  busy : Nat := 0
  registered : Nat := 0
  failed : Nat := 0
  deriving DecidableEq, Repr, Inhabited

/-- The counts with one more attempt. -/
def AttemptCounts.record (c : AttemptCounts) : Attempt → AttemptCounts
  | .acquired => { c with acquired := c.acquired + 1 }
  | .busy => { c with busy := c.busy + 1 }
  | .registered => { c with registered := c.registered + 1 }
  | .failed _ => { c with failed := c.failed + 1 }

/-- The counts as `(label, count)` pairs, in label order, leaving out labels never counted. -/
def AttemptCounts.touched (c : AttemptCounts) : List (String × Nat) :=
  [("acquired", c.acquired), ("busy", c.busy), ("error", c.failed),
    ("registered", c.registered)].filter (·.2 > 0)

namespace LockService

variable {σ : Type} (b : LockBackend σ)

/-- The query for one target. -/
def only (target : String) : TargetQuery := { id := some target }

/-- One attempt by `holder` to lock `target`. -/
def lock (holder target : String) (st : σ) : Attempt × σ :=
  let fail (e : BackendError) : Attempt := .failed (.backend s!"lock {target}" e)
  match b.update { id := some target, occupied := some false }
      { occupied := some true, holder := some holder } st with
  | .error e => (fail e, st)
  | .ok (n, st) =>
    if n > 0 then (.acquired, st)
    else match b.search (only target) st with
      | .error e => (fail e, st)
      | .ok (_ :: _) => (.busy, st)
      | .ok [] =>
        match b.create { id := target, occupied := true, holder } st with
        | .ok st => (.registered, st)
        | .error .registered => (.busy, st)
        | .error e => (fail e, st)

/-- Gives back `target` if `holder` holds it; answers whether it did. -/
def unlock (holder target : String) (st : σ) : Except LockError Bool × σ :=
  match b.update { id := some target, occupied := some true, holder := some holder }
      { occupied := some false, holder := some "" } st with
  | .error e => (.error (.backend s!"unlock {target}" e), st)
  | .ok (n, st) => (.ok (n > 0), st)

/-- Frees `target` whoever holds it; answers whether it was held. -/
def forceUnlock (target : String) (st : σ) : Except LockError Bool × σ :=
  match b.update { id := some target, occupied := some true }
      { occupied := some false, holder := some "" } st with
  | .error e => (.error (.backend s!"force unlock {target}" e), st)
  | .ok (n, st) => (.ok (n > 0), st)

/-- Checks the backend's health. -/
def ping (st : σ) : Except LockError Unit :=
  match b.ping st with
  | .ok () => .ok ()
  | .error reason => .error (.unreachable reason)

/-- The first free candidate, registering candidates that have no record; candidates the
backend fails on are passed over. -/
def findAvailable : List String → σ → Except LockError String × σ
  | [], st => (.error .noTarget, st)
  | id :: rest, st =>
    let isFree (rs : List TargetRecord) : Bool := TargetRecord.state rs.head? == .free
    match b.search (only id) st with
    | .error _ => findAvailable rest st
    | .ok [] =>
      match b.create { id } st with
      | .ok st => (.ok id, st)
      | .error .registered =>
        match b.search (only id) st with
        | .ok rs@(_ :: _) => if isFree rs then (.ok id, st) else findAvailable rest st
        | _ => findAvailable rest st
      | .error _ => findAvailable rest st
    | .ok rs => if isFree rs then (.ok id, st) else findAvailable rest st

/-- One sweep over the candidates: find a free one and lock it, dropping candidates found busy
at the lock. Answers the target taken, if any, and the lock attempts made. Each round drops a
candidate, so `fuel` at least the number of candidates is enough. -/
def sweep (holder : String) : Nat → List String → σ → Option String × List Attempt × σ
  | 0, _, st => (none, [], st)
  | fuel + 1, candidates, st =>
    match findAvailable b candidates st with
    | (.error _, st) => (none, [], st)
    | (.ok target, st) =>
      match lock b holder target st with
      | (.busy, st) =>
        let rest := candidates.filter (· ≠ target)
        if rest.isEmpty then (none, [.busy], st)
        else
          let (taken, attempts, st) := sweep holder fuel rest st
          (taken, .busy :: attempts, st)
      | (.failed e, st) => (none, [.failed e], st)
      | (a, st) => (some target, [a], st)

/-- How long an acquire pauses between sweeps unless configured otherwise: five seconds, in
nanoseconds. A configured pause is always positive. -/
def defaultRetryInterval : Nat := 5000000000

/-- How many sweeps an acquire makes after its first before a deadline `timeout` nanoseconds
away, pausing `interval` nanoseconds before each: one for each pause that ends before the
deadline. -/
def retries (timeout : Int) (interval : Nat) : Nat := (timeout.toNat - 1) / interval

/-- Sweeps until one takes a target, `rounds + 1` times at most: the target taken, if any, and
the lock attempts of all the sweeps. -/
def sweeps (holder : String) (candidates : List String) : Nat → σ →
    Option String × List Attempt × σ
  | 0, st => sweep b holder candidates.length candidates st
  | rounds + 1, st =>
    match sweep b holder candidates.length candidates st with
    | (some target, attempts, st) => (some target, attempts, st)
    | (none, attempts, st) =>
      let (taken, more, st) := sweeps holder candidates rounds st
      (taken, attempts ++ more, st)

/-- Takes one of the candidates for `holder` before a deadline `timeout` nanoseconds away,
sweeping again after each pause of `interval` nanoseconds that ends before it. Answers the
target and the lock attempts made. -/
def acquire (holder : String) (candidates : List String) (timeout : Int) (interval : Nat)
    (st : σ) : Except LockError String × List Attempt × σ :=
  if candidates.isEmpty then (.error .noCandidates, [], st)
  else if timeout ≤ 0 then (.error .deadline, [], st)
  else
    match sweeps b holder candidates (retries timeout interval) st with
    | (some target, attempts, st) => (.ok target, attempts, st)
    | (none, attempts, st) => (.error .deadline, attempts, st)

end LockService

end TestDispatch
