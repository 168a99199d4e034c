import TestDispatch.Store
import TestDispatch.Text.Quoted
/-!
# Lock backends

The lock service keeps its table somewhere else: in a local store, in a Redis server, or behind
the lock server's HTTP API. A backend offers the four primitives the service needs: search,
create (refused with `registered` when the id is taken), conditional update (answering how many
records it selected) and a health check. `LockBackend σ` packs them as functions of the
backend's state `σ`.

* `TargetStore.backend` works on a local store; its failures name the primitive
  (`search: ...`, `create: ...`, `update: ...`), except the health check's.

The Redis client is `redisBackend` (`Lock.Redis`) and the HTTP client `httpBackend`
(`Lock.Http`).
-/

namespace TestDispatch

/-- Why a backend primitive failed. -/
inductive BackendError where
  /-- A create found the id already registered. -/
  | registered
  /-- The local store failed while doing `operation`. -/
  | store (operation : String) (e : StoreError)
  /-- A client of a remote server failed; its words. -/
  | remote (message : String)
  deriving DecidableEq, Repr, Inhabited

/-- The words of a backend error. -/
def BackendError.message : BackendError → String
  | .registered => "target already registered"
  | .store op e => s!"{op}: {e.message}"
  | .remote m => m

/-- The primitives of a lock table whose state is `σ`. -/
structure LockBackend (σ : Type) where
  /-- The records a query selects. -/
  search : TargetQuery → σ → Except BackendError (List TargetRecord)
  /-- Adds a record. -/
  create : TargetRecord → σ → Except BackendError σ
  /-- Patches the records a filter selects, answering how many it selected. -/
  update : TargetQuery → TargetPatch → σ → Except BackendError (Nat × σ)
  /-- Checks that the table answers; on failure, the reason in words. -/
  ping : σ → Except String Unit

/-- Runs a store operation, naming `operation` in its failure. -/
def TargetStore.attempt (operation : String) (m : StoreM α) (s : TargetStore) :
    Except BackendError (α × TargetStore) :=
  match m.run.run s with
  | (.ok a, s) => .ok (a, s)
  | (.error (.conflict _), _) => .error .registered
  | (.error e, _) => .error (.store operation e)

/-- The lock table kept in a local store; writes are stamped `now`. -/
def TargetStore.backend (now : Instant) : LockBackend TargetStore where
  search q s := (TargetStore.attempt "search" (TargetStore.search q) s).map Prod.fst
  create r s := (TargetStore.attempt "create" (TargetStore.create now r) s).map Prod.snd
  update f p s := TargetStore.attempt "update" (TargetStore.update now f p) s
  ping s := match (TargetStore.ping.run.run s).1 with
    | .ok () => .ok ()
    | .error e => .error e.message

/-- The words of a refused connection to `host`: the network reaches nothing. -/
def unreachableDial (host : String) : String :=
  s!"dial tcp {host}: connect: network is unreachable"

/-- The kinds of lock backend a configuration can name. -/
inductive BackendKind where
  | http
  | redis
  deriving DecidableEq, Repr, Inhabited

/-- The backend a configuration names: `http` (also the empty name), which needs the server's
URL, or `redis`. -/
def BackendKind.select (name url : String) : Except String BackendKind :=
  match name with
  | "" | "http" => if url = "" then .error "lock backend http: url is required" else .ok .http
  | "redis" => .ok .redis
  | other => .error s!"unknown lock backend {Quoted.quote other}"

end TestDispatch
