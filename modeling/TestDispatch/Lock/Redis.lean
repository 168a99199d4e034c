import TestDispatch.Lock.Backend
import TestDispatch.Text.ByteOrder
/-!
# The Redis lock backend

The Redis client keeps the lock table in a Redis server, under keys that all begin with one stem
(`testfleet:target:` unless configured): one hash per target at `stem ++ id`, with the fields
`id`, `occupied` (`1` or `0`), `holder` and `updated_at`, and a set at `stem ++ "_index"` that
indexes every registered id.

* `RedisServer σ` is a Redis server as the client reaches it: the commands the client sends
  (`EXISTS`, `HGET`, `HGETALL`, `SMEMBERS`, `HSET`, `SADD`, `PING`), each a step on the server's
  state `σ` that answers or fails with the server's or the connection's words.
* `Keyspace` is a server's data, and `Keyspace.server` runs the commands as Redis documents them:
  a missing key reads as an empty hash or set, a write to a missing key creates it, and a command
  on a key of the other kind fails with `WRONGTYPE` and changes nothing.
* `RedisServer.unreachable` is a server on a network that reaches nothing.
* `createScript` and `updateScript` are the scripts the client has the server run for a
  registration and for the update of one record. The server runs a script as a whole, with no
  other command in between; a command that fails ends the script, and the writes before it
  stay.
* `redisBackend` is the client as a lock backend. A search or an update names one record when
  its query gives an id, and otherwise goes through the members of the index; a search reads them
  in byte order and leaves out ids whose hash is empty.

The index's key is the key of the id `_index`, so to the registration script the index is the
record of `_index`.
-/

namespace TestDispatch

/-- A value a Redis key holds: a hash of fields or a set of members. -/
inductive RedisValue where
  | hash (fields : List (String × String))
  | set (members : List String)
  deriving DecidableEq, Repr, Inhabited

/-- A Redis server as its client reaches it. Each command is a step on the server's state `σ`,
failing with the server's or the connection's words. -/
structure RedisServer (σ : Type) where
  /-- `EXISTS key`: whether the key holds a value. -/
  keyExists : String → EStateM String σ Bool
  /-- `HGET key field`: a field of the hash at the key, if it has the field. -/
  hget : String → String → EStateM String σ (Option String)
  /-- `HGETALL key`: every field of the hash at the key. -/
  hgetAll : String → EStateM String σ (List (String × String))
  /-- `SMEMBERS key`: the members of the set at the key. -/
  smembers : String → EStateM String σ (List String)
  /-- `HSET key field value ...`: sets fields of the hash at the key. -/
  hset : String → List (String × String) → EStateM String σ Unit
  /-- `SADD key member ...`: adds members to the set at the key. -/
  sadd : String → List String → EStateM String σ Unit
  /-- `PING`. -/
  ping : EStateM String σ Unit

/-! ## A server's data -/

/-- The data of a Redis server: the value of each key, each key once. -/
structure Keyspace where
  entries : List (String × RedisValue) := []
  deriving Repr, Inhabited

namespace Keyspace

/-- The value a key holds. -/
def get (ks : Keyspace) (key : String) : Option RedisValue := ks.entries.lookup key

/-- The keyspace with `key` holding `v`. -/
def put (ks : Keyspace) (key : String) (v : RedisValue) : Keyspace :=
  ⟨(key, v) :: ks.entries.filter (·.1 ≠ key)⟩

/-- The fields of the hash at a key, a missing key being an empty hash; none when the key holds
a set. -/
def hashAt (ks : Keyspace) (key : String) : Option (List (String × String)) :=
  match ks.get key with
  | none => some []
  | some (.hash fields) => some fields
  | some (.set _) => none

/-- The members of the set at a key, a missing key being an empty set; none when the key holds
a hash. -/
def setAt (ks : Keyspace) (key : String) : Option (List String) :=
  match ks.get key with
  | none => some []
  | some (.set members) => some members
  | some (.hash _) => none

/-- Fields set in a hash, one after another: a field already there takes the new value. -/
def setFields (fields : List (String × String)) : List (String × String) → List (String × String)
  | [] => fields
  | (f, v) :: more => setFields ((f, v) :: fields.filter (·.1 ≠ f)) more

/-- Members added to a set, one after another: a member already there is not added again. -/
def addMembers (members : List String) : List String → List String
  | [] => members
  | m :: more => addMembers (if m ∈ members then members else members ++ [m]) more

/-- The words of a command on a key of the other kind. -/
def wrongType : String := "WRONGTYPE Operation against a key holding the wrong kind of value"

/-- The commands on a keyspace as Redis documents them. -/
def server : RedisServer Keyspace where
  keyExists key ks := .ok (ks.get key).isSome ks
  hget key field ks := match ks.hashAt key with
    | some fields => .ok (fields.lookup field) ks
    | none => .error wrongType ks
  hgetAll key ks := match ks.hashAt key with
    | some fields => .ok fields ks
    | none => .error wrongType ks
  smembers key ks := match ks.setAt key with
    | some members => .ok members ks
    | none => .error wrongType ks
  hset key fields ks := match ks.hashAt key with
    | some old => .ok () (ks.put key (.hash (setFields old fields)))
    | none => .error wrongType ks
  sadd key members ks := match ks.setAt key with
    | some old => .ok () (ks.put key (.set (addMembers old members)))
    | none => .error wrongType ks
  ping ks := .ok () ks

/-- The data after a write made straight on the server, as when records are planted: a write
that fails leaves it as it was. -/
def plant (write : EStateM String Keyspace Unit) (ks : Keyspace) : Keyspace :=
  match write.run ks with
  | .ok () ks => ks
  | .error _ ks => ks

end Keyspace

/-- A server on a network that reaches nothing: every command fails with the words of the
refused connection to `host`. -/
def RedisServer.unreachable {σ : Type} (host : String) : RedisServer σ where
  keyExists _ := EStateM.throw (unreachableDial host)
  hget _ _ := EStateM.throw (unreachableDial host)
  hgetAll _ := EStateM.throw (unreachableDial host)
  smembers _ := EStateM.throw (unreachableDial host)
  hset _ _ := EStateM.throw (unreachableDial host)
  sadd _ _ := EStateM.throw (unreachableDial host)
  ping := EStateM.throw (unreachableDial host)

/-! ## The client's keys and fields -/

/-- The stem of the keys unless one is configured. -/
def defaultRedisStem : String := "testfleet:target:"

/-- The stem of the keys for a configured one; the empty text configures none. -/
def redisStem (configured : String) : String :=
  if configured = "" then defaultRedisStem else configured

/-- The key of the hash of `id`. -/
def redisKey (stem id : String) : String := stem ++ id

/-- The key of the index of every registered id. -/
def redisIndexKey (stem : String) : String := stem ++ "_index"

/-- A flag as a hash field holds it. -/
def redisFlag (b : Bool) : String := if b then "1" else "0"

/-- The record of `id` that the fields of its hash describe: occupied when `occupied` is `1`, with
the holder `holder` names and the RFC 3339 time `updated_at` gives. A field the hash lacks reads
as empty, and a time that does not read is the zero time. -/
def redisRecord (id : String) (fields : List (String × String)) : TargetRecord :=
  { id, occupied := (fields.lookup "occupied").getD "" == "1",
    holder := (fields.lookup "holder").getD "",
    updatedAt := (Instant.parse ((fields.lookup "updated_at").getD "")).getD Instant.zero }

/-! ## The client -/

namespace RedisServer

variable {σ : Type} (srv : RedisServer σ)

/-- The registration script on the record's key and the index: refuses (answers `0`) when the
record's key holds anything, else writes the record's hash, stamped `stamp`, and adds its id to the
index (answers `1`). -/
def createScript (key index : String) (r : TargetRecord) (stamp : String) :
    EStateM String σ Nat := do
  if (← srv.keyExists key) then pure 0
  else do
    srv.hset key [("id", r.id), ("occupied", redisFlag r.occupied), ("holder", r.holder),
      ("updated_at", stamp)]
    srv.sadd index [r.id]
    pure 1

/-- Whether a field of the hash at `key` holds the wanted value, when one is wanted. -/
def fieldHolds (key field : String) : Option String → EStateM String σ Bool
  | none => pure true
  | some want => do pure ((← srv.hget key field) == some want)

/-- Sets a field of the hash at `key` to a new value, when one is given. -/
def setField (key field : String) : Option String → EStateM String σ Unit
  | none => pure ()
  | some v => srv.hset key [(field, v)]

/-- The update script on one record's key: answers `0` when the key holds nothing or a field the
filter names holds another value, else sets the fields the patch names and the stamp and answers
`1`. -/
def updateScript (key : String) (f : TargetQuery) (p : TargetPatch) (stamp : String) :
    EStateM String σ Nat := do
  if !(← srv.keyExists key) then pure 0
  else do
    if !(← srv.fieldHolds key "occupied" (f.occupied.map redisFlag)) then pure 0
    else do
      if !(← srv.fieldHolds key "holder" f.holder) then pure 0
      else do
        srv.setField key "occupied" (p.occupied.map redisFlag)
        srv.setField key "holder" p.holder
        srv.hset key [("updated_at", stamp)]
        pure 1

/-- The records of `ids` that `q` selects, in the order of `ids`, leaving out ids whose hash is
empty; a failed read names its id. -/
def readRecords (stem : String) (q : TargetQuery) : List String → EStateM String σ (List TargetRecord)
  | [] => pure []
  | id :: ids => do
    let fields ← (srv.hgetAll (redisKey stem id)).adaptExcept (s!"search {id}: " ++ ·)
    let rest ← readRecords stem q ids
    let r := redisRecord id fields
    pure (if !fields.isEmpty && q.matches r then r :: rest else rest)

/-- A search: the record the query's id names, or every indexed record in byte order of id. -/
def search (stem : String) (q : TargetQuery) : EStateM String σ (List TargetRecord) := do
  let ids ← match q.id with
    | some id => pure [id]
    | none => sortTexts <$> (srv.smembers (redisIndexKey stem)).adaptExcept ("search: " ++ ·)
  srv.readRecords stem q ids

/-- A registration stamped `stamp`: the script's answer. -/
def create (stem stamp : String) (r : TargetRecord) : EStateM String σ Nat :=
  (srv.createScript (redisKey stem r.id) (redisIndexKey stem) r stamp).adaptExcept ("create: " ++ ·)

/-- The update script on each of `ids` in turn: how many records it updated. A failed script
names its id and ends the update. -/
def updateEach (stem stamp : String) (f : TargetQuery) (p : TargetPatch) :
    List String → EStateM String σ Nat
  | [] => pure 0
  | id :: ids => do
    let n ← (srv.updateScript (redisKey stem id) f p stamp).adaptExcept (s!"update {id}: " ++ ·)
    let m ← updateEach stem stamp f p ids
    pure (n + m)

/-- An update stamped `stamp`: of the record the filter's id names, or of every indexed one. -/
def update (stem stamp : String) (f : TargetQuery) (p : TargetPatch) : EStateM String σ Nat := do
  let ids ← match f.id with
    | some id => pure [id]
    | none => (srv.smembers (redisIndexKey stem)).adaptExcept ("update: " ++ ·)
  srv.updateEach stem stamp f p ids

end RedisServer

/-- The Redis client as a lock backend, with keys under `stem` and writes stamped `now` in RFC
3339. A registration the script answers `0` is refused as `registered`. The backend's interface
carries no state out of a failed call, so a script that fails after a write (a registration
whose index key holds a hash) counts as having written nothing. -/
def redisBackend {σ : Type} (stem : String) (now : Instant) (srv : RedisServer σ) :
    LockBackend σ where
  search q st := match (srv.search stem q).run st with
    | .ok rs _ => .ok rs
    | .error e _ => .error (.remote e)
  create r st := match (srv.create stem now.format r).run st with
    | .ok 0 _ => .error .registered
    | .ok _ st => .ok st
    | .error e _ => .error (.remote e)
  update f p st := match (srv.update stem now.format f p).run st with
    | .ok n st => .ok (n, st)
    | .error e _ => .error (.remote e)
  ping st := match srv.ping.run st with
    | .ok () _ => .ok ()
    | .error e _ => .error e

end TestDispatch
