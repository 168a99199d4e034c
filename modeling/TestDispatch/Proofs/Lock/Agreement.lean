import TestDispatch.Proofs.Lock.Http
import TestDispatch.Proofs.Store.Refinement
/-!
# The lock backends side by side

The local store, the HTTP client and the Redis client, each over a table laid out the same way,
against the lock table:

* the local store answers every sequence of valid calls as the table does;
* the HTTP client, over the lock server on that store, does so too, for calls whose records have
  times their RFC 3339 form shows exactly, while the server serves the client for that many calls
  (`HttpClient.Serves`);
* the Redis client, over a server that runs its commands as Redis documents them, does so for
  every sequence of calls that do not name `_index`;
* but a registration of `_index` after such calls is answered otherwise: the index's key is the
  record key of `_index`, so once any target is registered the registration finds the key taken
  and is refused as `registered`, though the table has no record of `_index`.
-/

namespace TestDispatch

/-- The index exists once a table with a record is laid out. -/
theorem Keyspace.Holds.index_present {stem : String} {T : String → Option Slot} {ks : Keyspace}
    (h : ks.Holds stem T) {id : String} (hT : (T id).isSome) :
    (ks.get (redisIndexKey stem)).isSome := by
  obtain ⟨ms, hms, -, hmem⟩ := h.index
  rcases Keyspace.get_of_setAt hms with hset | ⟨-, rfl⟩
  · simp [hset]
  · exact absurd ((hmem id).mpr hT) List.not_mem_nil

/-- From an ordered store, a lock server on it and a keyspace that lays out its table: the store
answers every sequence of valid calls as the table does; so does an HTTP client of the server, for
valid calls whose records have times their form shows exactly, at such a time, while the server
serves it for that many calls; the Redis client answers every sequence of calls that do not name
`_index` as the table does, and answers otherwise once such calls are followed by a registration
of `_index`. -/
theorem lock_backends_agree_until_index (now : Instant) (stem : String) {s : TargetStore}
    (hs : s.Ordered) {ks : Keyspace} (hks : ks.Holds stem (TargetStore.view s)) (c : HttpClient)
    {srv : LockServer.Server} (hsrv : srv.store = s) (cs : List Call) :
    ((∀ call ∈ cs, call.Valid) → (TargetStore.backend now).AnswersAsTable cs s (TargetStore.view s)) ∧
      (now.Shown → c.Serves cs.length srv → (∀ call ∈ cs, call.Valid ∧ call.Shown) →
        (httpBackend c (LockServer.Server.http now)).AnswersAsTable cs srv (TargetStore.view s)) ∧
      ((∀ call ∈ cs, ¬ call.Names "_index") →
        (redisBackend stem now Keyspace.server).AnswersAsTable cs ks (TargetStore.view s) ∧
          ∀ r : TargetRecord, r.id = "_index" →
            ¬ (redisBackend stem now Keyspace.server).AnswersAsTable (cs ++ [.create r]) ks
              (TargetStore.view s)) :=
  ⟨fun hv => TargetStore.answersAsTable now hs hv,
    fun hnow hserves hcalls => hsrv ▸ httpBackend_answersAsTable c hnow hserves hcalls,
    fun hn => ⟨redisBackend_answersAsTable stem now hks hn,
      fun _ hr => redisBackend_index_not_answered stem now hks hn hr⟩⟩

/-- A fresh store, a keyless lock server on it and an empty keyspace, with one registration of
`b` at the zero time. -/
theorem lock_backends_agree_fresh :
    let client : HttpClient := { baseUrl := "http://lockd.test" }
    let server := LockServer.Server.create [] [] TargetStore.fresh
    let calls := [Call.create { id := "b" }]
    TargetStore.fresh.Ordered ∧
      ({} : Keyspace).Holds defaultRedisStem (TargetStore.view TargetStore.fresh) ∧
      server.store = TargetStore.fresh ∧ Instant.zero.Shown ∧ client.Serves calls.length server ∧
      (∀ call ∈ calls, call.Valid ∧ call.Shown) ∧ (∀ call ∈ calls, ¬ call.Names "_index") ∧
      (TargetStore.backend Instant.zero).AnswersAsTable calls TargetStore.fresh
        (TargetStore.view TargetStore.fresh) ∧
      (httpBackend client (LockServer.Server.http Instant.zero)).AnswersAsTable calls server
        (TargetStore.view TargetStore.fresh) ∧
      (redisBackend defaultRedisStem Instant.zero Keyspace.server).AnswersAsTable calls {}
        (TargetStore.view TargetStore.fresh) ∧
      ∀ r : TargetRecord, r.id = "_index" →
        ¬ (redisBackend defaultRedisStem Instant.zero Keyspace.server).AnswersAsTable
          (calls ++ [.create r]) {} (TargetStore.view TargetStore.fresh) := by
  intro client server calls
  have hks : ({} : Keyspace).Holds defaultRedisStem (TargetStore.view TargetStore.fresh) := by
    rw [fresh_view]
    exact Keyspace.holds_empty defaultRedisStem
  have hzero : Instant.zero.Shown := ⟨by decide, by decide, by decide, by decide⟩
  have hrows : TargetStore.fresh.rows = [] := by decide
  have hserves : client.Serves calls.length server :=
    ⟨.inl rfl, fresh_ordered, by simp [server, LockServer.Server.create, hrows],
      by simp [server, LockServer.Server.create, hrows, calls, Json.int64Max]⟩
  have hcalls : ∀ call ∈ calls, call.Valid ∧ call.Shown := by
    simp [calls, Call.Valid, Call.Shown, hzero]
  have hnames : ∀ call ∈ calls, ¬ call.Names "_index" := by
    simp [calls, Call.Names]
  obtain ⟨hstore, hhttp, hredis⟩ := lock_backends_agree_until_index Instant.zero defaultRedisStem
    fresh_ordered hks client (show server.store = TargetStore.fresh from rfl) calls
  exact ⟨fresh_ordered, hks, rfl, hzero, hserves, hcalls, hnames,
    hstore fun call h => (hcalls call h).1, hhttp hzero hserves hcalls, hredis hnames⟩

/-- Registering `b` and then `_index` on a fresh table: the store takes both; the Redis client,
from an empty server, takes `b` and refuses `_index` as already registered. -/
theorem index_registration_refused :
    let redis := redisBackend defaultRedisStem Instant.zero Keyspace.server
    let first := redis.perform (.create { id := "b" }) {}
    let calls := [Call.create { id := "b" }, Call.create { id := "_index" }]
    (∀ c ∈ calls, c.Valid) ∧
      (TargetStore.backend Instant.zero).AnswersAsTable calls TargetStore.fresh
        (TargetStore.view TargetStore.fresh) ∧
      first.1 = .ok () ∧ (redis.perform (.create { id := "_index" }) first.2).1 = .error .registered ∧
      ¬ redis.AnswersAsTable calls {} (TargetStore.view TargetStore.fresh) := by
  intro redis first calls
  have hv : ∀ c ∈ calls, c.Valid := by
    simp [calls, Call.Valid]
  have hks := Keyspace.holds_empty defaultRedisStem
  have hnames : ∀ c ∈ [Call.create { id := "b" }], ¬ c.Names "_index" := by
    simp [Call.Names]
  -- the first registration answers as the empty table does, and lays out `b`
  obtain ⟨hans, hold⟩ := hks.perform Instant.zero (hnames _ (List.mem_singleton_self _))
  have hfirst : first.1 = .ok () := by
    revert hans
    cases first.1 with
    | ok u => exact fun _ => rfl
    | error e => exact fun h => absurd rfl h.2
  rw [hfirst] at hold
  have hb : ((Call.create { id := "b" }).effect (.ok ()) (fun _ => none) "b").isSome := by
    simp [Call.effect]
  have hpresent := hold.index_present hb
  -- the second finds the index at its record's key
  have hindex : ({ id := "_index" } : TargetRecord).id = "_index" := rfl
  have hsecond : redis.create { id := "_index" } first.2 = .error .registered :=
    (redisBackend_create_index defaultRedisStem Instant.zero first.2 hindex).trans
      (by rw [if_pos hpresent])
  refine ⟨hv, TargetStore.answersAsTable Instant.zero fresh_ordered hv, hfirst, ?_, ?_⟩
  · simp only [LockBackend.perform, hsecond]
  · rw [fresh_view]
    exact redisBackend_index_not_answered defaultRedisStem Instant.zero hks hnames rfl

end TestDispatch
