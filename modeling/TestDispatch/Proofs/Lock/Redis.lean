import TestDispatch.Lock.Redis
import TestDispatch.Proofs.Lock.Backends
import TestDispatch.Proofs.Text.ByteOrder
/-!
# The Redis backend against the lock table

Over a server that runs its commands as Redis documents them (`Keyspace.server`), the Redis client
answers as the lock table does as long as no call names the id `_index`, whose key is the index's
own (`redisIndexKey_eq_redisKey`).

`Keyspace.Holds stem T ks` says that the keyspace lays out the table `T` as the client writes it:
the index is a set of exactly the ids with a record (or absent while there is none), the hash of
each record holds its slot, an id without a record has no key, and `_index` has no record.

* `Holds.search`, `Holds.create`, `Holds.update`: each primitive, from a keyspace that holds `T`,
  answers as `T` does and leaves a keyspace that holds `T` changed by the call;
* `redisBackend_answersAsTable`: so the client answers every sequence of calls that do not name
  `_index` as the table does;
* `Holds.create_index`: a registration of `_index` never succeeds. It finds the index at the
  record's key and is refused as `registered` once the index exists; before that it writes the
  record's hash at the index's key and then fails to add the id to it.
-/

namespace TestDispatch

/-! ## Running the client's steps -/

namespace EStateM

variable {ε ε' σ α β : Type} {x : EStateM ε σ α} {s s' : σ}

theorem run_bind_ok {f : α → EStateM ε σ β} {a : α} (h : x.run s = .ok a s') :
    (x >>= f).run s = (f a).run s' := by
  change EStateM.bind x f s = f a s'
  simp only [EStateM.bind]
  rw [show x s = .ok a s' from h]

theorem run_bind_error {f : α → EStateM ε σ β} {e : ε} (h : x.run s = .error e s') :
    (x >>= f).run s = .error e s' := by
  change EStateM.bind x f s = _
  simp only [EStateM.bind]
  rw [show x s = .error e s' from h]

theorem run_adaptExcept_ok {g : ε → ε'} {a : α} (h : x.run s = .ok a s') :
    (x.adaptExcept g).run s = .ok a s' := by
  change EStateM.adaptExcept g x s = _
  simp only [EStateM.adaptExcept]
  rw [show x s = .ok a s' from h]

theorem run_adaptExcept_error {g : ε → ε'} {e : ε} (h : x.run s = .error e s') :
    (x.adaptExcept g).run s = .error (g e) s' := by
  change EStateM.adaptExcept g x s = _
  simp only [EStateM.adaptExcept]
  rw [show x s = .error e s' from h]

theorem run_map_ok {g : α → β} {a : α} (h : x.run s = .ok a s') :
    (g <$> x).run s = .ok (g a) s' := by
  change EStateM.map g x s = _
  simp only [EStateM.map]
  rw [show x s = .ok a s' from h]

theorem run_pure (a : α) (s : σ) : (pure a : EStateM ε σ α).run s = .ok a s := rfl

end EStateM

open TestDispatch.EStateM (run_bind_ok run_adaptExcept_ok run_map_ok run_pure)

/-! ## Keys -/

theorem redisKey_inj {stem a b : String} : redisKey stem a = redisKey stem b ↔ a = b :=
  String.append_right_inj stem

/-- The index's key is the key of the id `_index`. -/
theorem redisIndexKey_eq_redisKey (stem : String) : redisIndexKey stem = redisKey stem "_index" :=
  rfl

theorem redisKey_ne_index {stem id : String} (h : id ≠ "_index") :
    redisKey stem id ≠ redisIndexKey stem := fun heq => h (redisKey_inj.mp heq)

/-! ## A keyspace's values -/

namespace Keyspace

theorem lookup_filter_ne {β : Type} {l : List (String × β)} {k k' : String} (h : k' ≠ k) :
    (l.filter (·.1 ≠ k)).lookup k' = l.lookup k' := by
  induction l with
  | nil => rfl
  | cons e l ih =>
    obtain ⟨k'', v⟩ := e
    by_cases hk : k'' = k
    · subst hk
      have hne : (k' == k'') = false := by simpa using h
      simp only [List.filter_cons, ne_eq, not_true_eq_false, decide_false, Bool.false_eq_true,
        if_false, ih, List.lookup_cons, hne]
    · simp only [List.filter_cons, ne_eq, hk, not_false_eq_true, decide_true, if_true,
        List.lookup_cons, ih]

theorem get_put (ks : Keyspace) (k : String) (v : RedisValue) (k' : String) :
    (ks.put k v).get k' = if k' = k then some v else ks.get k' := by
  by_cases hk : k' = k
  · subst hk
    simp [get, put]
  · have hne : (k' == k) = false := by simpa using hk
    simp only [get, put, List.lookup_cons, hne, hk, if_false]
    exact lookup_filter_ne hk

theorem hashAt_of_get_hash {ks : Keyspace} {k : String} {fs : List (String × String)}
    (h : ks.get k = some (.hash fs)) : ks.hashAt k = some fs := by
  simp [hashAt, h]

theorem hashAt_of_get_none {ks : Keyspace} {k : String} (h : ks.get k = none) :
    ks.hashAt k = some [] := by
  simp [hashAt, h]

theorem get_of_setAt {ks : Keyspace} {k : String} {ms : List String} (h : ks.setAt k = some ms) :
    ks.get k = some (.set ms) ∨ (ks.get k = none ∧ ms = []) := by
  unfold setAt at h
  split at h <;> simp_all

theorem setAt_put_set (ks : Keyspace) (k : String) (ms : List String) :
    (ks.put k (.set ms)).setAt k = some ms := by
  simp [setAt, get_put]

theorem setAt_congr {ks ks' : Keyspace} {k : String} (h : ks'.get k = ks.get k) :
    ks'.setAt k = ks.setAt k := by
  simp [setAt, h]

/-! ## Fields and members -/

theorem setFields_append (fs a b : List (String × String)) :
    setFields fs (a ++ b) = setFields (setFields fs a) b := by
  induction a generalizing fs with
  | nil => rfl
  | cons e a ih =>
    obtain ⟨f, v⟩ := e
    exact ih _

theorem lookup_setFields (fs new : List (String × String)) (g : String) :
    (setFields fs new).lookup g = (new.reverse.lookup g).or (fs.lookup g) := by
  induction new generalizing fs with
  | nil => simp [setFields]
  | cons e new ih =>
    obtain ⟨f, v⟩ := e
    -- the field set first is looked up behind the ones set after it
    have hfirst : ((f, v) :: fs.filter (·.1 ≠ f)).lookup g = ([(f, v)].lookup g).or (fs.lookup g) := by
      by_cases hg : g = f
      · subst hg
        simp
      · have hne : (g == f) = false := by simpa using hg
        simp only [List.lookup_cons, hne, List.lookup_nil, Option.none_or]
        exact lookup_filter_ne hg
    rw [setFields, ih, hfirst, List.reverse_cons, List.lookup_append, Option.or_assoc]

/-- Looking up a field after setting one field, when a value is given. -/
theorem lookup_setFields_field (fs : List (String × String)) (field : String) (v : Option String)
    (g : String) :
    (setFields fs (v.toList.map (field, ·))).lookup g =
      if g = field then v.or (fs.lookup g) else fs.lookup g := by
  cases v with
  | none => simp [setFields]
  | some x =>
    by_cases hg : g = field
    · simp [lookup_setFields, hg]
    · have hne : (g == field) = false := by simpa using hg
      simp [lookup_setFields, hg, hne]

theorem mem_addMembers {ms new : List String} {m : String} :
    m ∈ addMembers ms new ↔ m ∈ ms ∨ m ∈ new := by
  induction new generalizing ms with
  | nil => simp [addMembers]
  | cons x new ih =>
    rw [addMembers, ih, List.mem_cons]
    split
    · rename_i hx
      constructor
      · rintro (h | h) <;> simp [h]
      · rintro (h | rfl | h)
        · exact .inl h
        · exact .inl hx
        · exact .inr h
    · simp only [List.mem_append, List.mem_singleton]
      tauto

theorem addMembers_singleton {ms : List String} {m : String} (h : m ∉ ms) :
    addMembers ms [m] = ms ++ [m] := by
  simp [addMembers, h]

end Keyspace

/-! ## The commands on a keyspace -/

namespace Keyspace

variable {ks : Keyspace} {k : String}

theorem run_keyExists (ks : Keyspace) (k : String) :
    (server.keyExists k).run ks = .ok (ks.get k).isSome ks := rfl

theorem run_hgetAll {fs : List (String × String)} (h : ks.hashAt k = some fs) :
    (server.hgetAll k).run ks = .ok fs ks := by
  simp only [EStateM.run, server, h]

theorem run_hget {fs : List (String × String)} (h : ks.hashAt k = some fs) (field : String) :
    (server.hget k field).run ks = .ok (fs.lookup field) ks := by
  simp only [EStateM.run, server, h]

theorem run_smembers {ms : List String} (h : ks.setAt k = some ms) :
    (server.smembers k).run ks = .ok ms ks := by
  simp only [EStateM.run, server, h]

theorem run_hset {fs : List (String × String)} (h : ks.hashAt k = some fs)
    (new : List (String × String)) :
    (server.hset k new).run ks = .ok () (ks.put k (.hash (setFields fs new))) := by
  simp only [EStateM.run, server, h]

theorem run_sadd {ms : List String} (h : ks.setAt k = some ms) (new : List String) :
    (server.sadd k new).run ks = .ok () (ks.put k (.set (addMembers ms new))) := by
  simp only [EStateM.run, server, h]

/-- Setting a field, when a value is given, on the hash at a key: the key then holds the fields
with the value set, and every other key is as it was. -/
theorem run_setField {fs : List (String × String)} (h : ks.get k = some (.hash fs))
    (field : String) (v : Option String) :
    ∃ ks', (server.setField k field v).run ks = .ok () ks' ∧
      ks'.get k = some (.hash (setFields fs (v.toList.map (field, ·)))) ∧
      ∀ k', k' ≠ k → ks'.get k' = ks.get k' := by
  cases v with
  | none => exact ⟨ks, rfl, h, fun _ _ => rfl⟩
  | some x =>
    refine ⟨_, run_hset (hashAt_of_get_hash h) _, ?_, fun k' hk' => ?_⟩
    · simp [get_put]
    · simp [get_put, hk']

theorem run_sadd_wrongType (h : ks.setAt k = none) (new : List String) :
    (server.sadd k new).run ks = .error wrongType ks := by
  simp only [EStateM.run, server, h]

/-- A check of a field, when a value is wanted, on the hash at a key. -/
theorem run_fieldHolds {fs : List (String × String)} (h : ks.hashAt k = some fs) (field : String)
    (want : Option String) :
    (server.fieldHolds k field want).run ks = .ok (want.all fun w => fs.lookup field == some w) ks := by
  cases want with
  | none => rfl
  | some w =>
    rw [RedisServer.fieldHolds, run_bind_ok (run_hget h field)]
    rfl

end Keyspace

/-! ## The layout of the lock table -/

/-- The keyspace lays out the table `T` under `stem` as the Redis client writes it. -/
structure Keyspace.Holds (stem : String) (T : String → Option Slot) (ks : Keyspace) : Prop where
  /-- The index is a set, without repeats, of exactly the ids with a record. -/
  index : ∃ ms, ks.setAt (redisIndexKey stem) = some ms ∧ ms.Nodup ∧
    ∀ id, id ∈ ms ↔ (T id).isSome
  /-- The hash of each record holds its slot. -/
  record : ∀ id c, T id = some c → ∃ fs, ks.get (redisKey stem id) = some (.hash fs) ∧
    fs.lookup "occupied" = some (redisFlag c.occupied) ∧ fs.lookup "holder" = some c.holder
  /-- An id without a record has no key, `_index` apart. -/
  absent : ∀ id, id ≠ "_index" → T id = none → ks.get (redisKey stem id) = none
  /-- `_index` has no record. -/
  indexFree : T "_index" = none

/-- The empty keyspace lays out the empty table. -/
theorem Keyspace.holds_empty (stem : String) : ({} : Keyspace).Holds stem fun _ => none where
  index := ⟨[], rfl, List.nodup_nil, by simp⟩
  record := by simp
  absent _ _ _ := rfl
  indexFree := rfl

namespace Keyspace.Holds

variable {stem : String} {T : String → Option Slot} {ks : Keyspace}

theorem ne_index (h : ks.Holds stem T) {id : String} (hT : (T id).isSome) : id ≠ "_index" := by
  rintro rfl
  simp [h.indexFree] at hT

theorem redisFlag_inj {a b : Bool} : redisFlag a = redisFlag b ↔ a = b := by
  cases a <;> cases b <;> decide

/-- The fields of the hash of `id`: empty exactly when `id` has no record, and describing its slot
when it has one. -/
theorem hgetAll_record (h : ks.Holds stem T) {id : String} (hid : id ≠ "_index") :
    ∃ fs, (server.hgetAll (redisKey stem id)).run ks = .ok fs ks ∧
      fs.isEmpty = (T id).isNone ∧ ∀ c, T id = some c → (redisRecord id fs).slot = c := by
  cases hT : T id with
  | none =>
    refine ⟨[], Keyspace.run_hgetAll (Keyspace.hashAt_of_get_none (h.absent id hid hT)), rfl, ?_⟩
    simp
  | some c =>
    obtain ⟨fs, hget, hocc, hhold⟩ := h.record id c hT
    refine ⟨fs, Keyspace.run_hgetAll (Keyspace.hashAt_of_get_hash hget), ?_, ?_⟩
    · cases fs with
      | nil => simp at hocc
      | cons _ _ => rfl
    · rintro c' ⟨⟩
      cases c with
      | mk occupied holder =>
        cases occupied <;> simp [redisRecord, TargetRecord.slot, hocc, hhold, redisFlag]

/-- A keyspace that differs from one laying out `T` only in the hash of `id` and in the index,
where the hash holds the slot `c` and the index holds `id` and the ids with a record, lays out `T`
with `id` given `c`. -/
theorem put_record (h : ks.Holds stem T) {id : String} (hid : id ≠ "_index") {c : Slot}
    {ks' : Keyspace} {fs : List (String × String)}
    (hkey : ks'.get (redisKey stem id) = some (.hash fs))
    (hocc : fs.lookup "occupied" = some (redisFlag c.occupied))
    (hhold : fs.lookup "holder" = some c.holder)
    (hindex : ∃ ms, ks'.setAt (redisIndexKey stem) = some ms ∧ ms.Nodup ∧
      ∀ id', id' ∈ ms ↔ id' = id ∨ (T id').isSome)
    (hother : ∀ id', id' ≠ id → id' ≠ "_index" →
      ks'.get (redisKey stem id') = ks.get (redisKey stem id')) :
    ks'.Holds stem fun id' => if id' = id then some c else T id' where
  index := by
    obtain ⟨ms, hms, hnd, hmem⟩ := hindex
    refine ⟨ms, hms, hnd, fun id' => ?_⟩
    rw [hmem]
    by_cases h' : id' = id <;> simp [h']
  record id' c' hc' := by
    by_cases h' : id' = id
    · subst h'
      simp only [if_true, Option.some.injEq] at hc'
      subst hc'
      exact ⟨fs, hkey, hocc, hhold⟩
    · simp only [h', if_false] at hc'
      rw [hother id' h' (h.ne_index (by simp [hc']))]
      exact h.record id' c' hc'
  absent id' hid' hT := by
    by_cases h' : id' = id
    · simp [h'] at hT
    · simp only [h', if_false] at hT
      rw [hother id' h' hid']
      exact h.absent id' hid' hT
  indexFree := by simp [Ne.symm hid, h.indexFree]

/-! ## Searching -/

/-- Reading the records of ids other than `_index`: the records the query selects, by id and slot
as the table has them, in the order of the ids. -/
theorem readRecords (h : ks.Holds stem T) (q : TargetQuery) :
    ∀ {ids : List String}, (∀ id ∈ ids, id ≠ "_index") →
      ∃ rs, (server.readRecords stem q ids).run ks = .ok rs ks ∧
        rs.map (fun r => (r.id, r.slot)) =
          ids.filterMap fun id => (T id).bind fun c => if q.selects id c then some (id, c) else none
  | [], _ => ⟨[], rfl, rfl⟩
  | id :: ids, hids => by
    obtain ⟨fs, hread, hempty, hslot⟩ := h.hgetAll_record (hids id (List.mem_cons_self ..))
    obtain ⟨rs, hrest, hmap⟩ := h.readRecords q fun id' hid' => hids id' (List.mem_cons_of_mem _ hid')
    let r := redisRecord id fs
    refine ⟨if !fs.isEmpty && q.matches r then r :: rs else rs, ?_, ?_⟩
    · rw [RedisServer.readRecords, run_bind_ok (run_adaptExcept_ok hread), run_bind_ok hrest]
      rfl
    · rw [List.filterMap_cons]
      cases hT : T id with
      | none =>
        rw [hT] at hempty
        simp [hempty, hmap]
      | some c =>
        rw [hT] at hempty
        have hr : r.slot = c := hslot c hT
        have hmatch : q.matches r = q.selects id c := by
          rw [TargetQuery.matches_eq_selects, hr]
          rfl
        by_cases hs : q.selects id c = true
        · have hentry : (r.id, r.slot) = (id, c) := by
            rw [hr]
            rfl
          simp [hempty, hmatch, hs, hmap, hentry]
        · simp [hempty, hmatch, hs, hmap]

/-- A search that does not name `_index` answers the records the query selects, in ascending
order of id, and changes nothing. -/
theorem search (h : ks.Holds stem T) {q : TargetQuery} (hq : q.id ≠ some "_index") :
    ∃ rs, (server.search stem q).run ks = .ok rs ks ∧ SearchAnswer T q rs := by
  cases hqid : q.id with
  | none =>
    -- every indexed id, in byte order
    obtain ⟨ms, hms, hnd, hmem⟩ := h.index
    have hids : ∀ id ∈ sortTexts ms, id ≠ "_index" := fun id hid =>
      h.ne_index ((hmem id).mp ((sortTexts_perm ms).mem_iff.mp hid))
    obtain ⟨rs, hrun, hmap⟩ := h.readRecords q hids
    refine ⟨rs, ?_, searchAnswer_of_entries (sortTexts_strict hnd) (fun id c hc _ => ?_) hmap⟩
    · rw [RedisServer.search, hqid]
      rw [run_bind_ok (run_map_ok (run_adaptExcept_ok (Keyspace.run_smembers hms)))]
      exact hrun
    · exact (sortTexts_perm ms).mem_iff.mpr ((hmem id).mpr (by simp [hc]))
  | some id =>
    -- the one id the query names
    have hid : id ≠ "_index" := fun h' => hq (by rw [hqid, h'])
    have hone : ∀ j ∈ [id], j ≠ "_index" := by simpa using hid
    obtain ⟨rs, hrun, hmap⟩ := h.readRecords q hone
    refine ⟨rs, ?_, searchAnswer_of_entries (List.pairwise_singleton _ _) (fun id' c _ hsel => ?_) hmap⟩
    · rw [RedisServer.search, hqid]
      exact hrun
    · have hname : q.id.all (· = id') = true := by
        simp only [TargetQuery.selects, TargetQuery.matches, Bool.and_eq_true] at hsel
        exact hsel.1.1
      simp only [hqid, Option.all_some, decide_eq_true_eq] at hname
      simp [hname]

/-! ## Registering -/

/-- A registration of an id other than `_index`: when the id has no record, it writes the record's
hash and indexes the id, answering `1`; when the id has one, it answers `0` and writes nothing. -/
theorem create (h : ks.Holds stem T) (stamp : String) {r : TargetRecord} (hr : r.id ≠ "_index") :
    (T r.id = none → ∃ ks', (server.create stem stamp r).run ks = .ok 1 ks' ∧
      ks'.Holds stem fun id => if id = r.id then some r.slot else T id) ∧
    (T r.id ≠ none → (server.create stem stamp r).run ks = .ok 0 ks) := by
  constructor
  · intro hT
    obtain ⟨ms, hms, hnd, hmem⟩ := h.index
    have hkey := h.absent r.id hr hT
    have hout : r.id ∉ ms := by simp [hmem, hT]
    have hne : redisKey stem r.id ≠ redisIndexKey stem := redisKey_ne_index hr
    -- the script writes the record's hash, then adds its id to the index
    let fields := [("id", r.id), ("occupied", redisFlag r.occupied), ("holder", r.holder),
      ("updated_at", stamp)]
    let ks1 := ks.put (redisKey stem r.id) (.hash (Keyspace.setFields [] fields))
    have hset := Keyspace.run_hset (Keyspace.hashAt_of_get_none hkey) fields
    have hget1 : ks1.get (redisIndexKey stem) = ks.get (redisIndexKey stem) := by
      rw [Keyspace.get_put, if_neg hne.symm]
    have hms1 : ks1.setAt (redisIndexKey stem) = some ms := by
      rw [Keyspace.setAt_congr hget1]
      exact hms
    have hadd := Keyspace.run_sadd hms1 [r.id]
    let ks2 := ks1.put (redisIndexKey stem) (.set (Keyspace.addMembers ms [r.id]))
    have hscript :
        (server.createScript (redisKey stem r.id) (redisIndexKey stem) r stamp).run ks = .ok 1 ks2 := by
      rw [RedisServer.createScript, run_bind_ok (Keyspace.run_keyExists ks _), hkey]
      simp only [Option.isSome_none, Bool.false_eq_true, if_false]
      rw [run_bind_ok hset, run_bind_ok hadd]
      rfl
    have hkey2 : ks2.get (redisKey stem r.id) = some (.hash (Keyspace.setFields [] fields)) := by
      simp [ks2, ks1, Keyspace.get_put, hne]
    refine ⟨ks2, run_adaptExcept_ok hscript, h.put_record hr hkey2 ?_ ?_ ?_ ?_⟩
    · simp [fields, Keyspace.lookup_setFields, List.lookup_cons, TargetRecord.slot]
    · simp [fields, Keyspace.lookup_setFields, List.lookup_cons, TargetRecord.slot]
    · refine ⟨ms ++ [r.id], ?_, ?_, fun id' => ?_⟩
      · rw [← Keyspace.addMembers_singleton hout]
        exact Keyspace.setAt_put_set _ _ _
      · refine List.nodup_append.mpr ⟨hnd, List.nodup_singleton _, ?_⟩
        rintro a ha b hb rfl
        exact hout (List.mem_singleton.mp hb ▸ ha)
      · simp only [List.mem_append, List.mem_singleton, hmem]
        tauto
    · intro id' hid' hidx
      have hne' : redisKey stem id' ≠ redisIndexKey stem := redisKey_ne_index hidx
      have hkey' : redisKey stem id' ≠ redisKey stem r.id := fun heq => hid' (redisKey_inj.mp heq)
      simp [ks2, ks1, Keyspace.get_put, hne', hkey']
  · intro hT
    obtain ⟨c, hc⟩ := Option.ne_none_iff_exists'.mp hT
    obtain ⟨fs, hget, -, -⟩ := h.record r.id c hc
    have hscript :
        (server.createScript (redisKey stem r.id) (redisIndexKey stem) r stamp).run ks = .ok 0 ks := by
      rw [RedisServer.createScript, run_bind_ok (Keyspace.run_keyExists ks _), hget]
      rfl
    exact run_adaptExcept_ok hscript

/-! ## Updating -/

/-- The update script on the record of an id other than `_index`, for a filter that names no other
id: it patches the record when the filter selects it, answering `1`, and otherwise answers `0` and
writes nothing. -/
theorem updateScript (h : ks.Holds stem T) (stamp : String) {f : TargetQuery} (p : TargetPatch)
    {id : String} (hid : id ≠ "_index") (hf : f.id.all (· = id) = true) :
    ∃ ks', (server.updateScript (redisKey stem id) f p stamp).run ks =
        .ok (if (T id).any (f.selects id) then 1 else 0) ks' ∧
      ks'.Holds stem fun j =>
        if j = id then (T id).map (fun c => if f.selects id c then p.applySlot c else c) else T j := by
  -- a record the filter leaves alone keeps the table as it was
  have hkeep : ∀ c, T id = some c → f.selects id c = false →
      (fun j => if j = id then (T id).map (fun c => if f.selects id c then p.applySlot c else c)
        else T j) = T := by
    intro c hc hsel
    funext j
    by_cases hj : j = id
    · subst hj
      simp [hc, hsel]
    · rw [if_neg hj]
  cases hT : T id with
  | none =>
    -- no key: the script answers `0` and writes nothing
    have htable : (fun j => if j = id then (none : Option Slot) else T j) = T := by
      funext j
      by_cases hj : j = id
      · rw [hj, hT, if_pos rfl]
      · rw [if_neg hj]
    refine ⟨ks, ?_, ?_⟩
    · rw [RedisServer.updateScript, run_bind_ok (Keyspace.run_keyExists ks _), h.absent id hid hT]
      rfl
    · simp only [Option.map_none]
      rw [htable]
      exact h
  | some c =>
    rw [← hT]
    obtain ⟨fs, hget, hocc, hhold⟩ := h.record id c hT
    have hhash := Keyspace.hashAt_of_get_hash hget
    -- the script's checks read the slot the filter asks about
    have hcheckOcc : (f.occupied.map redisFlag).all (fun w => fs.lookup "occupied" == some w) =
        f.occupied.all (· = c.occupied) := by
      cases f.occupied with
      | none => rfl
      | some v =>
        simp only [Option.map_some, Option.all_some, hocc]
        refine Bool.eq_iff_iff.mpr ?_
        simp only [beq_iff_eq, Option.some.injEq, redisFlag_inj, decide_eq_true_eq]
        exact eq_comm
    have hcheckHold : f.holder.all (fun w => fs.lookup "holder" == some w) =
        f.holder.all (· = c.holder) := by
      cases f.holder with
      | none => rfl
      | some v =>
        simp only [Option.all_some, hhold]
        refine Bool.eq_iff_iff.mpr ?_
        simp only [beq_iff_eq, Option.some.injEq, decide_eq_true_eq]
        exact eq_comm
    have hsel : f.selects id c = (f.occupied.all (· = c.occupied) && f.holder.all (· = c.holder)) := by
      simp only [TargetQuery.selects, TargetQuery.matches, hf, Bool.true_and]
    rw [RedisServer.updateScript, run_bind_ok (Keyspace.run_keyExists ks _), hget]
    simp only [Option.isSome_some, Bool.not_true, Bool.false_eq_true, if_false]
    rw [run_bind_ok (Keyspace.run_fieldHolds hhash "occupied" _), hcheckOcc]
    cases ho : f.occupied.all (· = c.occupied) with
    | false =>
      have hs : f.selects id c = false := by rw [hsel, ho, Bool.false_and]
      refine ⟨ks, ?_, ?_⟩
      · simp [hT, hs]
      · rw [hkeep c hT hs]
        exact h
    | true =>
      simp only [Bool.not_true, Bool.false_eq_true, if_false]
      rw [run_bind_ok (Keyspace.run_fieldHolds hhash "holder" _), hcheckHold]
      cases hh : f.holder.all (· = c.holder) with
      | false =>
        have hs : f.selects id c = false := by rw [hsel, ho, hh, Bool.true_and]
        refine ⟨ks, ?_, ?_⟩
        · simp [hT, hs]
        · rw [hkeep c hT hs]
          exact h
      | true =>
        -- selected: the patched fields and the stamp are written to the record's hash
        have hs : f.selects id c = true := by rw [hsel, ho, hh, Bool.true_and]
        obtain ⟨ks1, h1, hk1, ho1⟩ := Keyspace.run_setField hget "occupied" (p.occupied.map redisFlag)
        obtain ⟨ks2, h2, hk2, ho2⟩ := Keyspace.run_setField hk1 "holder" p.holder
        have h3 := Keyspace.run_hset (Keyspace.hashAt_of_get_hash hk2) [("updated_at", stamp)]
        let ks3 := ks2.put (redisKey stem id) (.hash (Keyspace.setFields
          (Keyspace.setFields (Keyspace.setFields fs ((p.occupied.map redisFlag).toList.map
            ("occupied", ·))) (p.holder.toList.map ("holder", ·))) [("updated_at", stamp)]))
        have hframe : ∀ k', k' ≠ redisKey stem id → ks3.get k' = ks.get k' := by
          intro k' hk'
          simp only [ks3, Keyspace.get_put, hk', if_false]
          rw [ho2 k' hk', ho1 k' hk']
        have hkey3 : ks3.get (redisKey stem id) = some (.hash (Keyspace.setFields
            (Keyspace.setFields (Keyspace.setFields fs ((p.occupied.map redisFlag).toList.map
              ("occupied", ·))) (p.holder.toList.map ("holder", ·))) [("updated_at", stamp)])) := by
          simp [ks3, Keyspace.get_put]
        refine ⟨ks3, ?_, ?_⟩
        · simp only [Bool.not_true, Bool.false_eq_true, if_false]
          rw [run_bind_ok h1, run_bind_ok h2, run_bind_ok h3]
          simp [hT, hs]
          rfl
        · simp only [hT, Option.map_some, hs, if_true]
          refine h.put_record hid hkey3 ?_ ?_ ?_ fun id' hid' _ => hframe _ ?_
          · rw [Keyspace.lookup_setFields, Keyspace.lookup_setFields_field,
              Keyspace.lookup_setFields_field]
            cases hpo : p.occupied <;> simp [List.lookup_cons, hocc, hpo, TargetPatch.applySlot]
          · rw [Keyspace.lookup_setFields, Keyspace.lookup_setFields_field,
              Keyspace.lookup_setFields_field]
            cases hph : p.holder <;> simp [List.lookup_cons, hhold, hph, TargetPatch.applySlot]
          · obtain ⟨ms, hms, hnd, hmem⟩ := h.index
            refine ⟨ms, ?_, hnd, fun id' => ?_⟩
            · rw [Keyspace.setAt_congr (hframe _ (redisKey_ne_index hid).symm)]
              exact hms
            · rw [hmem]
              constructor
              · exact Or.inr
              · rintro (rfl | h')
                · simp [hT]
                · exact h'
          · exact fun heq => hid' (redisKey_inj.mp heq)

/-- The update script on each of some ids without repeats, none of them `_index`, for a filter
that names no other id: how many records it selects among them, each of those patched. -/
theorem updateEach (stamp : String) (f : TargetQuery) (p : TargetPatch) :
    ∀ {ids : List String} {T : String → Option Slot} {ks : Keyspace}, ks.Holds stem T →
      ids.Nodup → (∀ id ∈ ids, id ≠ "_index" ∧ f.id.all (· = id) = true) →
      ∃ ks', (server.updateEach stem stamp f p ids).run ks =
          .ok (ids.countP fun id => (T id).any (f.selects id)) ks' ∧
        ks'.Holds stem fun j =>
          if j ∈ ids then (T j).map (fun c => if f.selects j c then p.applySlot c else c) else T j
  | [], T, ks, h, _, _ => ⟨ks, rfl, by simpa using h⟩
  | id :: ids, T, ks, h, hnd, hids => by
    obtain ⟨hidx, hf⟩ := hids id (List.mem_cons_self ..)
    obtain ⟨hout, hnd'⟩ := List.nodup_cons.mp hnd
    obtain ⟨ks1, h1, hold1⟩ := h.updateScript stamp p hidx hf
    obtain ⟨ks2, h2, hold2⟩ :=
      updateEach stamp f p hold1 hnd' fun j hj => hids j (List.mem_cons_of_mem _ hj)
    -- the ids after the first see the table as it was before the first was patched
    have hrest : ∀ j ∈ ids, j ≠ id := fun j hj hji => hout (hji ▸ hj)
    refine ⟨ks2, ?_, ?_⟩
    · rw [RedisServer.updateEach, run_bind_ok (run_adaptExcept_ok h1), run_bind_ok h2]
      have hcount : (ids.countP fun j =>
            ((if j = id then (T id).map (fun c => if f.selects id c then p.applySlot c else c)
              else T j).any (f.selects j))) = ids.countP fun j => (T j).any (f.selects j) :=
        List.countP_congr fun j hj => by rw [if_neg (hrest j hj)]
      rw [hcount, List.countP_cons, Nat.add_comm]
      rfl
    · convert hold2 using 2 with j
      by_cases hj : j = id
      · subst hj
        simp [hout]
      · by_cases hjs : j ∈ ids <;> simp [hj, hjs]

/-- Whether a query that names an id selects a record: only the record of that id. -/
theorem selects_named {f : TargetQuery} {x id : String} {c : Slot} (hx : f.id = some x)
    (h : f.selects id c = true) : id = x := by
  simp only [TargetQuery.selects, TargetQuery.matches, hx, Option.all_some, Bool.and_eq_true,
    decide_eq_true_eq] at h
  exact h.1.1.symm

/-- An update whose filter does not name `_index`: it patches exactly the records the filter
selects and answers how many they are. -/
theorem update (h : ks.Holds stem T) (stamp : String) {f : TargetQuery} (p : TargetPatch)
    (hf : f.id ≠ some "_index") :
    ∃ ks', (server.update stem stamp f p).run ks = .ok (selectedCount T f) ks' ∧
      ks'.Holds stem fun id => (T id).map fun c => if f.selects id c then p.applySlot c else c := by
  cases hfid : f.id with
  | none =>
    -- every indexed id, which are the ids with a record
    obtain ⟨ms, hms, hnd, hmem⟩ := h.index
    obtain ⟨ks', hrun, hold⟩ := updateEach stamp f p h hnd fun id hid =>
      ⟨h.ne_index ((hmem id).mp hid), by simp [hfid]⟩
    refine ⟨ks', ?_, ?_⟩
    · rw [RedisServer.update, hfid, run_bind_ok (run_adaptExcept_ok (Keyspace.run_smembers hms)),
        hrun, selectedCount_eq_countP hnd fun id c hc _ => (hmem id).mpr (by simp [hc])]
    · convert hold using 2 with id
      by_cases hid : id ∈ ms
      · simp [hid]
      · have hnone : T id = none := by simpa [hmem] using hid
        simp [hid, hnone]
  | some x =>
    -- the one id the filter names
    have hx : x ≠ "_index" := fun h' => hf (by rw [hfid, h'])
    obtain ⟨ks', hrun, hold⟩ := updateEach stamp f p h (List.nodup_singleton x)
      (by simp [hfid, hx])
    refine ⟨ks', ?_, ?_⟩
    · rw [RedisServer.update, hfid]
      rw [run_bind_ok (run_pure _ _), hrun,
        selectedCount_eq_countP (List.nodup_singleton x) fun id c _ hsel => by
          simp [selects_named hfid hsel]]
    · convert hold using 2 with id
      by_cases hid : id = x
      · simp [hid]
      · have hsel : ∀ c, f.selects id c = false := fun c => by
          by_contra hs
          exact hid (selects_named hfid (by simpa using hs))
        simp [hid, hsel]

end Keyspace.Holds

/-! ## The client as a lock backend -/

/-- Whether a call names the id `id`: a search or an update whose query gives it, or a
registration of it. -/
def Call.Names (id : String) : Call → Prop
  | .search q => q.id = some id
  | .create r => r.id = id
  | .update f _ => f.id = some id

namespace Keyspace.Holds

variable {stem : String} {T : String → Option Slot} {ks : Keyspace}

/-- A call that does not name `_index`, from a keyspace that lays out `T`, answers as `T` does and
leaves a keyspace that lays out `T` changed by the call. -/
theorem perform (h : ks.Holds stem T) (now : Instant) {c : Call} (hc : ¬ c.Names "_index") :
    c.Answers ((redisBackend stem now server).perform c ks).1 T ∧
      ((redisBackend stem now server).perform c ks).2.Holds stem
        (c.effect ((redisBackend stem now server).perform c ks).1 T) := by
  cases c with
  | search q =>
    obtain ⟨rs, hrun, hans⟩ := h.search hc
    have hsearch : (redisBackend stem now server).search q ks = .ok rs := by
      simp only [redisBackend, hrun]
    simp only [LockBackend.perform, hsearch]
    exact ⟨hans, h⟩
  | create r =>
    have hr : r.id ≠ "_index" := hc
    by_cases hT : T r.id = none
    · -- a new id: registered
      obtain ⟨ks', hrun, hold⟩ := (h.create now.format hr).1 hT
      have hcreate : (redisBackend stem now server).create r ks = .ok ks' := by
        simp only [redisBackend, hrun]
      simp only [LockBackend.perform, hcreate]
      exact ⟨hT, hold⟩
    · -- a taken id: refused
      have hrun := (h.create now.format hr).2 hT
      have hcreate : (redisBackend stem now server).create r ks = .error .registered := by
        simp only [redisBackend, hrun]
      simp only [LockBackend.perform, hcreate]
      exact ⟨⟨rfl, hT⟩, h⟩
  | update f p =>
    obtain ⟨ks', hrun, hold⟩ := h.update now.format p hc
    have hupdate : (redisBackend stem now server).update f p ks = .ok (selectedCount T f, ks') := by
      simp only [redisBackend, hrun]
    simp only [LockBackend.perform, hupdate]
    exact ⟨rfl, hold⟩

end Keyspace.Holds

/-- A registration of `_index` never succeeds, whatever the server holds. Once the index exists,
the record's key is taken by it and the registration is refused as `registered`; before that, the
script writes the record's hash at the index's key and then fails to add the id to the index. -/
theorem redisBackend_create_index (stem : String) (now : Instant) (ks : Keyspace)
    {r : TargetRecord} (hr : r.id = "_index") :
    (redisBackend stem now Keyspace.server).create r ks =
      .error (if (ks.get (redisIndexKey stem)).isSome then .registered
        else .remote ("create: " ++ Keyspace.wrongType)) := by
  have hkey : redisKey stem r.id = redisIndexKey stem := by
    rw [hr]
    rfl
  cases hget : ks.get (redisIndexKey stem) with
  | some v =>
    have hrun : (Keyspace.server.create stem now.format r).run ks = .ok 0 ks := by
      refine run_adaptExcept_ok ?_
      rw [RedisServer.createScript, hkey, run_bind_ok (Keyspace.run_keyExists ks _), hget]
      rfl
    simp [redisBackend, hrun]
  | none =>
    -- the record's hash goes to the index's key, where the id cannot then be added to a set
    let fields := [("id", r.id), ("occupied", redisFlag r.occupied), ("holder", r.holder),
      ("updated_at", now.format)]
    let ks1 := ks.put (redisIndexKey stem) (.hash (Keyspace.setFields [] fields))
    have hset := Keyspace.run_hset (Keyspace.hashAt_of_get_none hget) fields
    have hnone : ks1.setAt (redisIndexKey stem) = none := by
      simp [ks1, Keyspace.setAt, Keyspace.get_put]
    have hrun : (Keyspace.server.create stem now.format r).run ks =
        .error ("create: " ++ Keyspace.wrongType) ks1 := by
      refine EStateM.run_adaptExcept_error ?_
      rw [RedisServer.createScript, hkey, run_bind_ok (Keyspace.run_keyExists ks _), hget]
      simp only [Option.isSome_none, Bool.false_eq_true, if_false]
      rw [run_bind_ok hset, EStateM.run_bind_error (Keyspace.run_sadd_wrongType hnone [r.id])]
    simp [redisBackend, hrun]

/-- From a keyspace that lays out `T`, the Redis client answers every sequence of calls that do not
name `_index` as the table does. -/
theorem redisBackend_answersAsTable (stem : String) (now : Instant) :
    ∀ {cs : List Call} {T : String → Option Slot} {ks : Keyspace}, ks.Holds stem T →
      (∀ c ∈ cs, ¬ c.Names "_index") →
        (redisBackend stem now Keyspace.server).AnswersAsTable cs ks T
  | [], _, _, _, _ => trivial
  | c :: cs, _, _, h, hn => by
    obtain ⟨hans, hold⟩ := h.perform now (hn c (List.mem_cons_self ..))
    exact ⟨hans, redisBackend_answersAsTable stem now hold
      fun c' hc' => hn c' (List.mem_cons_of_mem _ hc')⟩

/-- After any calls that do not name `_index`, a registration of `_index` is answered otherwise
than the table answers it. -/
theorem redisBackend_index_not_answered (stem : String) (now : Instant) :
    ∀ {cs : List Call} {T : String → Option Slot} {ks : Keyspace}, ks.Holds stem T →
      (∀ c ∈ cs, ¬ c.Names "_index") → ∀ {r : TargetRecord}, r.id = "_index" →
        ¬ (redisBackend stem now Keyspace.server).AnswersAsTable (cs ++ [.create r]) ks T
  | [], _, _, h, _, _, hr, hans => by
    -- the table takes the registration, the client refuses it
    have hanswer := hans.1
    simp only [LockBackend.perform, redisBackend_create_index stem now _ hr] at hanswer
    exact hanswer.2 (hr ▸ h.indexFree)
  | c :: cs, _, _, h, hn, _, hr, hans => by
    obtain ⟨-, hold⟩ := h.perform now (hn c (List.mem_cons_self ..))
    exact redisBackend_index_not_answered stem now hold
      (fun c' hc' => hn c' (List.mem_cons_of_mem _ hc')) hr hans.2

end TestDispatch
