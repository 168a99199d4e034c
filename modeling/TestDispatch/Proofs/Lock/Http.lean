import TestDispatch.Lock.Http
import TestDispatch.Proofs.Lock.Redis
import TestDispatch.Proofs.LockServer.Access
import TestDispatch.Proofs.Reporting.Call
/-!
# The HTTP backend against the lock table

Over the lock server (`LockServer.Server.http`), the HTTP client performs every valid call as the
server's store does, so it answers as the store's table does. Each call goes through four steps,
each a lemma here: the client writes its request, the server reads it back
(`SearchRequest.read_searchBody`, `CreateRequest.read_createBody`,
`UpdateRequest.read_updateBody`), grants the client's keys the write role
(`HttpClient.authorize_request`) and answers in an envelope, and the client reads the envelope and
its data back (`Envelope.decode_ok`, `readRecords_toJson`, `UpdateResult.read_matched`). A
registration whose id is taken is answered with status 409, which the client takes as
`registered` whatever the body says (`HttpClient.exchange_status`).

What the round trip needs is stated once, as `HttpClient.Serves`: the client may write; the store
is ordered; every time in it has an RFC 3339 form that reads back as itself (`Instant.Shown`); and
a count still fits a 64-bit integer. Records a registration sends must have such times too
(`Call.Shown`), and so must the server's clock, since it stamps what it writes.

* `LockServer.httpBackend_search`, `httpBackend_create`, `httpBackend_update`: each primitive
  answers as the store does, and the server keeps the store the primitive leaves;
* `HttpClient.Serves.step`: so does one call, after which the server serves the client for one
  call less;
* `httpBackend_answersAsTable`: so the client answers every sequence of valid calls as the table
  does, by simulation of the store (`LockBackend.AnswersAsTable.of_simulation`).
-/

namespace TestDispatch

open Json

/-! ## Times and written forms -/

/-- An instant that its RFC 3339 form shows exactly: a year of four digits, a zone a whole number
of minutes less than a day away from UTC, and fewer nanoseconds than a second has. -/
structure Instant.Shown (t : Instant) : Prop where
  year : t.yearInRange
  minutes : t.offset % 60 = 0
  day : t.offset.natAbs < 86400
  nanos : t.nanos < Nat.pow 10 9

theorem Instant.Shown.readStrict {t : Instant} (h : t.Shown) : Instant.readStrict t.format = .ok t :=
  Instant.readStrict_format h.year h.minutes h.day h.nanos

theorem Instant.Shown.marshalError {t : Instant} (h : t.Shown) : t.marshalError? = none := by
  have h24 : ¬ (t.offset.natAbs / 3600 ≥ 24) := by have := h.day; omega
  simp [Instant.marshalError?, h.year, h24]

theorem TargetQuery.numberFree_toJson (q : TargetQuery) : q.toJson.numberFree = true := by
  rcases q with ⟨_ | _, _ | _, _ | _⟩ <;>
    simp [TargetQuery.toJson, Value.numberFree, Value.membersNumberFree]

theorem TargetPatch.numberFree_toJson (p : TargetPatch) : p.toJson.numberFree = true := by
  rcases p with ⟨_ | _, _ | _⟩ <;>
    simp [TargetPatch.toJson, Value.numberFree, Value.membersNumberFree]

theorem TargetRecord.numberFree_toJson (r : TargetRecord) : r.toJson.numberFree = true := by
  simp [TargetRecord.toJson, Value.numberFree, Value.membersNumberFree]

/-- Whether a registration's record, if the call is one, has a time its form shows exactly: the
HTTP client writes the record with its time. -/
def Call.Shown : Call → Prop
  | .create r => r.updatedAt.Shown
  | _ => True

/-- A conflict is answered with status 409. -/
theorem ApiError.status_conflict (resource id : String) : (ApiError.conflict resource id).status = 409 :=
  rfl

theorem TargetRecord.intLiterals_toJson (r : TargetRecord) : IntLiterals r.toJson := by
  simp [TargetRecord.toJson]

/-! ## The server reads what the client writes -/

/-- A record written with a time its form shows exactly reads back as itself, whatever it is read
over. -/
theorem decodeRecord_record_toJson (s : Site) (typeName : String) {r : TargetRecord}
    (ht : r.updatedAt.Shown) (init : TargetRecord) (st : Option String) :
    (decodeRecord s typeName (LockServer.recordFields s) r.toJson init).run st = pure (r, st) := by
  simp only [decodeRecord, TargetRecord.toJson, decodeMembers, select, LockServer.recordFields,
    List.foldlM_cons, List.foldlM_nil, decodeText, decodeFlag, decodeTime, ht.readStrict,
    bind_pure_comp, decide_true, List.find?_cons_of_pos, map_pure, String.reduceEq, decide_false,
    Bool.false_eq_true, not_false_eq_true, List.find?_cons_of_neg, bind_pure, StateT.run_pure]

/-- A written query reads back as itself over the empty query: a part it lacks stays absent. -/
theorem decodeRecord_query_toJson (s : Site) (typeName : String) (q : TargetQuery)
    (st : Option String) :
    (decodeRecord s typeName (LockServer.queryFields s) q.toJson {}).run st = pure (q, st) := by
  rcases q with ⟨_ | _, _ | _, _ | _⟩ <;>
  simp only [decodeRecord, TargetQuery.toJson, decodeMembers, select, LockServer.queryFields,
    List.foldlM_cons, List.foldlM_nil, decodeOptText, decodeOptFlag, Option.map_none, Option.map_some,
    Option.getD_none, Option.getD_some, List.nil_append, List.cons_append, List.append_nil,
    bind_pure_comp, decide_true, List.find?_cons_of_pos, map_pure, String.reduceEq, decide_false,
    Bool.false_eq_true, not_false_eq_true, List.find?_cons_of_neg, bind_pure, StateT.run_pure]

/-- A written patch reads back as itself over the empty patch. -/
theorem decodeRecord_patch_toJson (s : Site) (typeName : String) (p : TargetPatch)
    (st : Option String) :
    (decodeRecord s typeName (LockServer.patchFields s) p.toJson {}).run st = pure (p, st) := by
  rcases p with ⟨_ | _, _ | _⟩ <;>
  simp only [decodeRecord, TargetPatch.toJson, decodeMembers, select, LockServer.patchFields,
    List.foldlM_cons, List.foldlM_nil, decodeOptText, decodeOptFlag, Option.map_none, Option.map_some,
    Option.getD_none, Option.getD_some, List.nil_append, List.cons_append, List.append_nil,
    bind_pure_comp, decide_true, List.find?_cons_of_pos, map_pure, String.reduceEq, decide_false,
    Bool.false_eq_true, not_false_eq_true, List.find?_cons_of_neg, bind_pure, StateT.run_pure]

/-- The first value of a written text without numbers is the value written. -/
theorem decodeFirst_write {α : Type} (site : Site) (init : α)
    (fields : Site → List (String × (Value → α → Decoding α))) {v : Value}
    (hv : v.numberFree = true) :
    decodeFirst site init fields (v.write true) = decodeValue site init fields v := by
  rw [decodeFirst, Utf8.toUTF8_toList, ← List.append_nil (Utf8.encode _), readFirst_write hv]

theorem SearchRequest.read_searchBody (q : TargetQuery) :
    LockServer.SearchRequest.read ((searchBody q).write true) = .ok { query := q } := by
  have hv : (searchBody q).numberFree = true := by
    simp [searchBody, Value.numberFree, Value.membersNumberFree, q.numberFree_toJson]
  rw [LockServer.SearchRequest.read, decodeFirst_write _ _ _ hv]
  simp only [decodeValue, searchBody, decodeMembers, select, List.foldlM_cons, List.foldlM_nil,
    decide_true, List.find?_cons_of_pos, bind_pure_comp, bind_pure]
  rw [StateT.run_map, decodeRecord_query_toJson]
  rfl

theorem UpdateRequest.read_updateBody (f : TargetQuery) (p : TargetPatch) :
    LockServer.UpdateRequest.read ((updateBody f p).write true) = .ok { filter := f, patch := p } := by
  have hv : (updateBody f p).numberFree = true := by
    simp [updateBody, Value.numberFree, Value.membersNumberFree, f.numberFree_toJson,
      p.numberFree_toJson]
  rw [LockServer.UpdateRequest.read, decodeFirst_write _ _ _ hv]
  simp only [decodeValue, updateBody, decodeMembers, select, List.foldlM_cons, List.foldlM_nil,
    decide_true, List.find?_cons_of_pos, String.reduceEq, decide_false, Bool.false_eq_true,
    not_false_eq_true, List.find?_cons_of_neg, bind_pure_comp, bind_pure, StateT.run_bind,
    StateT.run_map, decodeRecord_query_toJson, map_pure, pure_bind, decodeRecord_patch_toJson]
  rfl

theorem CreateRequest.read_createBody {r : TargetRecord} (ht : r.updatedAt.Shown) :
    LockServer.CreateRequest.read ((createBody r).write true) = .ok { record := r } := by
  have hv : (createBody r).numberFree = true := by
    simp [createBody, Value.numberFree, Value.membersNumberFree, r.numberFree_toJson]
  rw [LockServer.CreateRequest.read, decodeFirst_write _ _ _ hv]
  simp only [decodeValue, createBody, decodeMembers, select, List.foldlM_cons, List.foldlM_nil,
    decide_true, List.find?_cons_of_pos, bind_pure_comp, bind_pure]
  rw [StateT.run_map, decodeRecord_record_toJson _ _ ht]
  rfl

/-! ## The client's keys -/

namespace HttpClient

variable (c : HttpClient) (method path : String) (body : Option Value)

/-- A client's request carries its keys, the server reading an empty key as none. -/
theorem request_keys :
    (c.request method path body).header "X-Read-Key" = c.readKey ∧
      (c.request method path body).header "X-Write-Key" = c.writeKey := by
  have hread : Http.canonicalKey "X-Read-Key" = "X-Read-Key" := by
    simp [Http.canonicalKey, Http.isTokenChar, Http.canonicalKey.go]
  have hwrite : Http.canonicalKey "X-Write-Key" = "X-Write-Key" := by
    simp [Http.canonicalKey, Http.isTokenChar, Http.canonicalKey.go]
  cases body <;> by_cases hr : c.readKey = "" <;> by_cases hw : c.writeKey = "" <;>
    simp [Http.Request.header, request, hread, hwrite, hr, hw]

/-- A client may write to a server that requires no keys, or whose write keys hold the client's
write key. -/
def MayWrite (c : HttpClient) (s : LockServer.Server) : Prop :=
  s.authEnabled = false ∨ (c.writeKey ≠ "" ∧ c.writeKey ∈ s.writeKeys)

/-- Whether a client may write depends on the server's keys alone. -/
theorem MayWrite.congr {c : HttpClient} {s s' : LockServer.Server} (h : c.MayWrite s)
    (hr : s'.readKeys = s.readKeys) (hw : s'.writeKeys = s.writeKeys) : c.MayWrite s' := by
  unfold MayWrite LockServer.Server.authEnabled at *
  rw [hr, hw]
  exact h

theorem authorize_request {s : LockServer.Server} (hw : c.MayWrite s) :
    s.authorize (c.request method path body) = .ok .write := by
  unfold LockServer.Server.authorize
  by_cases hen : s.authEnabled = true
  · obtain ⟨hne, hmem⟩ : c.writeKey ≠ "" ∧ c.writeKey ∈ s.writeKeys := hw.resolve_left (by simp [hen])
    simp [hen, (request_keys c method path body).1, (request_keys c method path body).2, hne,
      LockServer.Server.resolve, hmem]
  · simp [hen]

end HttpClient

/-! ## The client reads the server's envelope -/

/-- A member that names none of the fields, exactly or up to case, selects none. -/
theorem select_eq_none {β : Type} {fields : List (String × β)} {member : String}
    (h : ∀ name ∈ fields.map Prod.fst, name ≠ member ∧ namesField member name = false) :
    select fields member = none := by
  have hexact : fields.find? (·.1 = member) = none :=
    List.find?_eq_none.mpr fun f hf => by simpa using (h f.1 (List.mem_map_of_mem hf)).1
  have hfolded : fields.find? (fun f => namesField member f.1) = none :=
    List.find?_eq_none.mpr fun f hf => by simpa using (h f.1 (List.mem_map_of_mem hf)).2
  simp [select, hexact, hfolded]

theorem Envelope.names_fields (s : Site) : (Envelope.fields s).map Prod.fst = ["status", "data", "error"] :=
  rfl

theorem Envelope.select_requestId (s : Site) : select (Envelope.fields s) "request_id" = none := by
  refine select_eq_none ?_
  rw [Envelope.names_fields]
  decide

theorem Envelope.select_timestamp (s : Site) : select (Envelope.fields s) "timestamp" = none := by
  refine select_eq_none ?_
  rw [Envelope.names_fields]
  decide

theorem Envelope.decode_ok (now : Instant) (rid : String) (status : Nat) {data : Value}
    (hdata : IntLiterals data) :
    Envelope.decode (LockServer.envelope now rid (.ok status data)).2.toUTF8.toList =
      .ok { status := "ok", data := some data } := by
  have hnl : Utf8.encode "\n" = [0x0A] := by decide
  rw [Envelope.decode, decodeWhole, LockServer.envelope, Utf8.toUTF8_toList, Utf8.encode_append, hnl,
    readWhole_write_newline (by simp [hdata]) (by simp)]
  simp only [decodeValue, decodeMembers, List.foldlM_cons, List.foldlM_nil, Envelope.select_requestId,
    Envelope.select_timestamp]
  simp only [select, Envelope.fields, decide_true, List.find?_cons_of_pos,
    String.reduceEq, decide_false, Bool.false_eq_true, not_false_eq_true, List.find?_cons_of_neg,
    decodeText, Envelope.decodeError, bind_pure_comp, map_pure, bind_pure, StateT.run_pure]
  rfl

/-! ## Exchanges -/

open TestDispatch.EStateM (run_bind_ok run_adaptExcept_ok)

namespace HttpClient

variable {σ : Type} {c : HttpClient} {srv : HttpServer σ} {method path : String}
  {body : Option Value} {st st' : σ} {resp : Http.Response}

/-- An answer that reads as an envelope without error, with a status below 400, gives its status
and its data. -/
theorem exchange_ok (hsend : (srv.send (c.request method path body)).run st = .ok resp st')
    {env : Envelope} (henv : Envelope.decode resp.body.toUTF8.toList = .ok env)
    (herror : env.error = none) (hstatus : resp.status < 400) :
    (c.exchange srv method path body).run st = .ok (resp.status, env.data) st' := by
  unfold exchange
  rw [run_bind_ok (run_adaptExcept_ok hsend)]
  simp only [henv, herror, Nat.not_le.mpr hstatus, if_false]
  rfl

/-- An answer with a status of 400 or above is a failure with that status, whatever its body. -/
theorem exchange_status (hsend : (srv.send (c.request method path body)).run st = .ok resp st')
    (hstatus : 400 ≤ resp.status) :
    ∃ f, (c.exchange srv method path body).run st = .error f st' ∧ f.status = resp.status := by
  unfold exchange
  rw [run_bind_ok (run_adaptExcept_ok hsend)]
  rcases hdec : Envelope.decode resp.body.toUTF8.toList with e | env
  · refine ⟨_, rfl, ?_⟩
    rfl
  · cases herr : env.error with
    | some e =>
      simp only [herr]
      refine ⟨_, rfl, ?_⟩
      rfl
    | none =>
      simp only [herr, if_pos hstatus]
      refine ⟨_, rfl, ?_⟩
      rfl

/-- A call whose exchange gives data that `read` reads answers what it reads. -/
theorem fetch_ok {α : Type} {read : Value → Except String α} {init a : α} {status : Nat} {v : Value}
    (hx : (c.exchange srv method path body).run st = .ok (status, some v) st')
    (hread : read v = .ok a) :
    (c.fetch srv method path body read init).run st = .ok a st' := by
  unfold fetch
  rw [run_bind_ok hx]
  simp only [hread]
  rfl

end HttpClient

/-! ## The data of answers -/

/-- Records written with times their form shows exactly read back, one by one. -/
theorem mapM_decodeRecord_toJson {rs : List TargetRecord} (h : ∀ r ∈ rs, r.updatedAt.Shown)
    (st : Option String) :
    ((rs.map TargetRecord.toJson).mapM fun item => decodeRecord recordSite "model.TargetRecord"
      (LockServer.recordFields recordSite) item { id := "" }).run st = pure (rs, st) := by
  induction rs with
  | nil => rfl
  | cons r rs ih =>
    have hr := h r List.mem_cons_self
    have hrs := ih fun x hx => h x (List.mem_cons_of_mem r hx)
    simp only [List.map_cons, List.mapM_cons, StateT.run_bind, decodeRecord_record_toJson _ _ hr,
      pure_bind, hrs]
    rfl

/-- A search's answer, the written records of times their form shows exactly, reads back as the
records. -/
theorem readRecords_toJson {rs : List TargetRecord} (h : ∀ r ∈ rs, r.updatedAt.Shown) :
    readRecords (.array (rs.map TargetRecord.toJson)) = .ok rs := by
  simp only [readRecords, decodeRecords, mapM_decodeRecord_toJson h]
  rfl

/-- An update's answer, a count that a 64-bit integer holds, reads back as the count. -/
theorem UpdateResult.read_matched {n : Nat} (hn : (n : Int) ≤ int64Max) :
    UpdateResult.read (.object [("matched", .number (Number.ofNat n))]) = .ok { matched := n } := by
  have hint : Number.ofNat n = Number.ofInt n := rfl
  have hmin : int64Min ≤ (n : Int) := le_trans (by decide) (Int.natCast_nonneg n)
  simp [UpdateResult.read, decodeValue, decodeMembers, select, UpdateResult.fields, decodeInt64,
    hint, Number.toInt?_ofInt, hmin, hn]
  rfl

/-! ## The lock server's side of a call -/

namespace LockServer

/-- The server `s'` has the keys of `s` and the store `store`. -/
def Server.Keeps (s : Server) (store : TargetStore) (s' : Server) : Prop :=
  s'.readKeys = s.readKeys ∧ s'.writeKeys = s.writeKeys ∧ s'.store = store

theorem Server.keeps_count {s : Server} (op result : String) :
    s.Keeps s.store (s.count op result) :=
  ⟨rfl, rfl, rfl⟩

theorem Server.Keeps.trans {s s₀ s₁ : Server} {store₀ store₁ : TargetStore}
    (h₀ : s.Keeps store₀ s₀) (h₁ : s₀.Keeps store₁ s₁) : s.Keeps store₁ s₁ :=
  ⟨h₁.1.trans h₀.1, h₁.2.1.trans h₀.2.1, h₁.2.2⟩

/-- A search from a client on an open store answers the records its query selects. -/
theorem search_searchBody {s : Server} (hopen : s.store.isOpen = true) (q : TargetQuery) :
    ∃ s', search s ((searchBody q).write true) =
      (.ok 200 (.array ((s.store.rows.filter q.matches).map TargetRecord.toJson)), s') ∧
      s.Keeps s.store s' := by
  refine ⟨s.count "search" "ok", ?_, Server.keeps_count _ _⟩
  simp [search, SearchRequest.read_searchBody, onStore_search, hopen]

/-- A registration from a client of a valid record on an open store adds the record, stamped
`now`, when its id is free, and is refused as a conflict when it is taken. -/
theorem create_createBody (now : Instant) {s : Server} (hopen : s.store.isOpen = true)
    {r : TargetRecord} (ht : r.updatedAt.Shown) (hid : r.id ≠ "")
    (hholder : r.occupied = true ↔ r.holder ≠ "") :
    (s.store.rows.any (·.id = r.id) = true ∧
      ∃ s', create now s ((createBody r).write true) = (.failed (ApiError.conflict "target" r.id), s')) ∨
    (s.store.rows.any (·.id = r.id) = false ∧
      ∃ s', create now s ((createBody r).write true) = (.ok 201 { r with updatedAt := now }.toJson, s') ∧
        s.Keeps { s.store with rows := TargetStore.insertSorted { r with updatedAt := now } s.store.rows } s') := by
  by_cases htaken : s.store.rows.any (·.id = r.id) = true
  · refine .inl ⟨htaken, s.count "create" "conflict", ?_⟩
    simp [create, CreateRequest.read_createBody ht, hid, hholder, Server.onStore, TargetStore.create_run,
      hopen, htaken]
  · refine .inr ⟨by simpa using htaken, { s with store := { s.store with
      rows := TargetStore.insertSorted { r with updatedAt := now } s.store.rows } }.count "create" "ok",
      ?_, rfl, rfl, rfl⟩
    simp [create, CreateRequest.read_createBody ht, hid, hholder, Server.onStore, TargetStore.create_run,
      hopen, htaken]

/-- A patch from a client with a filter and a patch, on an open store, answers how many records
its filter selects and patches exactly those, stamped `now`. -/
theorem update_updateBody (now : Instant) {s : Server} (hopen : s.store.isOpen = true)
    {f : TargetQuery} {p : TargetPatch} (hf : f.isEmpty = false) (hp : p.isEmpty = false) :
    ∃ s', update now s ((updateBody f p).write true) =
      (.ok 200 (.object [("matched", .number (Number.ofNat (s.store.rows.filter f.matches).length))]), s') ∧
      s.Keeps { s.store with rows := s.store.rows.map (fun x =>
        if f.matches x then { p.apply x with updatedAt := now } else x) } s' := by
  refine ⟨{ s with store := { s.store with rows := s.store.rows.map (fun x =>
      if f.matches x then { p.apply x with updatedAt := now } else x) } }.count "update"
      (if (s.store.rows.filter f.matches).length = 0 then "no_match" else "ok"), ?_, rfl, rfl, rfl⟩
  simp [update, UpdateRequest.read_updateBody, hf, hp, Server.onStore, TargetStore.update_run, hopen]

variable {c : HttpClient} {s : Server} (now : Instant)

theorem targets_search_request (hw : c.MayWrite s) (q : TargetQuery) :
    targets now s (c.request "POST" "/api/v1/targets/search" (some (searchBody q))) "/search" =
      .ok (search s ((searchBody q).write true)) := by
  rw [targets, HttpClient.authorize_request _ _ _ _ hw]
  simp [HttpClient.request, Role.rank]

theorem targets_create_request (hw : c.MayWrite s) (r : TargetRecord) :
    targets now s (c.request "POST" "/api/v1/targets" (some (createBody r))) "/" =
      .ok (create now s ((createBody r).write true)) := by
  rw [targets, HttpClient.authorize_request _ _ _ _ hw]
  simp [HttpClient.request, Role.rank]

theorem targets_update_request (hw : c.MayWrite s) (f : TargetQuery) (p : TargetPatch) :
    targets now s (c.request "PATCH" "/api/v1/targets" (some (updateBody f p))) "/" =
      .ok (update now s ((updateBody f p).write true)) := by
  rw [targets, HttpClient.authorize_request _ _ _ _ hw]
  simp [HttpClient.request, Role.rank]

/-- The lock server routes a client's request under `/api/v1/targets` to `targets` on a server
with the keys and store of `s`, and sends back what `targets` replies, in an envelope. -/
theorem send_targets {method path sub : String} {body : Option Value}
    (hpath : (c.request method path body).path = path) (hsub : targetsPath path = some sub) :
    ∃ s₀, s.Keeps s.store s₀ ∧ ∀ {reply : Reply} {s₁ : Server},
      targets now s₀ (c.request method path body) sub = .ok (reply, s₁) →
      ∃ resp : Http.Response, ((Server.http now).send (c.request method path body)).run s = .ok resp s₁ ∧
        resp.status = reply.status ∧ resp.body = (envelope now resp.requestId reply).2 := by
  rw [← hpath] at hsub
  obtain ⟨s₀, hr, hw, hstore, hhandle⟩ := @handle_targets now s (c.request method path body) sub hsub
  refine ⟨s₀, ⟨hr, hw, hstore⟩, fun {reply s₁} htarget => ?_⟩
  rw [htarget] at hhandle
  obtain ⟨hcode, hbody, hafter⟩ := hhandle
  refine ⟨(s.handle now (c.request method path body)).1, ?_, hcode, hbody⟩
  rw [← hafter]
  rfl

/-- The lock server answers a client's request under `/api/v1/targets` with the envelope of
what `targets` replies on any server with its keys and store. -/
theorem exchange_ok {method path sub : String} {body : Option Value} {status : Nat} {data : Value}
    {store : TargetStore} (hpath : (c.request method path body).path = path)
    (hsub : targetsPath path = some sub) (hstatus : status < 400) (hdata : IntLiterals data)
    (htargets : ∀ s₀, s.Keeps s.store s₀ →
      ∃ s₁, targets now s₀ (c.request method path body) sub = .ok (.ok status data, s₁) ∧
        s.Keeps store s₁) :
    ∃ s', (c.exchange (Server.http now) method path body).run s = .ok (status, some data) s' ∧
      s.Keeps store s' := by
  obtain ⟨s₀, hs₀, hroute⟩ := send_targets now hpath hsub
  obtain ⟨s₁, htarget, hkeeps⟩ := htargets s₀ hs₀
  obtain ⟨resp, hsend, hcode, hbody⟩ := hroute htarget
  have henv := Envelope.decode_ok now resp.requestId status hdata
  rw [← hbody] at henv
  have h := HttpClient.exchange_ok hsend henv rfl (by rw [hcode]; exact hstatus)
  rw [hcode] at h
  exact ⟨s₁, h, hkeeps⟩

/-- A client's request under `/api/v1/targets` that `targets` refuses with an API error fails
with the error's status. -/
theorem exchange_failed {method path sub : String} {body : Option Value} {e : ApiError}
    (hpath : (c.request method path body).path = path) (hsub : targetsPath path = some sub)
    (htargets : ∀ s₀, s.Keeps s.store s₀ →
      ∃ s₁, targets now s₀ (c.request method path body) sub = .ok (.failed e, s₁)) :
    ∃ f s', (c.exchange (Server.http now) method path body).run s = .error f s' ∧ f.status = e.status := by
  obtain ⟨s₀, hs₀, hroute⟩ := send_targets now hpath hsub
  obtain ⟨s₁, htarget⟩ := htargets s₀ hs₀
  obtain ⟨resp, hsend, hcode, -⟩ := hroute htarget
  obtain ⟨f, hf, hfs⟩ := HttpClient.exchange_status hsend (by rw [hcode]; exact e.status_ge)
  exact ⟨f, s₁, hf, hfs.trans hcode⟩

/-! ## The primitives over the lock server -/

/-- Over the lock server with an open store whose times their form shows exactly, a client that
may write searches as the store does. -/
theorem httpBackend_search (hopen : s.store.isOpen = true) (hw : c.MayWrite s)
    (hshown : ∀ r ∈ s.store.rows, r.updatedAt.Shown) (q : TargetQuery) :
    (httpBackend c (Server.http now)).search q s = .ok (s.store.rows.filter q.matches) := by
  have hpath : (c.request "POST" "/api/v1/targets/search" (some (searchBody q))).path =
      "/api/v1/targets/search" := by
    simp [Http.Request.path, HttpClient.request]
  have hsub : targetsPath "/api/v1/targets/search" = some "/search" := by decide
  have hdata : IntLiterals (.array ((s.store.rows.filter q.matches).map TargetRecord.toJson)) := by
    rw [IntLiterals.array_iff]
    intro x hx
    obtain ⟨r, -, rfl⟩ := List.mem_map.mp hx
    exact r.intLiterals_toJson
  obtain ⟨s', hx, -⟩ := exchange_ok now hpath hsub (show 200 < 400 by decide) hdata fun s₀ hs₀ => by
    obtain ⟨s₁, hsearch, hkeeps⟩ := search_searchBody (hs₀.2.2 ▸ hopen) q
    rw [hs₀.2.2] at hsearch hkeeps
    exact ⟨s₁, by rw [targets_search_request now (hw.congr hs₀.1 hs₀.2.1) q, hsearch],
      hs₀.trans hkeeps⟩
  simp only [httpBackend, HttpClient.fetch_ok hx
    (readRecords_toJson fun r hr => hshown r (List.mem_of_mem_filter hr))]

/-- Over the lock server with an open store, a client that may write registers a valid record
whose time its form shows exactly as the store does: it is refused as `registered` when its id
is taken, and otherwise added, stamped `now`. -/
theorem httpBackend_create (hopen : s.store.isOpen = true) (hw : c.MayWrite s) {r : TargetRecord}
    (ht : r.updatedAt.Shown) (hid : r.id ≠ "") (hholder : r.occupied = true ↔ r.holder ≠ "") :
    (s.store.rows.any (·.id = r.id) = true ∧
      (httpBackend c (Server.http now)).create r s = .error .registered) ∨
    (s.store.rows.any (·.id = r.id) = false ∧
      ∃ s', (httpBackend c (Server.http now)).create r s = .ok s' ∧
        s.Keeps { s.store with rows :=
          TargetStore.insertSorted { r with updatedAt := now } s.store.rows } s') := by
  have hpath : (c.request "POST" "/api/v1/targets" (some (createBody r))).path = "/api/v1/targets" := by
    simp [Http.Request.path, HttpClient.request]
  have hsub : targetsPath "/api/v1/targets" = some "/" := by decide
  have hroute : ∀ s₀ : Server, s.Keeps s.store s₀ →
      targets now s₀ (c.request "POST" "/api/v1/targets" (some (createBody r))) "/" =
        .ok (create now s₀ ((createBody r).write true)) := fun s₀ hs₀ =>
    targets_create_request now (hw.congr hs₀.1 hs₀.2.1) r
  by_cases htaken : s.store.rows.any (·.id = r.id) = true
  · -- the server refuses the registration as a conflict, with status 409
    refine .inl ⟨htaken, ?_⟩
    obtain ⟨f, s', hx, hstatus⟩ := exchange_failed now hpath hsub fun s₀ hs₀ => by
      rcases create_createBody now (hs₀.2.2 ▸ hopen) ht hid hholder with ⟨-, s₁, hcreate⟩ | ⟨hfree, -⟩
      · exact ⟨s₁, by rw [hroute s₀ hs₀, hcreate]⟩
      · rw [hs₀.2.2, htaken] at hfree
        cases hfree
    have h409 : f.status = 409 := hstatus.trans (ApiError.status_conflict "target" r.id)
    simp [httpBackend, ht.marshalError, hx, h409]
  · have hfree : s.store.rows.any (·.id = r.id) = false := by simpa using htaken
    refine .inr ⟨hfree, ?_⟩
    obtain ⟨s', hx, hkeeps⟩ := exchange_ok now hpath hsub (show 201 < 400 by decide)
      ({ r with updatedAt := now } : TargetRecord).intLiterals_toJson fun s₀ hs₀ => by
        rcases create_createBody now (hs₀.2.2 ▸ hopen) ht hid hholder with ⟨htaken', -⟩ | ⟨-, s₁, hcreate, hkeeps⟩
        · rw [hs₀.2.2, hfree] at htaken'
          cases htaken'
        · rw [hs₀.2.2] at hkeeps
          exact ⟨s₁, by rw [hroute s₀ hs₀, hcreate], hs₀.trans hkeeps⟩
    exact ⟨s', by simp [httpBackend, ht.marshalError, hx], hkeeps⟩

/-- Over the lock server with an open store, a client that may write patches with a filter and
a patch as the store does, as long as the count fits a 64-bit integer: it answers how many records
the filter selects and patches exactly those, stamped `now`. -/
theorem httpBackend_update (hopen : s.store.isOpen = true) (hw : c.MayWrite s) {f : TargetQuery}
    {p : TargetPatch} (hf : f.isEmpty = false) (hp : p.isEmpty = false)
    (hcount : ((s.store.rows.filter f.matches).length : Int) ≤ int64Max) :
    ∃ s', (httpBackend c (Server.http now)).update f p s =
        .ok ((s.store.rows.filter f.matches).length, s') ∧
      s.Keeps { s.store with rows := s.store.rows.map (fun x =>
        if f.matches x then { p.apply x with updatedAt := now } else x) } s' := by
  have hpath : (c.request "PATCH" "/api/v1/targets" (some (updateBody f p))).path =
      "/api/v1/targets" := by
    simp [Http.Request.path, HttpClient.request]
  have hsub : targetsPath "/api/v1/targets" = some "/" := by decide
  have hdata : IntLiterals (.object [("matched",
      .number (Number.ofNat (s.store.rows.filter f.matches).length))]) := by
    have hnum : ∀ n : Nat, Number.ofNat n = Number.ofInt n := fun n => rfl
    simp [hnum]
  obtain ⟨s', hx, hkeeps⟩ := exchange_ok now hpath hsub (show 200 < 400 by decide) hdata
    fun s₀ hs₀ => by
      obtain ⟨s₁, hupdate, hkeeps⟩ := update_updateBody now (hs₀.2.2 ▸ hopen) hf hp
      rw [hs₀.2.2] at hupdate hkeeps
      exact ⟨s₁, by rw [targets_update_request now (hw.congr hs₀.1 hs₀.2.1) f p, hupdate],
        hs₀.trans hkeeps⟩
  exact ⟨s', by simp [httpBackend, HttpClient.fetch_ok hx (UpdateResult.read_matched hcount)], hkeeps⟩

/-- Over the lock server with an open store whose times their form shows exactly, and with room
for its count, a client that may write performs a valid call as the store does: the same reply,
and a server that keeps its keys and the store the call leaves. -/
theorem httpBackend_perform (hopen : s.store.isOpen = true) (hw : c.MayWrite s)
    (hshown : ∀ r ∈ s.store.rows, r.updatedAt.Shown) (hfits : (s.store.rows.length : Int) ≤ int64Max)
    {call : Call} (hv : call.Valid) (hcall : call.Shown) :
    ∃ s', (httpBackend c (Server.http now)).perform call s =
        (((TargetStore.backend now).perform call s.store).1, s') ∧
      s.Keeps ((TargetStore.backend now).perform call s.store).2 s' := by
  cases call with
  | search q =>
    refine ⟨s, ?_, rfl, rfl, rfl⟩
    simp only [LockBackend.perform, httpBackend_search now hopen hw hshown,
      TargetStore.backend_search hopen]
  | create r =>
    obtain ⟨hid, hholder⟩ := hv
    rcases httpBackend_create now hopen hw hcall hid hholder with ⟨htaken, hc⟩ | ⟨hfree, s', hc, hkeeps⟩
    · refine ⟨s, ?_, rfl, rfl, ?_⟩
      · simp only [LockBackend.perform, hc, TargetStore.backend_create hopen, htaken, if_true]
      · simp only [LockBackend.perform, TargetStore.backend_create hopen, htaken, if_true]
    · refine ⟨s', ?_, ?_⟩
      · simp only [LockBackend.perform, hc, TargetStore.backend_create hopen, hfree,
          Bool.false_eq_true, if_false]
      · simpa only [LockBackend.perform, TargetStore.backend_create hopen, hfree,
          Bool.false_eq_true, if_false] using hkeeps
  | update f p =>
    obtain ⟨hf, hp⟩ := hv
    have hcount : ((s.store.rows.filter f.matches).length : Int) ≤ int64Max :=
      le_trans (by exact_mod_cast List.length_filter_le _ _) hfits
    obtain ⟨s', hc, hkeeps⟩ := httpBackend_update now hopen hw hf hp hcount
    refine ⟨s', ?_, ?_⟩
    · simp only [LockBackend.perform, hc, TargetStore.backend_update hopen now hf hp]
    · simpa only [LockBackend.perform, TargetStore.backend_update hopen now hf hp] using hkeeps

end LockServer

/-! ## Whole runs -/

/-- A call on an open store, an update only with a filter and a patch, leaves rows that were
there before or were written at `now`, and adds at most one. -/
theorem TargetStore.perform_rows {st : TargetStore} (hopen : st.isOpen = true) (now : Instant)
    {call : Call} (hc : call.Filtered) :
    (∀ r ∈ ((TargetStore.backend now).perform call st).2.rows, r ∈ st.rows ∨ r.updatedAt = now) ∧
      ((TargetStore.backend now).perform call st).2.rows.length ≤ st.rows.length + 1 := by
  cases call with
  | search q => exact ⟨fun r hr => .inl hr, Nat.le_succ _⟩
  | create r =>
    simp only [LockBackend.perform, TargetStore.backend_create hopen]
    by_cases htaken : st.rows.any (·.id = r.id) = true
    · simp only [htaken, if_true]
      exact ⟨fun x hx => .inl hx, Nat.le_succ _⟩
    · simp only [htaken, Bool.false_eq_true, if_false]
      refine ⟨fun x hx => ?_, by rw [(TargetStore.insertSorted_perm _ _).length_eq]; simp⟩
      rcases TargetStore.mem_insertSorted.mp hx with rfl | hx
      · exact .inr rfl
      · exact .inl hx
  | update f p =>
    obtain ⟨hf, hp⟩ := hc
    simp only [LockBackend.perform, TargetStore.backend_update hopen now hf hp]
    refine ⟨fun x hx => ?_, by simp⟩
    obtain ⟨y, hy, rfl⟩ := List.mem_map.mp hx
    by_cases hm : f.matches y = true
    · exact .inr (by simp [hm])
    · exact .inl (by simpa [hm] using hy)

/-- What a client needs of a lock server to perform `room` more calls as its store does: that it
may write, an ordered store whose times their form shows exactly, and room for `room` more
records before a count no longer fits a 64-bit integer. -/
structure HttpClient.Serves (c : HttpClient) (room : Nat) (s : LockServer.Server) : Prop where
  writes : c.MayWrite s
  ordered : s.store.Ordered
  shown : ∀ r ∈ s.store.rows, r.updatedAt.Shown
  fits : ((s.store.rows.length + room : Nat) : Int) ≤ int64Max

namespace HttpClient.Serves

variable {c : HttpClient} {room : Nat} {s : LockServer.Server} {now : Instant}

/-- One valid call: the client gives the store's reply, the server keeps the store the call
leaves, and it serves the client for one call less. -/
theorem step (hnow : now.Shown) (h : c.Serves (room + 1) s) {call : Call} (hv : call.Valid)
    (hcall : call.Shown) :
    ((httpBackend c (LockServer.Server.http now)).perform call s).1 =
        ((TargetStore.backend now).perform call s.store).1 ∧
      ((httpBackend c (LockServer.Server.http now)).perform call s).2.store =
        ((TargetStore.backend now).perform call s.store).2 ∧
      c.Serves room ((httpBackend c (LockServer.Server.http now)).perform call s).2 := by
  have hfits : (s.store.rows.length : Int) ≤ int64Max := le_trans (by omega) h.fits
  obtain ⟨s', hperform, hr, hw, hstore⟩ :=
    LockServer.httpBackend_perform now h.ordered.isOpen h.writes h.shown hfits hv hcall
  obtain ⟨hrows, hlen⟩ := TargetStore.perform_rows h.ordered.isOpen now hv.filtered
  rw [hperform]
  refine ⟨rfl, hstore, h.writes.congr hr hw, ?_, fun r hr' => ?_, ?_⟩
  · rw [hstore]
    exact (h.ordered.perform now hv.filtered).2
  · rw [hstore] at hr'
    rcases hrows r hr' with hold | hnew
    · exact h.shown r hold
    · exact hnew ▸ hnow
  · rw [hstore]
    have := h.fits
    omega

end HttpClient.Serves

/-- Over the lock server, at a time its form shows exactly, a client answers every sequence of
valid calls whose records have times their form shows exactly as the table of the server's
store does, while the server serves it for as many calls. -/
theorem httpBackend_answersAsTable (c : HttpClient) {now : Instant} (hnow : now.Shown)
    {cs : List Call} {s : LockServer.Server} (hs : c.Serves cs.length s)
    (hcs : ∀ call ∈ cs, call.Valid ∧ call.Shown) :
    (httpBackend c (LockServer.Server.http now)).AnswersAsTable cs s (TargetStore.view s.store) := by
  -- the client's server and the store go call by call, the server keeping the store's state
  let R : List Call → LockServer.Server → TargetStore → Prop := fun cs s st =>
    s.store = st ∧ c.Serves cs.length s ∧ ∀ call ∈ cs, call.Valid ∧ call.Shown
  have hstep : ∀ call cs s st, R (call :: cs) s st →
      ((httpBackend c (LockServer.Server.http now)).perform call s).1 =
          ((TargetStore.backend now).perform call st).1 ∧
        R cs ((httpBackend c (LockServer.Server.http now)).perform call s).2
          ((TargetStore.backend now).perform call st).2 := by
    rintro call cs s st ⟨rfl, hserves, hcalls⟩
    obtain ⟨hv, hshown⟩ := hcalls call List.mem_cons_self
    obtain ⟨hreply, hstore, hserves'⟩ := hserves.step hnow hv hshown
    exact ⟨hreply, hstore, hserves', fun call' h' => hcalls call' (List.mem_cons_of_mem _ h')⟩
  exact LockBackend.AnswersAsTable.of_simulation R hstep ⟨rfl, hs, hcs⟩
    (TargetStore.answersAsTable now hs.ordered fun call h => (hcs call h).1)

end TestDispatch
