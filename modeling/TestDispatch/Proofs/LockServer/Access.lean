import TestDispatch.LockServer.Handler
import TestDispatch.Proofs.Lock.Table
/-!
# Who may read and write the lock store, and what a refused request changes

The lock server guards everything under `/api/v1/targets` with keys. `Server.roleOf` states the
rule as the server documents it: without configured keys every caller may write; otherwise a
configured write key in `X-Write-Key` gives the write role, else a configured read key in
`X-Read-Key` the read role, else none. Searching needs the read role, registering and patching
the write role. Main result:

* `targets_access_atomic`: for a server whose configured keys are non-empty (as
  `Server.create` leaves them, `Server.create_keysNonEmpty`) and every request under
  `/api/v1/targets`, the key check grants exactly the documented role and refuses the rest with
  401; a caller without role gets an answer that does not depend on the store; only the write
  role changes the store; an answer with status 400 or above leaves the store as it was; a 201
  registers exactly the requested record; and a successful patch reports and changes exactly
  the records its filter selects.

Underneath, `targets_cases` says everything a request under `/api/v1/targets` can do, and
`search_cases`, `create_cases` and `update_cases` what each handler does to the store.
-/

namespace TestDispatch

/-- Every error of the API has a status of 400 or above. -/
theorem ApiError.status_ge (e : ApiError) : 400 ≤ e.status := by
  unfold ApiError.status
  repeat' split
  all_goals omega

namespace LockServer

/-- The status a reply is sent with. -/
def Reply.status : Reply → Nat
  | .ok status _ => status
  | .failed e => e.status

theorem envelope_status (now : Instant) (requestId : String) (reply : Reply) :
    (envelope now requestId reply).1 = reply.status := by
  cases reply <;> rfl

theorem Reply.status_failed (e : ApiError) : 400 ≤ (Reply.failed e).status := e.status_ge

/-! ## Roles -/

namespace Server

/-- The configured keys hold no empty text. -/
def KeysNonEmpty (s : Server) : Prop := "" ∉ s.readKeys ∧ "" ∉ s.writeKeys

/-- A server leaves out the empty keys it is configured with. -/
theorem create_keysNonEmpty (readKeys writeKeys : List String) (store : TargetStore) :
    (Server.create readKeys writeKeys store).KeysNonEmpty := by
  simp [KeysNonEmpty, Server.create]

/-- The role the keys of a request give: every caller may write when no key is configured;
otherwise a configured write key gives the write role, else a configured read key the read role,
else none. -/
def roleOf (s : Server) (r : Http.Request) : Role :=
  if !s.authEnabled then .write
  else if r.header "X-Write-Key" ∈ s.writeKeys then .write
  else if r.header "X-Read-Key" ∈ s.readKeys then .read
  else .none

/-- Servers with the same keys give every request the same role. -/
theorem roleOf_congr {s s' : Server} (hr : s'.readKeys = s.readKeys)
    (hw : s'.writeKeys = s.writeKeys) (r : Http.Request) : s'.roleOf r = s.roleOf r := by
  simp [roleOf, authEnabled, hr, hw]

/-- The key check grants the role the keys give, and refuses a request without role with 401. -/
theorem authorize_cases {s : Server} (hs : s.KeysNonEmpty) (r : Http.Request) :
    (s.roleOf r = .none ∧ ∃ e, s.authorize r = .error e ∧ e.status = 401) ∨
      (s.roleOf r ≠ .none ∧ s.authorize r = .ok (s.roleOf r)) := by
  unfold authorize roleOf
  cases hen : s.authEnabled with
  | false => exact .inr ⟨by simp, rfl⟩
  | true =>
    -- a presented key counts only when configured, and no configured key is empty
    have hwk : (r.header "X-Write-Key" ≠ "" && s.writeKeys.contains (r.header "X-Write-Key")) =
        decide (r.header "X-Write-Key" ∈ s.writeKeys) := by
      by_cases hm : r.header "X-Write-Key" ∈ s.writeKeys
      · have hne : r.header "X-Write-Key" ≠ "" := fun h => hs.2 (h ▸ hm)
        simp [hm, hne]
      · simp [hm]
    have hrk : (r.header "X-Read-Key" ≠ "" && s.readKeys.contains (r.header "X-Read-Key")) =
        decide (r.header "X-Read-Key" ∈ s.readKeys) := by
      by_cases hm : r.header "X-Read-Key" ∈ s.readKeys
      · have hne : r.header "X-Read-Key" ≠ "" := fun h => hs.1 (h ▸ hm)
        simp [hm, hne]
      · simp [hm]
    simp only [resolve, hwk, hrk, Bool.not_true, Bool.false_eq_true, if_false, decide_eq_true_eq]
    by_cases hw : r.header "X-Write-Key" ∈ s.writeKeys
    · -- a configured write key was presented, so the request is not keyless
      have hkeyed : (decide (r.header "X-Read-Key" = "") && decide (r.header "X-Write-Key" = "")) =
          false := by
        simp [show r.header "X-Write-Key" ≠ "" from fun h => hs.2 (h ▸ hw)]
      exact .inr ⟨by simp [hw], by simp [hw, hkeyed]⟩
    · by_cases hr : r.header "X-Read-Key" ∈ s.readKeys
      · have hkeyed :
            (decide (r.header "X-Read-Key" = "") && decide (r.header "X-Write-Key" = "")) = false := by
          simp [show r.header "X-Read-Key" ≠ "" from fun h => hs.1 (h ▸ hr)]
        exact .inr ⟨by simp [hw, hr], by simp [hw, hr, hkeyed]⟩
      · -- no configured key: refused, whether keys were presented or not
        refine .inl ⟨by simp [hw, hr], ?_⟩
        simp only [hw, hr, if_false]
        split
        · exact ⟨_, rfl, by decide⟩
        · exact ⟨_, rfl, by decide⟩

end Server

/-! ## What each handler does to the store -/

/-- The store `after` is `before` with the record of a registration request added, stamped
`now`; no record of `before` had its id. -/
def Registered (now : Instant) (body : String) (before after : TargetStore) : Prop :=
  ∃ req, CreateRequest.read body = .ok req ∧ (∀ x ∈ before.rows, x.id ≠ req.record.id) ∧
    after = { before with
      rows := TargetStore.insertSorted { req.record with updatedAt := now } before.rows }

/-- The reply to a patch request reports how many records of `before` its filter selects, and
`after` is `before` with exactly those records patched, stamped `now`. -/
def Patched (now : Instant) (body : String) (before : TargetStore) (reply : Reply)
    (after : TargetStore) : Prop :=
  ∃ req, UpdateRequest.read body = .ok req ∧
    reply = .ok 200 (.object [("matched",
      .number (Json.Number.ofNat (before.rows.filter req.filter.matches).length))]) ∧
    after = { before with rows := before.rows.map fun x =>
      if req.filter.matches x then { req.patch.apply x with updatedAt := now } else x }

theorem onStore_search (s : Server) (q : TargetQuery) :
    s.onStore (TargetStore.search q) =
      (if s.store.isOpen then .ok (s.store.rows.filter q.matches) else .error .closed, s) := by
  simp [Server.onStore, TargetStore.search_run]

/-- A search leaves the store as it was, and answers 200 or an error. -/
theorem search_cases (s : Server) (body : String) :
    (search s body).2.store = s.store ∧
      ((search s body).1.status = 200 ∨ 400 ≤ (search s body).1.status) := by
  unfold search
  split
  · exact ⟨rfl, .inr (Reply.status_failed _)⟩
  · dsimp only
    split
    · exact ⟨rfl, .inr (Reply.status_failed _)⟩
    · rw [onStore_search]
      by_cases ho : s.store.isOpen = true
      · simp only [ho, if_true]
        exact ⟨rfl, .inl rfl⟩
      · simp only [ho, Bool.false_eq_true, if_false]
        exact ⟨rfl, .inr (Reply.status_failed _)⟩

/-- A registration either fails with status 400 or above and leaves the store as it was, or
answers 201 after adding the requested record, stamped `now`, whose id was not taken. -/
theorem create_cases (now : Instant) (s : Server) (body : String) :
    (400 ≤ (create now s body).1.status ∧ (create now s body).2.store = s.store) ∨
      ((create now s body).1.status = 201 ∧
        Registered now body s.store (create now s body).2.store) := by
  unfold create
  split
  · exact .inl ⟨Reply.status_failed _, rfl⟩
  · rename_i req hreq
    dsimp only
    split
    · exact .inl ⟨Reply.status_failed _, rfl⟩
    · split
      · exact .inl ⟨Reply.status_failed _, rfl⟩
      · simp only [Server.onStore, TargetStore.create_run]
        by_cases ho : s.store.isOpen = true
        · by_cases hid : s.store.rows.any (·.id = req.record.id) = true
          · simp only [ho, hid, Bool.not_true, Bool.false_eq_true, if_false, if_true]
            exact .inl ⟨Reply.status_failed _, rfl⟩
          · simp only [ho, hid, Bool.not_true, Bool.false_eq_true, if_false]
            refine .inr ⟨rfl, req, hreq, fun x hx hxid => hid ?_, by rw [ho]; rfl⟩
            exact List.any_eq_true.mpr ⟨x, hx, by simp [hxid]⟩
        · simp only [ho, Bool.not_false, if_true]
          exact .inl ⟨Reply.status_failed _, rfl⟩

/-- A patch either fails with status 400 or above and leaves the store as it was, or answers 200
with the number of records its filter selects, after patching exactly those, stamped `now`. -/
theorem update_cases (now : Instant) (s : Server) (body : String) :
    (400 ≤ (update now s body).1.status ∧ (update now s body).2.store = s.store) ∨
      Patched now body s.store (update now s body).1 (update now s body).2.store := by
  unfold update
  split
  · exact .inl ⟨Reply.status_failed _, rfl⟩
  · rename_i req hreq
    dsimp only
    split
    · exact .inl ⟨Reply.status_failed _, rfl⟩
    · split
      · exact .inl ⟨Reply.status_failed _, rfl⟩
      · rename_i hf hp
        simp only [Server.onStore, TargetStore.update_run, hf, hp, Bool.false_eq_true, if_false]
        by_cases ho : s.store.isOpen = true
        · simp only [ho, Bool.not_true, Bool.false_eq_true, if_false]
          exact .inr ⟨req, hreq, rfl, by rw [ho]; rfl⟩
        · simp only [ho, Bool.not_false, if_true]
          exact .inl ⟨Reply.status_failed _, rfl⟩

/-! ## Requests under `/api/v1/targets` -/

variable {now : Instant} {s : Server} {r : Http.Request} {sub : String}

/-- The key check reads the keys and nothing else of the server. -/
theorem Server.authorize_congr {s' : Server} (hr : s'.readKeys = s.readKeys)
    (hw : s'.writeKeys = s.writeKeys) : s'.authorize r = s.authorize r := by
  simp [Server.authorize, Server.authEnabled, Server.resolve, hr, hw]

theorem targets_refused {e : ApiError} (h : s.authorize r = .error e) :
    targets now s r sub = .ok (.failed e, s) := by
  simp [targets, h]

/-- Everything a request under `/api/v1/targets` can do: be refused for its keys, name no route,
be forbidden for its role, or reach a handler its role allows. -/
theorem targets_cases (hs : s.KeysNonEmpty) :
    (s.roleOf r = .none ∧ ∃ e, e.status = 401 ∧ targets now s r sub = .ok (.failed e, s)) ∨
    (∃ resp, 400 ≤ resp.status ∧ targets now s r sub = .error resp) ∨
    (s.roleOf r ≠ .write ∧ ∃ e, targets now s r sub = .ok (.failed e, s)) ∨
    (s.roleOf r ≠ .none ∧ r.method = "POST" ∧ targets now s r sub = .ok (search s r.body)) ∨
    (s.roleOf r = .write ∧ r.method = "POST" ∧ targets now s r sub = .ok (create now s r.body)) ∨
    (s.roleOf r = .write ∧ r.method = "PATCH" ∧
      targets now s r sub = .ok (update now s r.body)) := by
  rcases Server.authorize_cases hs r with ⟨hnone, e, he, h401⟩ | ⟨hrole, hauth⟩
  · exact .inl ⟨hnone, e, h401, targets_refused he⟩
  · -- the routes, and the role each needs
    have hforbid : ∀ min : Role, (s.roleOf r).rank < min.rank → s.roleOf r ≠ .write := by
      intro min hlt hw
      rw [hw] at hlt
      cases min <;> simp [Role.rank] at hlt
    have hread : ¬(s.roleOf r).rank < Role.read.rank := by
      cases hr : s.roleOf r <;> simp_all [Role.rank]
    unfold targets
    rw [hauth]
    dsimp only
    split
    · split
      · by_cases hw : (s.roleOf r).rank < Role.write.rank
        · exact .inr (.inr (.inl ⟨hforbid _ hw, _, by rw [if_pos hw]⟩))
        · have hwrite : s.roleOf r = .write := by
            cases hr : s.roleOf r <;> simp_all [Role.rank]
          exact .inr (.inr (.inr (.inr (.inl ⟨hwrite, ‹_›, by simp [hw]⟩))))
      · split
        · by_cases hw : (s.roleOf r).rank < Role.write.rank
          · exact .inr (.inr (.inl ⟨hforbid _ hw, _, by rw [if_pos hw]⟩))
          · have hwrite : s.roleOf r = .write := by
              cases hr : s.roleOf r <;> simp_all [Role.rank]
            exact .inr (.inr (.inr (.inr (.inr ⟨hwrite, ‹_›, by simp [hw]⟩))))
        · exact .inr (.inl ⟨_, by decide, rfl⟩)
    · split
      · split
        · exact .inr (.inr (.inr (.inl ⟨hrole, ‹_›, rfl⟩)))
        · exact .inr (.inl ⟨_, by decide, rfl⟩)
      · exact .inr (.inl ⟨_, by decide, rfl⟩)

/-- A path under `/api/v1/targets` is neither the metrics path nor the health path. -/
theorem targetsPath_other {p : String} (h : targetsPath p = some sub) :
    p ≠ "/metrics" ∧ p ≠ "/api/v1/health" := by
  have hm : targetsPath "/metrics" = none := by decide
  have hh : targetsPath "/api/v1/health" = none := by decide
  constructor
  · rintro rfl
    rw [hm] at h
    cases h
  · rintro rfl
    rw [hh] at h
    cases h

/-- A request under `/api/v1/targets` is answered by what `targets` answers, on the server with
the request's id issued: a reply in its envelope, or a bare error response. -/
theorem handle_targets (hsub : targetsPath r.path = some sub) :
    ∃ s₀ : Server, s₀.readKeys = s.readKeys ∧ s₀.writeKeys = s.writeKeys ∧ s₀.store = s.store ∧
      match targets now s₀ r sub with
      | .ok (reply, s') => (s.handle now r).1.status = reply.status ∧
          (s.handle now r).1.body = (envelope now (s.handle now r).1.requestId reply).2 ∧
          (s.handle now r).2 = s'
      | .error resp => (s.handle now r).1.status = resp.status ∧ (s.handle now r).2 = s₀ := by
  obtain ⟨hm, hh⟩ := targetsPath_other hsub
  unfold Server.handle
  dsimp only
  by_cases hg : r.header "X-Request-Id" ≠ ""
  · refine ⟨s, rfl, rfl, rfl, ?_⟩
    rw [if_pos hg]
    dsimp only
    rw [if_neg hm, if_neg hh, hsub]
    split <;> rename_i htargets <;> simp [htargets, envelope_status]
  · refine ⟨{ s with issued := s.issued + 1 }, rfl, rfl, rfl, ?_⟩
    rw [if_neg hg]
    dsimp only
    rw [if_neg hm, if_neg hh, hsub]
    split <;> rename_i htargets <;> simp [htargets, envelope_status]

/-- What a request under `/api/v1/targets` does to the store: nothing, with a status other than
201 and, for 200, a search; a registration, answered 201; or a patch. A bare error response has
a status of 400 or above. -/
theorem targets_outcome (hs : s.KeysNonEmpty) :
    match targets now s r sub with
    | .ok (reply, s') =>
      (s'.store = s.store ∧ reply.status ≠ 201 ∧ (reply.status = 200 → r.method = "POST")) ∨
      (s.roleOf r = .write ∧ reply.status = 201 ∧ Registered now r.body s.store s'.store) ∨
      (s.roleOf r = .write ∧ r.method = "PATCH" ∧ Patched now r.body s.store reply s'.store)
    | .error resp => 400 ≤ resp.status := by
  -- a failed reply changes nothing and has a status of 400 or above
  have hfailed : ∀ e : ApiError, (Reply.failed e).status ≠ 201 ∧
      ((Reply.failed e).status = 200 → r.method = "POST") := fun e =>
    ⟨by have := Reply.status_failed e; omega, fun h => by have := Reply.status_failed e; omega⟩
  rcases @targets_cases now s r sub hs with
    ⟨-, e, -, h⟩ | ⟨resp, hresp, h⟩ | ⟨-, e, h⟩ | ⟨-, hpost, h⟩ | ⟨hw, -, h⟩ | ⟨hw, hpatch, h⟩
  · rw [h]
    exact .inl ⟨rfl, hfailed e⟩
  · rw [h]
    exact hresp
  · rw [h]
    exact .inl ⟨rfl, hfailed e⟩
  · obtain ⟨hstore, hstatus⟩ := search_cases s r.body
    generalize search s r.body = p at h hstore hstatus
    obtain ⟨reply, s'⟩ := p
    rw [h]
    refine .inl ⟨hstore, ?_, fun _ => hpost⟩
    rcases hstatus with h200 | h400 <;> dsimp only at * <;> omega
  · have hcases := create_cases now s r.body
    generalize create now s r.body = p at h hcases
    obtain ⟨reply, s'⟩ := p
    rw [h]
    rcases hcases with ⟨h400, hstore⟩ | ⟨h201, hreg⟩
    · exact .inl ⟨hstore, by dsimp only at *; omega, by dsimp only at *; omega⟩
    · exact .inr (.inl ⟨hw, h201, hreg⟩)
  · have hcases := update_cases now s r.body
    generalize update now s r.body = p at h hcases
    obtain ⟨reply, s'⟩ := p
    rw [h]
    rcases hcases with ⟨h400, hstore⟩ | hpat
    · exact .inl ⟨hstore, by dsimp only at *; omega, by dsimp only at *; omega⟩
    · exact .inr (.inr ⟨hw, hpatch, hpat⟩)

/-- A request without role is refused with 401 before anything is read: the answer is the same
whatever the store holds, and the store is left as it was. -/
theorem handle_refused (hs : s.KeysNonEmpty) (hsub : targetsPath r.path = some sub)
    (hnone : s.roleOf r = .none) (store : TargetStore) :
    ({ s with store }.handle now r).1 = (s.handle now r).1 ∧ (s.handle now r).1.status = 401 ∧
      (s.handle now r).2.store = s.store := by
  obtain ⟨e, he, h401⟩ : ∃ e, s.authorize r = .error e ∧ e.status = 401 := by
    rcases Server.authorize_cases hs r with ⟨-, hrefused⟩ | ⟨hrole, -⟩
    · exact hrefused
    · exact absurd hnone hrole
  -- every server with these keys refuses the request with `e`
  have hkeys : ∀ s' : Server, s'.readKeys = s.readKeys → s'.writeKeys = s.writeKeys →
      targets now s' r sub = .ok (.failed e, s') := fun s' hr hw =>
    targets_refused ((Server.authorize_congr hr hw).trans he)
  obtain ⟨hm, hh⟩ := targetsPath_other hsub
  unfold Server.handle
  dsimp only
  by_cases hg : r.header "X-Request-Id" ≠ ""
  · simp only [if_pos hg, if_neg hm, if_neg hh, hsub, hkeys]
    simp [envelope_status, Reply.status, h401]
  · simp only [if_neg hg, if_neg hm, if_neg hh, hsub, hkeys]
    simp [envelope_status, Reply.status, h401]

end LockServer

/-- Access control and atomicity of the lock server under `/api/v1/targets`, for a server whose
configured keys are non-empty: the key check grants exactly the role the keys give; a request
without role is refused with 401, whatever the store holds; only the write role changes the
store; an answer with status 400 or above leaves the store as it was; a 201 registers exactly
the requested record; and a successful patch reports in `matched` the records its filter
selects and patches exactly those. -/
theorem targets_access_atomic (now : Instant) (s : LockServer.Server) (hs : s.KeysNonEmpty)
    (r : Http.Request) (sub : String) (hsub : LockServer.targetsPath r.path = some sub) :
    (∀ role, s.authorize r = .ok role ↔ role = s.roleOf r ∧ role ≠ .none) ∧
    (s.roleOf r = .none → (s.handle now r).1.status = 401 ∧
      ∀ store, ({ s with store }.handle now r).1 = (s.handle now r).1) ∧
    (s.roleOf r ≠ .write → (s.handle now r).2.store = s.store) ∧
    (400 ≤ (s.handle now r).1.status → (s.handle now r).2.store = s.store) ∧
    ((s.handle now r).1.status = 201 →
      LockServer.Registered now r.body s.store (s.handle now r).2.store) ∧
    (r.method = "PATCH" → (s.handle now r).1.status = 200 →
      ∃ reply,
        (s.handle now r).1.body = (LockServer.envelope now (s.handle now r).1.requestId reply).2 ∧
        LockServer.Patched now r.body s.store reply (s.handle now r).2.store) := by
  open LockServer in
  obtain ⟨s₀, hr, hw, hstore, hhandle⟩ := @handle_targets now s r sub hsub
  have hs₀ : s₀.KeysNonEmpty := by
    rw [Server.KeysNonEmpty, hr, hw]
    exact hs
  have hrole : s₀.roleOf r = s.roleOf r := Server.roleOf_congr hr hw r
  have houtcome := @targets_outcome now s₀ r sub hs₀
  refine ⟨fun role => ?_, fun hnone => ?_, ?_⟩
  · rcases Server.authorize_cases hs r with ⟨hnone, e, he, -⟩ | ⟨hrole, hauth⟩
    · rw [he]
      simp only [reduceCtorEq, false_iff, not_and]
      exact fun h => h ▸ fun hne => hne hnone
    · rw [hauth, Except.ok.injEq]
      exact ⟨fun h => ⟨h.symm, h ▸ hrole⟩, fun h => h.1.symm⟩
  · exact ⟨(handle_refused hs hsub hnone s.store).2.1,
      fun store => (handle_refused hs hsub hnone store).1⟩
  · -- the effect of the request is that of `targets` on the server with the id issued
    revert hhandle houtcome
    split
    · rename_i reply s' _
      rintro ⟨hstatus, hbody, hafter⟩ hout
      rw [hstatus, hbody, hafter, ← hstore]
      rw [hrole] at hout
      rcases hout with ⟨hsame, h201, h200⟩ | ⟨hwrite, h201, hreg⟩ | ⟨hwrite, hpatch, hpat⟩
      · refine ⟨fun _ => hsame, fun _ => hsame, fun h => absurd h h201, fun hpatch h => ?_⟩
        exact absurd ((h200 h).symm.trans hpatch) (by decide)
      · refine ⟨fun h => absurd hwrite h, fun h => by omega, fun _ => hreg, fun _ h => by omega⟩
      · have h200 : reply.status = 200 := by
          obtain ⟨req, -, rfl, -⟩ := hpat
          rfl
        refine ⟨fun h => absurd hwrite h, fun h => by omega, fun h => by omega,
          fun _ _ => ⟨_, rfl, hpat⟩⟩
    · rename_i resp _
      rintro ⟨hstatus, hafter⟩ hout
      rw [hstatus, hafter, ← hstore]
      exact ⟨fun _ => rfl, fun _ => rfl, fun h => by omega, fun _ h => by omega⟩

/-- On a server with one read and one write key, a patch under `/api/v1/targets` that presents
no key has no role and is refused with 401. -/
theorem keyless_patch_refused :
    (LockServer.Server.create ["r1"] ["w1"] TargetStore.fresh).KeysNonEmpty ∧
      LockServer.targetsPath "/api/v1/targets" = some "/" ∧
      (LockServer.Server.create ["r1"] ["w1"] TargetStore.fresh).roleOf
        { method := "PATCH", target := "/api/v1/targets" } = .none ∧
      ((LockServer.Server.create ["r1"] ["w1"] TargetStore.fresh).handle Instant.zero
        { method := "PATCH", target := "/api/v1/targets" }).1.status = 401 := by
  have hs := LockServer.Server.create_keysNonEmpty ["r1"] ["w1"] TargetStore.fresh
  have hsub : LockServer.targetsPath "/api/v1/targets" = some "/" := by decide
  have hrole : (LockServer.Server.create ["r1"] ["w1"] TargetStore.fresh).roleOf
      { method := "PATCH", target := "/api/v1/targets" } = .none := by
    decide
  exact ⟨hs, hsub, hrole,
    ((targets_access_atomic Instant.zero _ hs { method := "PATCH", target := "/api/v1/targets" } "/"
      hsub).2.1 hrole).1⟩

end TestDispatch
