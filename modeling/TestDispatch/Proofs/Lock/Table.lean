import TestDispatch.Proofs.Lock.Program
import TestDispatch.Proofs.Store.Statement
/-!
# The lock table as the lock service reads it

The service reads two things of a record: whether the target is occupied, and by whom. `Slot`
is that part of a record, and the lock table is read as a map from id to slot; the time of the
last change is left out, since nothing the service decides depends on it. A slot is well formed
when it is occupied exactly when its holder is not empty.

`LockBackend.Atomic` is what the service asks of a backend: a registration and a conditional
update each act at once on the table, as long as the backend's state is `good`. A registration
that succeeds found no record of its id and adds one; an update that succeeds patches exactly the
records its filter selects, and answers a positive count exactly when it selected one.

The local store is such a backend (`TargetStore.backend_atomic`), its good states being those
with one row per id (`TargetStore.Keyed`); a store reaches no other state through the backend.
-/

namespace TestDispatch

/-- What the lock service reads of a record: whether the target is occupied, and by which
holder. -/
structure Slot where
  occupied : Bool
  holder : String
  deriving DecidableEq, Repr

/-- A slot is well formed when it is occupied exactly when its holder is not empty. -/
def Slot.WellFormed (c : Slot) : Prop := c.occupied = true ↔ c.holder ≠ ""

/-- The slot of a record. -/
def TargetRecord.slot (r : TargetRecord) : Slot := ⟨r.occupied, r.holder⟩

/-- Whether a query selects the record of `id` whose slot is `c`. -/
def TargetQuery.selects (q : TargetQuery) (id : String) (c : Slot) : Bool :=
  q.matches { id, occupied := c.occupied, holder := c.holder }

/-- A slot with a patch applied. -/
def TargetPatch.applySlot (p : TargetPatch) (c : Slot) : Slot :=
  ⟨p.occupied.getD c.occupied, p.holder.getD c.holder⟩

theorem TargetQuery.matches_eq_selects (q : TargetQuery) (r : TargetRecord) :
    q.matches r = q.selects r.id r.slot := rfl

theorem TargetPatch.slot_apply (p : TargetPatch) (r : TargetRecord) :
    (p.apply r).slot = p.applySlot r.slot := rfl

/-- A backend whose registrations and conditional updates act at once on the table that `view`
reads, in every state that is `good`, and keep the state good. -/
structure LockBackend.Atomic {σ : Type} (b : LockBackend σ) (good : σ → Prop)
    (view : σ → String → Option Slot) : Prop where
  create {r : TargetRecord} {s s' : σ} : good s → b.create r s = .ok s' →
    good s' ∧ view s r.id = none ∧ ∀ id, view s' id = if id = r.id then some r.slot else view s id
  update {f : TargetQuery} {p : TargetPatch} {s s' : σ} {n : Nat} : good s →
    b.update f p s = .ok (n, s') →
    good s' ∧ (∀ id, view s' id = (view s id).map fun c => if f.selects id c then p.applySlot c else c) ∧
      (0 < n ↔ ∃ id c, view s id = some c ∧ f.selects id c = true)

/-! ## One primitive on the table -/

/-- What a call with reply `r` does to the table `v`: a registration that succeeded adds its
record, an update that succeeded patches what its filter selects, and anything else leaves the
table as it was. -/
def Call.effect : (c : Call) → Except BackendError c.Reply → (String → Option Slot) →
    String → Option Slot
  | .search _, _, v => v
  | .create _, .error _, v => v
  | .create r, .ok _, v => fun id => if id = r.id then some r.slot else v id
  | .update _ _, .error _, v => v
  | .update f p, .ok _, v => fun id =>
    (v id).map fun c => if f.selects id c then p.applySlot c else c

/-- Whether a reply is one the table `v` allows: a registration succeeds only for an id without
a record, and an update counts a record exactly when it selects one. -/
def Call.Fits : (c : Call) → Except BackendError c.Reply → (String → Option Slot) → Prop
  | .create r, .ok _, v => v r.id = none
  | .update f _, .ok n, v => 0 < n ↔ ∃ id c, v id = some c ∧ f.selects id c = true
  | _, _, _ => True

/-- On an atomic backend, a call from a good state keeps it good, replies as the table allows,
and changes the table by exactly its effect. -/
theorem LockBackend.Atomic.perform {σ : Type} {b : LockBackend σ} {good : σ → Prop}
    {view : σ → String → Option Slot} (hb : b.Atomic good view) {s : σ} (hs : good s) (c : Call) :
    good (b.perform c s).2 ∧ c.Fits (b.perform c s).1 (view s) ∧
      view (b.perform c s).2 = c.effect (b.perform c s).1 (view s) := by
  cases c with
  | search q => exact ⟨hs, trivial, rfl⟩
  | create r =>
    simp only [LockBackend.perform]
    split
    · rename_i s' hc
      obtain ⟨hs', hnew, hview⟩ := hb.create hs hc
      exact ⟨hs', hnew, funext hview⟩
    · exact ⟨hs, trivial, rfl⟩
  | update f p =>
    simp only [LockBackend.perform]
    split
    · rename_i n s' hu
      obtain ⟨hs', hview, hn⟩ := hb.update hs hu
      exact ⟨hs', hn, funext hview⟩
    · exact ⟨hs, trivial, rfl⟩

/-! ## The local store -/

namespace TargetStore

/-- Whether a store keeps at most one row per id. -/
def Keyed (s : TargetStore) : Prop := (s.rows.map (·.id)).Nodup

/-- The slot of each id in a store. -/
def view (s : TargetStore) (id : String) : Option Slot :=
  (s.rows.find? (·.id = id)).map TargetRecord.slot

theorem run_bind {α β : Type} (x : StoreM α) (f : α → StoreM β) (s : TargetStore) :
    (x >>= f).run.run s =
      match x.run.run s with
      | (.ok a, s') => (f a).run.run s'
      | (.error e, s') => (.error e, s') := by
  simp only [ExceptT.run_bind, StateT.run_bind]
  rcases x.run.run s with ⟨_ | a, s'⟩ <;> rfl

theorem run_get (s : TargetStore) : (get : StoreM TargetStore).run.run s = (.ok s, s) := rfl

theorem run_requireOpen (s : TargetStore) :
    requireOpen.run.run s = (if s.isOpen then .ok () else .error .closed, s) := by
  obtain ⟨rows, schema, version, isOpen⟩ := s
  cases isOpen <;> rfl

/-- A search answers the rows its query selects and changes nothing. -/
theorem search_run (q : TargetQuery) (s : TargetStore) :
    (search q).run.run s =
      (if s.isOpen then .ok (s.rows.filter q.matches) else .error .closed, s) := by
  simp only [search, run_bind, run_requireOpen, q.passes_whereClause]
  by_cases ho : s.isOpen = true
  · simp only [ho, if_true]
    rfl
  · simp [ho]

/-- A registration: refused on a closed store and on a taken id, else the row stamped `now` is
put in its place. -/
theorem create_run (now : Instant) (r : TargetRecord) (s : TargetStore) :
    (create now r).run.run s =
      if !s.isOpen then (.error .closed, s)
      else if s.rows.any (·.id = r.id) then (.error (.conflict r.id), s)
      else (.ok { r with updatedAt := now },
        { s with rows := insertSorted { r with updatedAt := now } s.rows }) := by
  simp only [create, run_bind, run_requireOpen, run_get]
  by_cases ho : s.isOpen = true
  · by_cases hr : s.rows.any (·.id = r.id) = true
    · simp [ho, hr]
      rfl
    · simp [ho, hr]
      rfl
  · simp [ho]

/-- An update statement whose values are bound in order, the assignments' first, writes the
assignments into every row its condition selects and counts those rows. -/
theorem execUpdate_run (sets condition : Clause) (h : sets.values.length = sets.columns.length)
    (s : TargetStore) :
    (execUpdate sets.columns condition.columns (sets.values ++ condition.values)).run.run s =
      (.ok (s.rows.filter (·.passes condition.bound)).length,
        { s with rows := s.rows.map fun r =>
            if r.passes condition.bound then r.writeAll sets.bound else r }) := by
  simp only [execUpdate, bound_update_take sets condition h, bound_update_drop sets condition h]
  rfl

/-- A conditional update: refused when filter or patch names nothing and on a closed store,
else every selected row is patched and stamped `now`. -/
theorem update_run (now : Instant) (f : TargetQuery) (p : TargetPatch) (s : TargetStore) :
    (update now f p).run.run s =
      if f.isEmpty then (.error .emptyFilter, s)
      else if p.isEmpty then (.error .emptyPatch, s)
      else if !s.isOpen then (.error .closed, s)
      else (.ok (s.rows.filter f.matches).length,
        { s with rows := s.rows.map fun r =>
            if f.matches r then { p.apply r with updatedAt := now } else r }) := by
  -- the checks on the rendered clauses are the checks on the filter and the patch
  have hsets := p.setClause_length_eq_one now
  by_cases hf : f.isEmpty = true
  · simp only [update, f.whereClause_columns_isEmpty, hf, if_true]
    rfl
  · by_cases hp : p.isEmpty = true
    · simp only [update, f.whereClause_columns_isEmpty, hf, hsets, hp, if_true, if_false,
        Bool.false_eq_true]
      rfl
    · simp only [update, f.whereClause_columns_isEmpty, hf, hsets, hp, if_false,
        Bool.false_eq_true, run_bind, run_requireOpen]
      by_cases ho : s.isOpen = true
      · simp only [ho, if_true, Bool.not_true, Bool.false_eq_true, if_false,
          execUpdate_run _ _ (p.length_values_setClause now), f.passes_whereClause,
          p.writeAll_setClause]
      · simp [ho]

theorem backend_create_ok {now : Instant} {r : TargetRecord} {s s' : TargetStore}
    (h : (TargetStore.backend now).create r s = .ok s') :
    s.rows.any (·.id = r.id) = false ∧
      s' = { s with rows := insertSorted { r with updatedAt := now } s.rows } := by
  obtain ⟨rows, schema, version, isOpen⟩ := s
  simp only [TargetStore.backend, attempt, create_run] at h
  cases isOpen
  · simp [Except.map] at h
  · by_cases hr : rows.any (·.id = r.id) = true
    · simp [hr, Except.map] at h
    · simp only [hr, Bool.not_true, Bool.false_eq_true, if_false, Except.map,
        Except.ok.injEq] at h
      exact ⟨by simpa using hr, h.symm⟩

theorem backend_update_ok {now : Instant} {f : TargetQuery} {p : TargetPatch} {s s' : TargetStore}
    {n : Nat} (h : (TargetStore.backend now).update f p s = .ok (n, s')) :
    n = (s.rows.filter f.matches).length ∧
      s' = { s with rows := s.rows.map fun r =>
        if f.matches r then { p.apply r with updatedAt := now } else r } := by
  obtain ⟨rows, schema, version, isOpen⟩ := s
  simp only [TargetStore.backend, attempt, update_run] at h
  by_cases hf : f.isEmpty = true
  · simp [hf] at h
  · by_cases hp : p.isEmpty = true
    · simp [hf, hp] at h
    · cases isOpen
      · simp [hf, hp] at h
      · simp only [hf, hp, Bool.not_true, Bool.false_eq_true, if_false,
          Except.ok.injEq, Prod.mk.injEq] at h
        exact ⟨h.1.symm, h.2.symm⟩

/-! ## Rows in id order, one per id -/

theorem insertSorted_perm (r : TargetRecord) (rows : List TargetRecord) :
    (insertSorted r rows).Perm (r :: rows) := by
  induction rows with
  | nil => exact .refl _
  | cons x xs ih =>
    simp only [insertSorted]
    split
    · exact .refl _
    · exact (ih.cons x).trans (.swap r x xs)

theorem find?_insertSorted {r : TargetRecord} {rows : List TargetRecord} (id : String)
    (hr : rows.any (·.id = r.id) = false) :
    (insertSorted r rows).find? (·.id = id) = if r.id = id then some r else rows.find? (·.id = id) := by
  induction rows with
  | nil => simp [insertSorted, List.find?]
  | cons x xs ih =>
    simp only [List.any_cons, Bool.or_eq_false_iff, decide_eq_false_iff_not] at hr
    simp only [insertSorted]
    split
    · by_cases hid : r.id = id <;> simp [List.find?_cons, hid]
    · rw [List.find?_cons, List.find?_cons, ih hr.2]
      by_cases hx : x.id = id
      · have : r.id ≠ id := fun h => hr.1 (hx.trans h.symm)
        simp [hx, this]
      · simp [hx]

theorem find?_of_mem {rows : List TargetRecord} (hk : (rows.map (·.id)).Nodup) {r : TargetRecord}
    (hr : r ∈ rows) : rows.find? (·.id = r.id) = some r := by
  induction rows with
  | nil => cases hr
  | cons x xs ih =>
    simp only [List.map_cons, List.nodup_cons, List.mem_map] at hk
    rw [List.find?_cons]
    rcases List.mem_cons.mp hr with rfl | hr
    · simp
    · have : x.id ≠ r.id := fun h => hk.1 ⟨r, hr, h.symm⟩
      simp [this, ih hk.2 hr]

theorem find?_map_of_id {g : TargetRecord → TargetRecord} (hg : ∀ r, (g r).id = r.id)
    (rows : List TargetRecord) (id : String) :
    (rows.map g).find? (·.id = id) = (rows.find? (·.id = id)).map g := by
  induction rows with
  | nil => rfl
  | cons x xs ih =>
    by_cases hx : x.id = id <;> simp [hg, hx, ih]

/-- A patched row keeps its id. -/
theorem update_id (now : Instant) (f : TargetQuery) (p : TargetPatch) (r : TargetRecord) :
    (if f.matches r then { p.apply r with updatedAt := now } else r).id = r.id := by
  split <;> rfl

/-- The local store, through its backend, is an atomic lock table over its rows. -/
theorem backend_atomic (now : Instant) : (TargetStore.backend now).Atomic Keyed view where
  create {r s s'} hs h := by
    obtain ⟨hr, rfl⟩ := backend_create_ok h
    refine ⟨?_, ?_, fun id => ?_⟩
    · have hperm := (insertSorted_perm { r with updatedAt := now } s.rows).map (·.id)
      refine hperm.nodup_iff.mpr (List.nodup_cons.mpr ⟨?_, hs⟩)
      simpa using hr
    · simp only [view, Option.map_eq_none_iff, List.find?_eq_none]
      intro x hx hxr
      simp only [List.any_eq_false] at hr
      exact hr x hx hxr
    · simp only [view, find?_insertSorted (r := { r with updatedAt := now }) id hr]
      by_cases hid : id = r.id
      · subst hid
        simp [TargetRecord.slot]
      · simp [Ne.symm hid, hid]
  update {f p s s' n} hs h := by
    obtain ⟨rfl, rfl⟩ := backend_update_ok h
    refine ⟨?_, fun id => ?_, ?_⟩
    · simpa [Keyed, List.map_map, Function.comp_def, apply_ite, TargetPatch.apply] using hs
    · simp only [view, find?_map_of_id (update_id now f p)]
      rcases hfind : s.rows.find? (·.id = id) with _ | x
      · simp [hfind]
      · have hx := List.find?_some hfind
        simp only [decide_eq_true_eq] at hx
        subst hx
        simp only [hfind, Option.map_some, TargetQuery.matches_eq_selects]
        by_cases hsel : f.selects x.id x.slot = true <;> simp only [hsel] <;> rfl
    · constructor
      · intro hn
        obtain ⟨x, hx⟩ := List.exists_mem_of_length_pos hn
        rw [List.mem_filter] at hx
        exact ⟨x.id, x.slot, by simp [view, find?_of_mem hs hx.1], hx.2⟩
      · rintro ⟨id, c, hc, hsel⟩
        obtain ⟨x, hfind, rfl⟩ := Option.map_eq_some_iff.mp hc
        have hx := List.find?_some hfind
        simp only [decide_eq_true_eq] at hx
        subst hx
        exact List.length_pos_of_mem
          (List.mem_filter.mpr ⟨List.mem_of_find?_eq_some hfind, hsel⟩)

end TargetStore

end TestDispatch
