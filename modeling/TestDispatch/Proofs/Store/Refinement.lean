import TestDispatch.Proofs.Lock.Backends
import TestDispatch.Proofs.Text.OctetOrder
/-!
# The target store refines a table

Read through `TargetStore.view`, a store is a finite map from id to slot: the occupancy and holder
of each target that has a row. Against that table each of the store's operations has a right
answer (`StoreCall.Answers`) and a right effect (`StoreCall.effect`):

* a search answers the records its query selects, one per id, in ascending byte order of id;
* a look-up answers the record of its id, or nothing;
* a registration of a new id adds its record and answers it as stored; one of a taken id fails
  with a conflict on that id;
* an update with a filter and a patch patches exactly the records its filter selects and answers
  how many they are; one without a filter fails with `emptyFilter`, one with a filter and no
  patch with `emptyPatch`;
* nothing else changes the table.

Main statements:

* `TargetStore.Ordered.refines`: one call on an open store whose rows stand in ascending order of
  id answers and acts as the table does, and leaves such a store;
* `TargetStore.Ordered.actsAsTable`: hence so does every sequence of calls;
* `store_refines_table`: the conditions the store renders select exactly the records their
  queries match, and from the store a migration leaves, every sequence of calls answers as the
  empty table does.
-/

namespace TestDispatch

/-- A call of the store's table operations. A write carries the time it is stamped with. -/
inductive StoreCall where
  | search (q : TargetQuery)
  | get (id : String)
  | create (now : Instant) (r : TargetRecord)
  | update (now : Instant) (filter : TargetQuery) (patch : TargetPatch)
  deriving Repr

namespace StoreCall

/-- What a call answers when it succeeds. -/
abbrev Reply : StoreCall → Type
  | .search _ => List TargetRecord
  | .get _ => Option TargetRecord
  | .create _ _ => TargetRecord
  | .update _ _ _ => Nat

/-- The store operation a call runs. -/
def op : (c : StoreCall) → StoreM c.Reply
  | .search q => TargetStore.search q
  | .get id => TargetStore.find? id
  | .create now r => TargetStore.create now r
  | .update now f p => TargetStore.update now f p

/-- Whether `r` is what the table `T` answers to a call: a search the records its query selects,
one per id, in ascending byte order of id; a look-up the record of its id, if it has one; a
registration succeeds with its record stamped with its time when the id has no record, and
otherwise fails with a conflict on the id; an update answers how many records its filter
selects when filter and patch each name a field, and otherwise fails on the first of the two
that names none. -/
def Answers : (c : StoreCall) → Except StoreError c.Reply → (String → Option Slot) → Prop
  | .search q, .ok rs, T =>
    rs.Pairwise (fun a b => Utf8.textOctets a.id < Utf8.textOctets b.id) ∧
      ∀ id c, (∃ r ∈ rs, r.id = id ∧ r.slot = c) ↔ T id = some c ∧ q.selects id c = true
  | .get id, .ok r, T => r.map (fun x => (x.id, x.slot)) = (T id).map (id, ·)
  | .create now r, .ok row, T => T r.id = none ∧ row = { r with updatedAt := now }
  | .create _ r, .error e, T => e = .conflict r.id ∧ T r.id ≠ none
  | .update _ f p, .ok n, T => f.isEmpty = false ∧ p.isEmpty = false ∧ n = selectedCount T f
  | .update _ f p, .error e, _ =>
    (f.isEmpty = true ∧ e = .emptyFilter) ∨
      (f.isEmpty = false ∧ p.isEmpty = true ∧ e = .emptyPatch)
  | _, _, _ => False

/-- What a call with reply `r` does to the table: a registration that succeeded adds its record,
an update that succeeded patches the records its filter selects, and nothing else changes it. -/
def effect : (c : StoreCall) → Except StoreError c.Reply → (String → Option Slot) →
    String → Option Slot
  | .create _ r, .ok _, T => Call.effect (.create r) (.ok ()) T
  | .update _ f p, .ok n, T => Call.effect (.update f p) (.ok n) T
  | _, _, T => T

end StoreCall

namespace TargetStore

/-- A store answers the calls `cs` as the table `T` does, the table changing by the effect of
each call. -/
def ActsAsTable : List StoreCall → TargetStore → (String → Option Slot) → Prop
  | [], _, _ => True
  | c :: cs, s, T =>
    c.Answers (c.op.run.run s).1 T ∧
      ActsAsTable cs (c.op.run.run s).2 (c.effect (c.op.run.run s).1 T)

/-- One call on the store `s` answers as its table does, leaves an ordered store, and changes
the table by its effect. -/
def Refines (s : TargetStore) (c : StoreCall) : Prop :=
  c.Answers (c.op.run.run s).1 (view s) ∧ (c.op.run.run s).2.Ordered ∧
    view (c.op.run.run s).2 = c.effect (c.op.run.run s).1 (view s)

/-- A look-up answers the first row of its id and changes nothing. -/
theorem find?_run (id : String) (s : TargetStore) :
    (find? id).run.run s =
      (if s.isOpen then .ok (s.rows.find? (·.id = id)) else .error .closed, s) := by
  -- the condition `id = ?` passes exactly the rows of that id
  have hpass :
      (fun r : TargetRecord => r.passes [(.id, .text id)]) = fun r => decide (r.id = id) := by
    funext r
    simp [TargetRecord.passes, TargetRecord.column]
  simp only [find?, run_bind, run_requireOpen, hpass, List.head?_filter]
  by_cases ho : s.isOpen = true
  · simp only [ho, if_true]
    rfl
  · simp [ho]

/-- The slot the table holds for an id that has a row. -/
theorem view_of_mem {s : TargetStore} (hk : s.Keyed) {x : TargetRecord} (hx : x ∈ s.rows) :
    view s x.id = some x.slot := by
  simp [view, find?_of_mem hk hx]

/-- A call that leaves the store as it was refines the table when it answers as the table does
and its answer changes nothing on the table. -/
theorem Ordered.refines_of_unchanged {s : TargetStore} (h : s.Ordered) {c : StoreCall}
    {a : Except StoreError c.Reply} (hrun : c.op.run.run s = (a, s))
    (hans : c.Answers a (view s)) (heff : c.effect a (view s) = view s) : s.Refines c := by
  refine ⟨?_, ?_, ?_⟩ <;> rw [hrun]
  · exact hans
  · exact h
  · exact heff.symm

theorem Ordered.refines_search {s : TargetStore} (h : s.Ordered) (q : TargetQuery) :
    s.Refines (.search q) := by
  have hrun : (StoreCall.search q).op.run.run s = (.ok (s.rows.filter q.matches), s) := by
    simp [StoreCall.op, search_run, h.isOpen]
  obtain ⟨hasc, hsel⟩ := search_answer h q
  -- rows in ascending order of id are in ascending byte order of id
  exact h.refines_of_unchanged hrun
    ⟨hasc.imp fun hlt => (Utf8.lt_iff_textOctets_lt _ _).mp hlt, hsel⟩ rfl

theorem Ordered.refines_get {s : TargetStore} (h : s.Ordered) (id : String) :
    s.Refines (.get id) := by
  have hrun : (StoreCall.get id).op.run.run s = (.ok (s.rows.find? (·.id = id)), s) := by
    simp [StoreCall.op, find?_run, h.isOpen]
  refine h.refines_of_unchanged hrun ?_ rfl
  show (s.rows.find? (·.id = id)).map (fun x => (x.id, x.slot)) =
    ((s.rows.find? (·.id = id)).map TargetRecord.slot).map (id, ·)
  rw [Option.map_map]
  refine Option.map_congr fun x hx => ?_
  -- the row found carries the id looked up
  have hid : x.id = id := by simpa using List.find?_some hx
  simp [hid]

theorem Ordered.refines_create {s : TargetStore} (h : s.Ordered) (now : Instant)
    (r : TargetRecord) : s.Refines (.create now r) := by
  by_cases hr : s.rows.any (·.id = r.id) = true
  · -- a taken id: a conflict, and the store stays as it was
    have hrun : (StoreCall.create now r).op.run.run s = (.error (.conflict r.id), s) := by
      simp [StoreCall.op, create_run, h.isOpen, hr]
    obtain ⟨x, hx, hid⟩ := List.any_eq_true.mp hr
    have hxr : x.id = r.id := by simpa using hid
    exact h.refines_of_unchanged hrun ⟨rfl, by simp [← hxr, view_of_mem h.keyed hx]⟩ rfl
  · have hr' : s.rows.any (·.id = r.id) = false := by simpa using hr
    have hrun : (StoreCall.create now r).op.run.run s = (.ok { r with updatedAt := now },
        { s with rows := insertSorted { r with updatedAt := now } s.rows }) := by
      simp [StoreCall.op, create_run, h.isOpen, hr']
    -- the row goes in through the store's backend, which acts on the table at once
    have hbackend : (backend now).create r s =
        .ok { s with rows := insertSorted { r with updatedAt := now } s.rows } := by
      simp [backend_create h.isOpen now r, hr']
    have hcreate := (backend_atomic now).create h.keyed hbackend
    refine ⟨?_, ?_, ?_⟩ <;> rw [hrun]
    · exact ⟨hcreate.2.1, rfl⟩
    · exact ⟨h.isOpen, insertSorted_ascending h.ascending hr'⟩
    · exact funext hcreate.2.2

theorem Ordered.refines_update {s : TargetStore} (h : s.Ordered) (now : Instant)
    (f : TargetQuery) (p : TargetPatch) : s.Refines (.update now f p) := by
  by_cases hf : f.isEmpty = true
  · have hrun : (StoreCall.update now f p).op.run.run s = (.error .emptyFilter, s) := by
      simp [StoreCall.op, update_run, hf]
    exact h.refines_of_unchanged hrun (.inl ⟨hf, rfl⟩) rfl
  have hf' : f.isEmpty = false := by simpa using hf
  by_cases hp : p.isEmpty = true
  · have hrun : (StoreCall.update now f p).op.run.run s = (.error .emptyPatch, s) := by
      simp [StoreCall.op, update_run, hf', hp]
    exact h.refines_of_unchanged hrun (.inr ⟨hf', hp, rfl⟩) rfl
  have hp' : p.isEmpty = false := by simpa using hp
  -- filter and patch both name a field: the update goes through as the backend's does
  have hrun : (StoreCall.update now f p).op.run.run s = (.ok (s.rows.filter f.matches).length,
      { s with rows := s.rows.map fun r =>
          if f.matches r then { p.apply r with updatedAt := now } else r }) := by
    simp [StoreCall.op, update_run, hf', hp', h.isOpen]
  have hbackend := backend_update h.isOpen now hf' hp'
  have hperform := h.perform now (show Call.Filtered (.update f p) from ⟨hf', hp'⟩)
  simp only [LockBackend.perform, hbackend] at hperform
  have hupdate := (backend_atomic now).update h.keyed hbackend
  refine ⟨?_, ?_, ?_⟩ <;> rw [hrun]
  · exact ⟨hf', hp', hperform.1⟩
  · exact hperform.2
  · exact funext hupdate.2.1

/-- One call on an open store whose rows stand in ascending order of id answers and acts as the
table does, and leaves such a store. -/
theorem Ordered.refines {s : TargetStore} (h : s.Ordered) : ∀ c : StoreCall, s.Refines c
  | .search q => h.refines_search q
  | .get id => h.refines_get id
  | .create now r => h.refines_create now r
  | .update now f p => h.refines_update now f p

/-- Every sequence of calls on such a store answers as its table does. -/
theorem Ordered.actsAsTable {s : TargetStore} (h : s.Ordered) :
    ∀ cs : List StoreCall, s.ActsAsTable cs (view s)
  | [] => trivial
  | c :: cs => by
    obtain ⟨hans, hord, hview⟩ := h.refines c
    refine ⟨hans, ?_⟩
    -- the table after the call is the view of the store after it
    rw [← hview]
    exact hord.actsAsTable cs

end TargetStore

theorem fresh_view : TargetStore.view TargetStore.fresh = fun _ => none := by
  have hrows : TargetStore.fresh.rows = [] := by decide
  funext id
  simp [TargetStore.view, hrows]

/-- The conditions the store renders select exactly the records their queries match, and from
the store a migration leaves, every sequence of searches, look-ups, registrations and updates
answers as the empty table does, the table changing by the effect of each call. -/
theorem store_refines_table :
    (∀ (q : TargetQuery) (r : TargetRecord), r.passes q.whereClause.bound = q.matches r) ∧
      ∀ cs : List StoreCall, TargetStore.fresh.ActsAsTable cs (fun _ => none) :=
  ⟨TargetQuery.passes_whereClause, fun cs => fresh_view ▸ fresh_ordered.actsAsTable cs⟩

end TestDispatch
