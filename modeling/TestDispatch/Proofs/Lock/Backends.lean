import Mathlib.Data.Set.Card
import TestDispatch.Proofs.Lock.Table
/-!
# The lock backends against the lock table

The lock table is a finite map from id to slot. Against it each backend primitive has a right
answer (`Call.Answers`): a search answers the records its query selects, one per id, in
ascending order of id (`SearchAnswer`); a registration succeeds exactly when its id has no
record, and is refused as `registered` when it has one; an update answers how many records its
filter selects (`selectedCount`). Each call changes the table by its effect (`Call.effect`), and
`LockBackend.AnswersAsTable` says that a backend answers a whole sequence of calls so. Only the
calls the lock service makes count (`Call.Valid`).

* `TargetStore.answersAsTable`: the local store answers every sequence of valid calls as the
  table does, from any open store whose rows stand in ascending order of id
  (`TargetStore.Ordered`), one call at a time (`TargetStore.Ordered.perform`).

The Redis client is held against the table in `Proofs.Lock.Redis`, the HTTP client in
`Proofs.Lock.Http`, and the three side by side in `Proofs.Lock.Agreement`.
-/

namespace TestDispatch

/-! ## The table's answers -/

/-- The records a search may answer on the table `T`: those its query selects, one per id, in
ascending order of id. Write times are not compared. -/
def SearchAnswer (T : String → Option Slot) (q : TargetQuery) (rs : List TargetRecord) : Prop :=
  rs.Pairwise (fun a b => a.id < b.id) ∧
    ∀ id c, (∃ r ∈ rs, r.id = id ∧ r.slot = c) ↔ T id = some c ∧ q.selects id c = true

/-- How many records of the table `T` a filter selects. -/
noncomputable def selectedCount (T : String → Option Slot) (f : TargetQuery) : Nat :=
  {id | ∃ c, T id = some c ∧ f.selects id c = true}.ncard

/-- Whether `r` is the reply the table `T` gives to a call: a search answers the records its
query selects; a registration succeeds exactly when its id has no record, and is refused as
`registered` when it has one; an update answers how many records its filter selects. No call
fails otherwise. -/
def Call.Answers : (c : Call) → Except BackendError c.Reply → (String → Option Slot) → Prop
  | .search q, .ok rs, T => SearchAnswer T q rs
  | .create r, .ok _, T => T r.id = none
  | .create r, .error e, T => e = .registered ∧ T r.id ≠ none
  | .update f _, .ok n, T => n = selectedCount T f
  | _, _, _ => False

/-- The calls the lock service makes: a registration names an id and a slot occupied exactly
when it has a holder, and an update's filter and patch each name a field. -/
def Call.Valid : Call → Prop
  | .search _ => True
  | .create r => r.id ≠ "" ∧ (r.occupied = true ↔ r.holder ≠ "")
  | .update f p => f.isEmpty = false ∧ p.isEmpty = false

/-- Whether an update, if the call is one, names a field in its filter and in its patch. The
store refuses any other update before it reaches the table. -/
def Call.Filtered : Call → Prop
  | .update f p => f.isEmpty = false ∧ p.isEmpty = false
  | _ => True

theorem Call.Valid.filtered {c : Call} (h : c.Valid) : c.Filtered := by
  cases c with
  | update f p => exact h
  | search q => trivial
  | create r => trivial

/-- A backend answers the calls `cs`, from the state `s`, as the table `T` does, the table
changing by the effect of each call. -/
def LockBackend.AnswersAsTable {σ : Type} (b : LockBackend σ) :
    List Call → σ → (String → Option Slot) → Prop
  | [], _, _ => True
  | c :: cs, s, T =>
    c.Answers (b.perform c s).1 T ∧
      b.AnswersAsTable cs (b.perform c s).2 (c.effect (b.perform c s).1 T)

/-- A backend answers as the table whenever another does, if it gives each call the other's reply
and their states stay related by `R`; `R cs` relates the states from which the calls `cs` are still
to come. -/
theorem LockBackend.AnswersAsTable.of_simulation {σ τ : Type} {b : LockBackend σ}
    {b' : LockBackend τ} (R : List Call → σ → τ → Prop)
    (hstep : ∀ c cs s t, R (c :: cs) s t →
      (b.perform c s).1 = (b'.perform c t).1 ∧ R cs (b.perform c s).2 (b'.perform c t).2) :
    ∀ {cs : List Call} {s : σ} {t : τ} {T : String → Option Slot}, R cs s t →
      b'.AnswersAsTable cs t T → b.AnswersAsTable cs s T
  | [], _, _, _, _, _ => trivial
  | c :: cs, s, t, T, hR, ⟨hans, hrest⟩ => by
    obtain ⟨hreply, hR'⟩ := hstep c cs s t hR
    refine ⟨hreply ▸ hans, ?_⟩
    rw [hreply]
    exact of_simulation R hstep hR' hrest

/-- A search answers as the table does when its records, by id and slot, are the entries the query
selects among ids that ascend and include every selected one. -/
theorem searchAnswer_of_entries {T : String → Option Slot} {q : TargetQuery} {ids : List String}
    {rs : List TargetRecord} (hsorted : ids.Pairwise (· < ·))
    (hcover : ∀ id c, T id = some c → q.selects id c = true → id ∈ ids)
    (hrs : rs.map (fun r => (r.id, r.slot)) =
      ids.filterMap fun id => (T id).bind fun c => if q.selects id c then some (id, c) else none) :
    SearchAnswer T q rs := by
  -- an id the query selects gives the entry of that id
  have hpick : ∀ {id id' : String} {c : Slot},
      ((T id).bind fun c => if q.selects id c then some (id, c) else none) = some (id', c) ↔
        id = id' ∧ T id = some c ∧ q.selects id c = true := by
    intro id id' c
    cases hT : T id with
    | none => simp
    | some c' =>
      by_cases hs : q.selects id c' = true
      · simp only [Option.bind_some, hs, if_true, Option.some.injEq, Prod.mk.injEq]
        constructor
        · rintro ⟨rfl, rfl⟩
          exact ⟨rfl, rfl, hs⟩
        · rintro ⟨rfl, rfl, -⟩
          exact ⟨rfl, rfl⟩
      · simp only [Option.bind_some, hs, Bool.false_eq_true, if_false, reduceCtorEq, false_iff]
        rintro ⟨rfl, ⟨⟩, hs'⟩
        exact hs hs'
  have hpair : (rs.map fun r => (r.id, r.slot)).Pairwise (fun a b => a.1 < b.1) := by
    rw [hrs]
    refine hsorted.filterMap _ fun a a' hlt b hb b' hb' => ?_
    obtain ⟨rfl, -⟩ := hpick.mp hb
    obtain ⟨rfl, -⟩ := hpick.mp hb'
    exact hlt
  have hascending := List.pairwise_map.mp hpair
  refine ⟨hascending, fun id c => ?_⟩
  · have hentry : (∃ r ∈ rs, r.id = id ∧ r.slot = c) ↔ (id, c) ∈ rs.map fun r => (r.id, r.slot) := by
      simp
    rw [hentry, hrs, List.mem_filterMap]
    constructor
    · rintro ⟨id', -, h⟩
      obtain ⟨rfl, hc, hsel⟩ := hpick.mp h
      exact ⟨hc, hsel⟩
    · rintro ⟨hc, hsel⟩
      exact ⟨id, hcover id c hc hsel, hpick.mpr ⟨rfl, hc, hsel⟩⟩

/-- The records an update selects, counted over ids without repeats that include every selected
one. -/
theorem selectedCount_eq_countP {T : String → Option Slot} {f : TargetQuery} {ids : List String}
    (hnd : ids.Nodup) (hcover : ∀ id c, T id = some c → f.selects id c = true → id ∈ ids) :
    selectedCount T f = ids.countP fun id => (T id).any (f.selects id) := by
  have hset : {id | ∃ c, T id = some c ∧ f.selects id c = true} =
      ↑(ids.filter fun id => (T id).any (f.selects id)).toFinset := by
    ext id
    simp only [Set.mem_ofPred_eq, List.coe_toFinset, List.mem_filter, Option.any_eq_true_iff_get]
    constructor
    · rintro ⟨c, hc, hsel⟩
      exact ⟨hcover id c hc hsel, by simp [hc], by simpa [hc] using hsel⟩
    · rintro ⟨-, hsome, hsel⟩
      exact ⟨_, Option.some_get hsome |>.symm, hsel⟩
  rw [selectedCount, hset, Set.ncard_coe_finset, List.toFinset_card_of_nodup (hnd.filter _),
    List.countP_eq_length_filter]

/-! ## The local store -/

namespace TargetStore

/-- An open store whose rows stand in strictly ascending order of id. -/
structure Ordered (s : TargetStore) : Prop where
  isOpen : s.isOpen = true
  ascending : s.rows.Pairwise (fun a b => a.id < b.id)

theorem Ordered.keyed {s : TargetStore} (h : s.Ordered) : s.Keyed := by
  unfold Keyed List.Nodup
  refine (List.pairwise_map.mpr h.ascending).imp fun {a b} hlt heq => ?_
  rw [heq] at hlt
  exact String.lt_irrefl b hlt

theorem mem_insertSorted {x r : TargetRecord} {rows : List TargetRecord} :
    x ∈ insertSorted r rows ↔ x = r ∨ x ∈ rows := by
  rw [(insertSorted_perm r rows).mem_iff, List.mem_cons]

/-- A row of a new id goes in its place among rows in ascending order of id. -/
theorem insertSorted_ascending {r : TargetRecord} {rows : List TargetRecord}
    (h : rows.Pairwise (fun a b => a.id < b.id)) (hr : rows.any (·.id = r.id) = false) :
    (insertSorted r rows).Pairwise (fun a b => a.id < b.id) := by
  induction rows with
  | nil => simp [insertSorted]
  | cons x xs ih =>
    obtain ⟨hx, hxs⟩ := List.pairwise_cons.mp h
    simp only [List.any_cons, Bool.or_eq_false_iff, decide_eq_false_iff_not] at hr
    simp only [insertSorted]
    split
    · rename_i hlt
      -- the new row goes first: below `x`, and so below every row after it
      refine List.pairwise_cons.mpr ⟨fun y hy => ?_, h⟩
      rcases List.mem_cons.mp hy with rfl | hy
      · exact hlt
      · exact String.lt_trans hlt (hx y hy)
    · rename_i hnlt
      have hxr : x.id < r.id := Std.lt_of_le_of_ne hnlt hr.1
      refine List.pairwise_cons.mpr ⟨fun y hy => ?_, ih hxs hr.2⟩
      rcases mem_insertSorted.mp hy with rfl | hy
      · exact hxr
      · exact hx y hy

/-- A search of an ordered store answers the rows its query selects, which are the table's
answer. -/
theorem search_answer {s : TargetStore} (h : s.Ordered) (q : TargetQuery) :
    SearchAnswer (view s) q (s.rows.filter q.matches) := by
  refine ⟨h.ascending.filter _, fun id c => ⟨?_, ?_⟩⟩
  · rintro ⟨r, hr, rfl, rfl⟩
    obtain ⟨hmem, hm⟩ := List.mem_filter.mp hr
    exact ⟨by simp [view, find?_of_mem h.keyed hmem], hm⟩
  · rintro ⟨hc, hsel⟩
    obtain ⟨x, hfind, rfl⟩ := Option.map_eq_some_iff.mp hc
    have hx := List.find?_some hfind
    simp only [decide_eq_true_eq] at hx
    subst hx
    exact ⟨x, List.mem_filter.mpr ⟨List.mem_of_find?_eq_some hfind, hsel⟩, rfl, rfl⟩

/-- An update of an ordered store counts exactly the records of the table its filter selects. -/
theorem selectedCount_view {s : TargetStore} (h : s.Ordered) (f : TargetQuery) :
    selectedCount (view s) f = (s.rows.filter f.matches).length := by
  have hset : {id | ∃ c, view s id = some c ∧ f.selects id c = true} =
      ↑((s.rows.filter f.matches).map (·.id)).toFinset := by
    ext id
    simp only [Set.mem_ofPred_eq, List.coe_toFinset, List.mem_map]
    constructor
    · rintro ⟨c, hc⟩
      obtain ⟨r, hr, hid, -⟩ := ((search_answer h f).2 id c).mpr hc
      exact ⟨r, hr, hid⟩
    · rintro ⟨r, hr, rfl⟩
      exact ⟨r.slot, ((search_answer h f).2 r.id r.slot).mp ⟨r, hr, rfl, rfl⟩⟩
  have hnodup : ((s.rows.filter f.matches).map (·.id)).Nodup :=
    (List.Sublist.map (fun r : TargetRecord => r.id) List.filter_sublist).nodup h.keyed
  rw [selectedCount, hset, Set.ncard_coe_finset, List.toFinset_card_of_nodup hnodup,
    List.length_map]

/-! ## The store's primitives on an open store -/

theorem backend_search {s : TargetStore} (ho : s.isOpen = true) (now : Instant) (q : TargetQuery) :
    (backend now).search q s = .ok (s.rows.filter q.matches) := by
  simp only [backend, attempt, search, run_bind, run_requireOpen, ho, if_true, run_get,
    q.passes_whereClause]
  rfl

theorem backend_create {s : TargetStore} (ho : s.isOpen = true) (now : Instant) (r : TargetRecord) :
    (backend now).create r s =
      if s.rows.any (·.id = r.id) then .error .registered
      else .ok { s with rows := insertSorted { r with updatedAt := now } s.rows } := by
  simp only [backend, attempt, create_run, ho, Bool.not_true, Bool.false_eq_true, if_false]
  by_cases hr : s.rows.any (·.id = r.id) = true
  · simp only [hr, if_true]
    rfl
  · simp only [hr, Bool.false_eq_true, if_false]
    rfl

theorem backend_update {s : TargetStore} (ho : s.isOpen = true) (now : Instant) {f : TargetQuery}
    {p : TargetPatch} (hf : f.isEmpty = false) (hp : p.isEmpty = false) :
    (backend now).update f p s = .ok ((s.rows.filter f.matches).length,
      { s with rows := s.rows.map fun r =>
          if f.matches r then { p.apply r with updatedAt := now } else r }) := by
  simp only [backend, attempt, update_run, hf, hp, ho, Bool.not_true, Bool.false_eq_true, if_false]

/-- One call on an ordered store, an update only with a filter and a patch, answers as the table
does and keeps the store ordered. -/
theorem Ordered.perform {s : TargetStore} (h : s.Ordered) (now : Instant) {c : Call}
    (hc : c.Filtered) :
    c.Answers ((backend now).perform c s).1 (view s) ∧ ((backend now).perform c s).2.Ordered := by
  cases c with
  | search q =>
    simp only [LockBackend.perform, backend_search h.isOpen]
    exact ⟨search_answer h q, h⟩
  | create r =>
    simp only [LockBackend.perform, backend_create h.isOpen]
    by_cases hr : s.rows.any (·.id = r.id) = true
    · -- the id has a row: refused, and the store stays as it was
      obtain ⟨x, hx, hid⟩ := List.any_eq_true.mp hr
      simp only [decide_eq_true_eq] at hid
      simp only [hr, if_true]
      exact ⟨⟨rfl, by simp [view, ← hid, find?_of_mem h.keyed hx]⟩, h⟩
    · have hr' : s.rows.any (·.id = r.id) = false := by simpa using hr
      simp only [hr', Bool.false_eq_true, if_false]
      refine ⟨?_, h.isOpen, insertSorted_ascending h.ascending hr'⟩
      have hnone : ∀ x ∈ s.rows, x.id ≠ r.id := by simpa using hr'
      simpa [Call.Answers, view, List.find?_eq_none] using hnone
  | update f p =>
    obtain ⟨hf, hp⟩ := hc
    simp only [LockBackend.perform, backend_update h.isOpen now hf hp]
    refine ⟨(selectedCount_view h f).symm, h.isOpen, ?_⟩
    -- a patch keeps every id, so the rows stay in order
    refine List.pairwise_map.mpr (h.ascending.imp fun {a b} hab => ?_)
    rw [update_id, update_id]
    exact hab

/-- The local store answers every sequence of valid calls as the table does, from any ordered
store. -/
theorem answersAsTable (now : Instant) :
    ∀ {cs : List Call} {s : TargetStore}, s.Ordered → (∀ c ∈ cs, c.Valid) →
      (backend now).AnswersAsTable cs s (view s)
  | [], _, _, _ => trivial
  | c :: cs, s, h, hv => by
    obtain ⟨hans, hord⟩ := h.perform now (hv c (List.mem_cons_self ..)).filtered
    -- the table after the call is the view of the store after it
    have hview := ((backend_atomic now).perform h.keyed c).2.2
    refine ⟨hans, ?_⟩
    rw [← hview]
    exact answersAsTable now hord fun c' hc' => hv c' (List.mem_cons_of_mem _ hc')

end TargetStore

theorem fresh_ordered : TargetStore.fresh.Ordered := by
  have hrows : TargetStore.fresh.rows = [] := by decide
  exact ⟨by decide, by simp [hrows]⟩

end TestDispatch
