import Mathlib.Data.Set.Card
import TestDispatch.Proofs.Lock.Backends
/-!
# The lock service on its own

With nobody else acting and a backend that does not fail, one holder's service acts on the lock
table as the operations of `LockTable` say, read on the table itself:

* `LockTable.lock`: a free target is taken (`acquired`), a target without a record is registered
  held (`registered`), and an occupied target is left alone (`busy`);
* `LockTable.unlock`: the target is freed exactly when this holder holds it;
* `LockTable.forceUnlock`: the target is freed exactly when someone holds it;
* `LockTable.findAvailable`: the first candidate that is free or has no record is found, and
  registered free if it had none; when every candidate is occupied the search fails with
  `noTarget` and registers nothing.

`LockBackend.Faithful` says what "does not fail" means: from a good state, every search,
registration and update with a filter and a patch answers as the table does and changes it by
its effect. The local store is such a backend (`TargetStore.backend_faithful`).

Main statement: `lock_service_sequential`, which also says that the attempt a lock makes is
counted under its own name and under no other (`AttemptCounts.get_record`).
-/

namespace TestDispatch

/-- The state of a target given its slot on the table, if it has one. -/
def TargetState.ofSlot : Option Slot → TargetState
  | none => .unknown
  | some c => if c.occupied then .occupied else .free

theorem TargetState.ofSlot_eq_unknown {x : Option Slot} : TargetState.ofSlot x = .unknown ↔ x = none := by
  cases x with
  | none => simp [TargetState.ofSlot]
  | some c => cases h : c.occupied <;> simp [TargetState.ofSlot, h]

theorem TargetState.ofSlot_eq_occupied {x : Option Slot} :
    TargetState.ofSlot x = .occupied ↔ ∃ c, x = some c ∧ c.occupied = true := by
  cases x with
  | none => simp [TargetState.ofSlot]
  | some c => cases h : c.occupied <;> simp [TargetState.ofSlot, h]

namespace LockTable

/-- A lock attempt by `holder`: a free target is taken, a target without a record is registered
held, and an occupied target is left alone. -/
def lock (holder target : String) (T : String → Option Slot) :
    Attempt × (String → Option Slot) :=
  match TargetState.ofSlot (T target) with
  | .free => (.acquired, Function.update T target (some ⟨true, holder⟩))
  | .unknown => (.registered, Function.update T target (some ⟨true, holder⟩))
  | .occupied => (.busy, T)

/-- Giving back `target`: it is freed exactly when `holder` holds it. -/
def unlock (holder target : String) (T : String → Option Slot) :
    Except LockError Bool × (String → Option Slot) :=
  if T target = some ⟨true, holder⟩ then (.ok true, Function.update T target (some ⟨false, ""⟩))
  else (.ok false, T)

/-- Freeing `target` whoever holds it: it is freed exactly when it is occupied. -/
def forceUnlock (target : String) (T : String → Option Slot) :
    Except LockError Bool × (String → Option Slot) :=
  if TargetState.ofSlot (T target) = .occupied then
    (.ok true, Function.update T target (some ⟨false, ""⟩))
  else (.ok false, T)

/-- The first candidate that is free or has no record, registered free if it had none. -/
def findAvailable (candidates : List String) (T : String → Option Slot) :
    Except LockError String × (String → Option Slot) :=
  match candidates.find? fun c => TargetState.ofSlot (T c) != .occupied with
  | some c => (.ok c, if T c = none then Function.update T c (some ⟨false, ""⟩) else T)
  | none => (.error .noTarget, T)

theorem findAvailable_cons (c : String) (rest : List String) (T : String → Option Slot) :
    findAvailable (c :: rest) T =
      if TargetState.ofSlot (T c) = .occupied then findAvailable rest T
      else (.ok c, if T c = none then Function.update T c (some ⟨false, ""⟩) else T) := by
  by_cases hc : TargetState.ofSlot (T c) = .occupied <;> simp [findAvailable, hc]

end LockTable

/-! ## Counting attempts -/

/-- The count under a label, as the counters show it: a label never counted shows none. -/
def AttemptCounts.get (c : AttemptCounts) (label : String) : Nat :=
  (c.touched.lookup label).getD 0

theorem AttemptCounts.get_eq (c : AttemptCounts) (label : String) :
    c.get label = if label = "acquired" then c.acquired else if label = "busy" then c.busy
      else if label = "error" then c.failed else if label = "registered" then c.registered
      else 0 := by
  unfold get touched
  simp only [List.filter_cons, List.filter_nil]
  -- a counter left out for being zero reads as zero
  split_ifs <;> simp_all [List.lookup_cons, Bool.beq_eq_decide_eq]

/-- Counting an attempt adds one under its name and nothing under any other. -/
theorem AttemptCounts.get_record (c : AttemptCounts) (a : Attempt) (label : String) :
    (c.record a).get label = c.get label + if label = a.label then 1 else 0 := by
  cases a <;> simp only [get_eq, record, Attempt.label] <;> split_ifs <;> simp_all

/-! ## Backends that do not fail -/

/-- A backend that does not fail: from every state that is `good`, each search, registration
and update with a filter and a patch answers as the table read by `view` does, changes that
table by its effect, and keeps the state good. -/
structure LockBackend.Faithful {σ : Type} (b : LockBackend σ) (good : σ → Prop)
    (view : σ → String → Option Slot) : Prop where
  perform {s : σ} {c : Call} : good s → c.Filtered →
    c.Answers (b.perform c s).1 (view s) ∧ good (b.perform c s).2 ∧
      view (b.perform c s).2 = c.effect (b.perform c s).1 (view s)

/-- The local store does not fail on an ordered store. -/
theorem TargetStore.backend_faithful (now : Instant) :
    (TargetStore.backend now).Faithful TargetStore.Ordered TargetStore.view where
  perform hs hc :=
    ⟨(hs.perform now hc).1, (hs.perform now hc).2,
      ((TargetStore.backend_atomic now).perform hs.keyed _).2.2⟩

/-- A query for one target selects only that target. -/
theorem TargetQuery.eq_of_selects {q : TargetQuery} {t id : String} (hq : q.id = some t) {c : Slot}
    (h : q.selects id c = true) : id = t := by
  obtain ⟨qid, occupied, holder⟩ := q
  subst hq
  simp only [TargetQuery.selects, TargetQuery.matches, Option.all_some, Bool.and_eq_true,
    decide_eq_true_eq] at h
  exact h.1.1.symm

/-- A query for one target selects one record when it selects that target's slot, else none. -/
theorem selectedCount_of_id {f : TargetQuery} {t : String} (hf : f.id = some t)
    (T : String → Option Slot) :
    selectedCount T f = if ∃ c, T t = some c ∧ f.selects t c = true then 1 else 0 := by
  unfold selectedCount
  split
  · rename_i hsel
    have hset : {id | ∃ c, T id = some c ∧ f.selects id c = true} = {t} := by
      ext id
      refine ⟨fun ⟨c, _, hc⟩ => f.eq_of_selects hf hc, fun hid => ?_⟩
      rw [Set.mem_singleton_iff] at hid
      exact hid ▸ hsel
    rw [hset, Set.ncard_singleton]
  · rename_i hsel
    have hset : {id | ∃ c, T id = some c ∧ f.selects id c = true} = ∅ := by
      refine Set.eq_empty_of_forall_notMem fun id ⟨c, hc, hs⟩ => hsel ?_
      obtain rfl := f.eq_of_selects hf hs
      exact ⟨c, hc, hs⟩
    rw [hset, Set.ncard_empty]

/-- A search for one target answers, in its first record, the state of the target. -/
theorem SearchAnswer.state_head {T : String → Option Slot} {t : String} {rs : List TargetRecord}
    (h : SearchAnswer T (LockService.only t) rs) :
    TargetRecord.state rs.head? = TargetState.ofSlot (T t) := by
  have honly : ∀ id c, (LockService.only t).selects id c = true ↔ id = t := by
    simp [LockService.only, TargetQuery.selects, TargetQuery.matches, eq_comm]
  cases rs with
  | nil =>
    -- no record answers, so the target has none
    cases hT : T t with
    | none => rfl
    | some c =>
      obtain ⟨r, hr, -⟩ := (h.2 t c).mpr ⟨hT, (honly t c).mpr rfl⟩
      cases hr
  | cons r rest =>
    obtain ⟨hT, hsel⟩ := (h.2 r.id r.slot).mp ⟨r, List.mem_cons_self, rfl, rfl⟩
    rw [← (honly _ _).mp hsel, hT]
    rfl

namespace LockBackend.Faithful

variable {σ : Type} {b : LockBackend σ} {good : σ → Prop} {view : σ → String → Option Slot}

/-- A search answers the records its query selects. -/
theorem search (hb : b.Faithful good view) {s : σ} (hs : good s) (q : TargetQuery) :
    ∃ rs, b.search q s = .ok rs ∧ SearchAnswer (view s) q rs := by
  have h := (hb.perform hs (show Call.Filtered (.search q) from trivial)).1
  revert h
  simp only [LockBackend.perform]
  cases b.search q s with
  | ok rs => exact fun h => ⟨rs, rfl, h⟩
  | error e => exact False.elim

/-- A registration of an id without a record adds the record. -/
theorem create_of_none (hb : b.Faithful good view) {s : σ} (hs : good s) (r : TargetRecord)
    (hr : view s r.id = none) :
    ∃ s', b.create r s = .ok s' ∧ good s' ∧
      view s' = Function.update (view s) r.id (some r.slot) := by
  have h := hb.perform hs (show Call.Filtered (.create r) from trivial)
  revert h
  simp only [LockBackend.perform]
  cases b.create r s with
  | ok s' =>
    rintro ⟨-, hs', hview⟩
    refine ⟨s', rfl, hs', hview.trans (funext fun id => ?_)⟩
    by_cases hid : id = r.id <;> simp [Call.effect, Function.update, hid]
  | error e => exact fun h => absurd hr h.1.2

/-- An update of one target with a patch answers 1 and patches the target when its filter
selects the target's slot, and otherwise answers 0 and changes nothing. -/
theorem update_one (hb : b.Faithful good view) {s : σ} (hs : good s) (f : TargetQuery)
    (p : TargetPatch) {t : String} (hf : f.id = some t) (hp : p.isEmpty = false) :
    ∃ s', good s' ∧
      ((∃ c, view s t = some c ∧ f.selects t c = true ∧ b.update f p s = .ok (1, s') ∧
          view s' = Function.update (view s) t (some (p.applySlot c))) ∨
        ((¬ ∃ c, view s t = some c ∧ f.selects t c = true) ∧ b.update f p s = .ok (0, s') ∧
          view s' = view s)) := by
  have hfe : f.isEmpty = false := by simp [TargetQuery.isEmpty, hf]
  have h := hb.perform hs (show Call.Filtered (.update f p) from ⟨hfe, hp⟩)
  rcases hu : b.update f p s with e | ⟨n, s'⟩
  · simp only [LockBackend.perform, hu] at h
    exact h.1.elim
  · obtain ⟨hn, hs', hview⟩ := h
    simp only [LockBackend.perform, hu, Call.Answers] at hn hs' hview
    refine ⟨s', hs', ?_⟩
    rw [selectedCount_of_id hf] at hn
    -- the patch reaches only the one target, and only when its slot is selected
    have hpatch : ∀ id, (view s id).map (fun c => if f.selects id c then p.applySlot c else c) =
        if id = t then (view s t).map (fun c => if f.selects t c then p.applySlot c else c)
        else view s id := by
      intro id
      by_cases hid : id = t
      · simp [hid]
      · have hns : ∀ c, f.selects id c = false := fun c => by
          cases hc : f.selects id c
          · rfl
          · exact absurd (f.eq_of_selects hf hc) hid
        simp [hid, hns]
    split at hn
    · rename_i hsel
      obtain ⟨c, hc, hcs⟩ := hsel
      refine .inl ⟨c, hc, hcs, by rw [hn], hview.trans (funext fun id => ?_)⟩
      by_cases hid : id = t <;> simp [Call.effect, hpatch id, Function.update, hid, hc, hcs]
    · rename_i hsel
      refine .inr ⟨hsel, by rw [hn], hview.trans (funext fun id => ?_)⟩
      simp only [Call.effect, hpatch id]
      split
      · rename_i hid
        subst hid
        cases hc : view s id with
        | none => rfl
        | some c =>
          have hcs : f.selects id c = false := by
            cases h' : f.selects id c
            · rfl
            · exact absurd ⟨c, hc, h'⟩ hsel
          simp [hcs]
      · rfl

/-! ## The service's calls -/

/-- A lock attempts what the target's state calls for and changes the table as the table's lock
does. -/
theorem lock (hb : b.Faithful good view) {s : σ} (hs : good s) (holder target : String) :
    Prod.map id view (LockService.lock b holder target s) = LockTable.lock holder target (view s) ∧
      good (LockService.lock b holder target s).2 := by
  obtain ⟨s1, hs1, htake⟩ := hb.update_one hs { id := some target, occupied := some false }
    { occupied := some true, holder := some holder } rfl rfl
  rcases htake with ⟨c, hc, hsel, hu, hv⟩ | ⟨hnsel, hu, hv⟩
  · -- the target was free, and the conditional update took it
    have hfree : c.occupied = false := by
      simpa [TargetQuery.selects, TargetQuery.matches] using hsel
    simp only [LockService.lock, hu]
    refine ⟨?_, hs1⟩
    simp [LockTable.lock, hc, TargetState.ofSlot, hfree, hv, TargetPatch.applySlot]
  · -- the update took nothing: the target is occupied, or has no record
    obtain ⟨rs, hrs, hans⟩ := hb.search hs1 (LockService.only target)
    have hstate := hans.state_head
    rw [hv] at hstate
    cases rs with
    | cons r rest =>
      have hocc : TargetState.ofSlot (view s target) = .occupied := by
        rcases hc : view s target with _ | c
        · rw [hc] at hstate
          simp [TargetRecord.state, TargetState.ofSlot] at hstate
          split at hstate <;> cases hstate
        · have hcocc : c.occupied = true := by
            by_contra hne
            exact hnsel ⟨c, hc, by simpa [TargetQuery.selects, TargetQuery.matches] using hne⟩
          simp [TargetState.ofSlot, hcocc]
      simp only [LockService.lock, hu, hrs]
      refine ⟨?_, hs1⟩
      simp [LockTable.lock, hocc, hv]
    | nil =>
      have hnone : view s target = none := TargetState.ofSlot_eq_unknown.mp hstate.symm
      obtain ⟨s2, hc2, hs2, hv2⟩ := hb.create_of_none hs1
        { id := target, occupied := true, holder } (by rw [hv]; exact hnone)
      simp only [LockService.lock, hu, hrs, hc2]
      refine ⟨?_, hs2⟩
      simp [LockTable.lock, hnone, TargetState.ofSlot, hv2, hv, TargetRecord.slot]

/-- An unlock frees the target exactly when this holder holds it. -/
theorem unlock (hb : b.Faithful good view) {s : σ} (hs : good s) (holder target : String) :
    Prod.map id view (LockService.unlock b holder target s) =
        LockTable.unlock holder target (view s) ∧
      good (LockService.unlock b holder target s).2 := by
  obtain ⟨s1, hs1, hfree⟩ := hb.update_one hs
    { id := some target, occupied := some true, holder := some holder }
    { occupied := some false, holder := some "" } rfl rfl
  rcases hfree with ⟨c, hc, hsel, hu, hv⟩ | ⟨hnsel, hu, hv⟩
  · have hheld : c = ⟨true, holder⟩ := by
      obtain ⟨occupied, h⟩ := c
      simp only [TargetQuery.selects, TargetQuery.matches, Option.all_some, Bool.and_eq_true,
        decide_eq_true_eq] at hsel
      simp [hsel.1.2, hsel.2]
    simp only [LockService.unlock, hu]
    refine ⟨?_, hs1⟩
    simp [LockTable.unlock, hc, hheld, hv, TargetPatch.applySlot]
  · have hnot : view s target ≠ some ⟨true, holder⟩ := fun h =>
      hnsel ⟨_, h, by simp [TargetQuery.selects, TargetQuery.matches]⟩
    simp only [LockService.unlock, hu]
    refine ⟨?_, hs1⟩
    simp [LockTable.unlock, hnot, hv]

/-- A forced unlock frees the target exactly when someone holds it. -/
theorem forceUnlock (hb : b.Faithful good view) {s : σ} (hs : good s) (target : String) :
    Prod.map id view (LockService.forceUnlock b target s) = LockTable.forceUnlock target (view s) ∧
      good (LockService.forceUnlock b target s).2 := by
  obtain ⟨s1, hs1, hfree⟩ := hb.update_one hs { id := some target, occupied := some true }
    { occupied := some false, holder := some "" } rfl rfl
  rcases hfree with ⟨c, hc, hsel, hu, hv⟩ | ⟨hnsel, hu, hv⟩
  · have hocc : c.occupied = true := by
      simpa [TargetQuery.selects, TargetQuery.matches] using hsel
    simp only [LockService.forceUnlock, hu]
    refine ⟨?_, hs1⟩
    simp [LockTable.forceUnlock, hc, TargetState.ofSlot, hocc, hv, TargetPatch.applySlot]
  · -- an occupied target would have been selected
    have hnot : TargetState.ofSlot (view s target) ≠ .occupied := fun h => by
      obtain ⟨c, hc, hcocc⟩ := TargetState.ofSlot_eq_occupied.mp h
      exact hnsel ⟨c, hc, by simp [TargetQuery.selects, TargetQuery.matches, hcocc]⟩
    simp only [LockService.forceUnlock, hu]
    refine ⟨?_, hs1⟩
    simp [LockTable.forceUnlock, hnot, hv]

/-- The search for a target finds the first candidate that is free or has no record, and
registers it free if it had none. -/
theorem findAvailable (hb : b.Faithful good view) {s : σ} (hs : good s)
    (candidates : List String) :
    Prod.map id view (LockService.findAvailable b candidates s) =
        LockTable.findAvailable candidates (view s) ∧
      good (LockService.findAvailable b candidates s).2 := by
  -- induction on the candidates; passing one over leaves the state as it was
  induction candidates with
  | nil => exact ⟨rfl, hs⟩
  | cons c rest ih =>
    obtain ⟨rs, hrs, hans⟩ := hb.search hs (LockService.only c)
    have hstate := hans.state_head
    rw [LockTable.findAvailable_cons]
    cases rs with
    | nil =>
      -- no record answers: the candidate is registered free and found
      have hnone : view s c = none := TargetState.ofSlot_eq_unknown.mp hstate.symm
      obtain ⟨s1, hc1, hs1, hv1⟩ := hb.create_of_none hs { id := c } hnone
      simp only [LockService.findAvailable, hrs, hc1]
      refine ⟨?_, hs1⟩
      simp [hnone, TargetState.ofSlot, hv1, TargetRecord.slot]
    | cons r more =>
      -- a record answers: the candidate is found when free and passed over when occupied
      simp only [TargetRecord.state, List.head?_cons] at hstate
      by_cases hocc : TargetState.ofSlot (view s c) = .occupied
      · have hr : r.occupied = true := by
          rw [hocc] at hstate
          by_contra hne
          simp [hne] at hstate
        simp only [LockService.findAvailable, hrs, TargetRecord.state, List.head?_cons, hr,
          if_true, hocc]
        exact ih
      · have hr : r.occupied = false := by
          by_contra hne
          simp only [Bool.not_eq_false] at hne
          simp only [hne, if_true] at hstate
          exact hocc hstate.symm
        have hsome : view s c ≠ none := by
          intro hc
          simp [hc, TargetState.ofSlot, hr] at hstate
        simp only [LockService.findAvailable, hrs, TargetRecord.state, List.head?_cons, hr]
        refine ⟨?_, hs⟩
        simp [hocc, hsome]

end LockBackend.Faithful

/-- One holder's service over backend `b` from state `s`, nobody else acting, acts on the table
read through `view` as the table's own operations do, each keeping the state good. -/
structure LockBackend.Sequential {σ : Type} (b : LockBackend σ) (good : σ → Prop)
    (view : σ → String → Option Slot) (holder : String) (s : σ) : Prop where
  lock (target : String) :
    Prod.map id view (LockService.lock b holder target s) = LockTable.lock holder target (view s) ∧
      good (LockService.lock b holder target s).2
  /-- The attempt a lock makes is counted under its own name and under no other. -/
  lockCounted (target : String) (counts : AttemptCounts) (label : String) :
    (counts.record (LockService.lock b holder target s).1).get label =
      counts.get label + if label = (LockTable.lock holder target (view s)).1.label then 1 else 0
  unlock (target : String) :
    Prod.map id view (LockService.unlock b holder target s) =
        LockTable.unlock holder target (view s) ∧
      good (LockService.unlock b holder target s).2
  forceUnlock (target : String) :
    Prod.map id view (LockService.forceUnlock b target s) = LockTable.forceUnlock target (view s) ∧
      good (LockService.forceUnlock b target s).2
  findAvailable (candidates : List String) :
    Prod.map id view (LockService.findAvailable b candidates s) =
        LockTable.findAvailable candidates (view s) ∧
      good (LockService.findAvailable b candidates s).2

/-- Over a backend that does not fail, from any good state, a holder's lock takes a free or
unknown target and leaves an occupied one, counting its attempt under exactly one name; its
unlock frees the target exactly when it holds it; a forced unlock frees the target exactly when
it is occupied; and its search for a target finds the first free or unknown candidate,
registering an unknown one free, or fails with `noTarget` having registered nothing. -/
theorem lock_service_sequential {σ : Type} {b : LockBackend σ} {good : σ → Prop}
    {view : σ → String → Option Slot} (hb : b.Faithful good view) (holder : String) {s : σ}
    (hs : good s) : b.Sequential good view holder s where
  lock target := hb.lock hs holder target
  lockCounted target counts label := by
    have hattempt : (LockService.lock b holder target s).1 =
        (LockTable.lock holder target (view s)).1 :=
      congrArg Prod.fst (hb.lock hs holder target).1
    rw [AttemptCounts.get_record, hattempt]
  unlock target := hb.unlock hs holder target
  forceUnlock target := hb.forceUnlock hs target
  findAvailable candidates := hb.findAvailable hs candidates

/-- The local store, started fresh, serves one holder as the table does. -/
theorem fresh_store_sequential :
    (TargetStore.backend Instant.zero).Sequential TargetStore.Ordered TargetStore.view "worker-1"
      TargetStore.fresh :=
  lock_service_sequential (TargetStore.backend_faithful Instant.zero) "worker-1" fresh_ordered

end TestDispatch
