import TestDispatch.Proofs.Lock.Calls
/-!
# Mutual exclusion of the lock service

Callers run calls of the lock service at the same time over one backend, each call for a holder.
Each primitive of the backend acts at once; between two primitives of one call, any other caller
may act. A `World` keeps the backend's state and what each caller is doing; a `Move` starts a
call on an idle caller or performs the next primitive of a busy caller's call, and a run is any
list of moves: any interleaving of the callers' primitives. A call returns with the primitive
after which its program answers, or as it starts if it answers without one.

`World.Sound` is the invariant: the backend's state is good, every slot is well formed, and each
busy caller runs what is left of a call for a named holder (`Op.Running`). On a backend that is
`LockBackend.Atomic`, for every move:

* `World.Sound.step`: the invariant holds after it, force-unlocks included;
* `World.Sound.taken`: a call that returns a target as taken found it free or unregistered just
  before, and leaves it held by its holder;
* `World.Sound.held_kept`: a target held by `h` stays so, unless the move makes `h`'s unlock of it
  or a force-unlock of it return `true`;
* `World.Sound.unlock_held`: `h`'s unlock of a target returns `true` only if `h` held it.

Over runs, `World.Sound.run` and `World.Sound.held_run`: once `h` holds a target, nobody's call
returns it as taken until `h`'s unlock of it or a force-unlock of it has returned `true`.
`lock_service_exclusion` puts these together as `LockBackend.Exclusive`, for every world reached
from a table of well-formed records.
-/

namespace TestDispatch

/-! ## Callers sharing one backend -/

/-- A call that has returned: its holder, the call, and its answer. -/
structure Return where
  holder : String
  op : Op
  answer : LockAnswer

/-- Whether a return gives `target` back from `holder`: `holder`'s unlock of it or anyone's
force-unlock of it, answering `true`. -/
def Return.Frees (e : Return) (holder target : String) : Prop :=
  e.answer = .held true ∧ (e.op = .unlock target ∧ e.holder = holder ∨ e.op = .forceUnlock target)

/-- What one caller is doing: nothing, or a call for `holder` with what is left of its program. -/
inductive Proc where
  | idle
  | busy (holder : String) (op : Op) (rest : Prog LockAnswer)

/-- Callers sharing one backend: the backend's state and what each caller is doing. -/
structure World (σ : Type) where
  table : σ
  procs : Nat → Proc

/-- A move of one caller: start a call for a holder, or perform the next primitive of its call. -/
inductive Move where
  | call (caller : Nat) (holder : String) (op : Op)
  | step (caller : Nat)

/-- Whether a move that starts a call names its holder. -/
def Move.Named : Move → Prop
  | .call _ holder _ => holder ≠ ""
  | .step _ => True

namespace World

variable {σ : Type} (b : LockBackend σ)

/-- The world where nobody calls yet. -/
def init (s : σ) : World σ := ⟨s, fun _ => .idle⟩

/-- A caller whose call has come to `p`: idle with the call's return if `p` answers, else busy. -/
def settle (holder : String) (op : Op) : Prog LockAnswer → Proc × Option Return
  | .done a => (.idle, some ⟨holder, op, a⟩)
  | .call c next => (.busy holder op (.call c next), none)

/-- Sets what caller `i` is doing. -/
def setProc (w : World σ) (i : Nat) (p : Proc) : World σ :=
  { w with procs := fun j => if j = i then p else w.procs j }

/-- One move, and the return it brings, if any. Starting a call on a busy caller or stepping an
idle one does nothing. -/
def step (w : World σ) : Move → World σ × Option Return
  | .call i holder op =>
    match w.procs i with
    | .idle =>
      let s := settle holder op (op.prog holder)
      (w.setProc i s.1, s.2)
    | .busy .. => (w, none)
  | .step i =>
    match w.procs i with
    | .busy holder op (.call c next) =>
      let r := b.perform c w.table
      let s := settle holder op (next r.1)
      ({ w with table := r.2 }.setProc i s.1, s.2)
    | _ => (w, none)

/-- A run of moves: the world at its end, and the returns in order. -/
def run (w : World σ) : List Move → World σ × List Return
  | [] => (w, [])
  | m :: ms =>
    let s := w.step b m
    let r := s.1.run ms
    (r.1, s.2.toList ++ r.2)

/-- The worlds that runs reach from table `s`, each call naming its holder. -/
def Reachable (s : σ) (w : World σ) : Prop :=
  ∃ ms : List Move, (∀ m ∈ ms, m.Named) ∧ ((init s).run b ms).1 = w

/-- What a move does: nothing; start a call on an idle caller, which may answer at once; or
perform the next primitive of a busy caller's call. -/
theorem step_cases (w : World σ) (m : Move) :
    w.step b m = (w, none) ∨
    (∃ i holder op, m = .call i holder op ∧ w.procs i = .idle ∧
      w.step b m = (w.setProc i (settle holder op (op.prog holder)).1,
        (settle holder op (op.prog holder)).2)) ∨
    (∃ i holder op c next, m = .step i ∧ w.procs i = .busy holder op (.call c next) ∧
      w.step b m = ({ w with table := (b.perform c w.table).2 }.setProc i
          (settle holder op (next (b.perform c w.table).1)).1,
        (settle holder op (next (b.perform c w.table).1)).2)) := by
  cases m with
  | call i holder op =>
    cases hi : w.procs i with
    | idle => exact .inr (.inl ⟨i, holder, op, rfl, hi, by simp only [step, hi]⟩)
    | busy h o p => exact .inl (by simp only [step, hi])
  | step i =>
    cases hi : w.procs i with
    | idle => exact .inl (by simp only [step, hi])
    | busy holder op p =>
      cases p with
      | done a => exact .inl (by simp only [step, hi])
      | call c next => exact .inr (.inr ⟨i, holder, op, c, next, rfl, hi, by simp only [step, hi]⟩)

theorem settle_eq_some {holder : String} {op : Op} {p : Prog LockAnswer} {e : Return}
    (h : (settle holder op p).2 = some e) : p = .done e.answer ∧ e.holder = holder ∧ e.op = op := by
  cases p with
  | done a =>
    cases h
    exact ⟨rfl, rfl, rfl⟩
  | call c next => cases h

end World

/-! ## The invariant -/

/-- Every busy caller runs what is left of a call for a named holder. -/
def World.Running {σ : Type} (w : World σ) : Prop :=
  ∀ i holder op p, w.procs i = .busy holder op p → holder ≠ "" ∧ op.Running holder p

/-- What holds of every world reached from a table of well-formed records: the backend's state
is good, every slot is well formed, and every busy caller runs what is left of its call. -/
structure World.Sound {σ : Type} (good : σ → Prop) (view : σ → String → Option Slot)
    (w : World σ) : Prop where
  good : good w.table
  wellFormed : ∀ id d, view w.table id = some d → d.WellFormed
  running : w.Running

theorem Op.Running.next {holder : String} {op : Op} {c : Call}
    {next : Except BackendError c.Reply → Prog LockAnswer} (h : op.Running holder (.call c next))
    (r : Except BackendError c.Reply) {c' : Call} {next' : Except BackendError c'.Reply → Prog LockAnswer}
    (hr : next r = .call c' next') : op.Running holder (next r) := by
  cases h with
  | takes hrel hissues hdecides => exact .takes hrel (hissues.next r) (hdecides.next r)
  | unlock target => cases hr
  | forceUnlock target => cases hr

theorem Op.Running.writesWellFormed {holder : String} (hh : holder ≠ "") {op : Op} {c : Call}
    {next : Except BackendError c.Reply → Prog LockAnswer} (h : op.Running holder (.call c next)) :
    c.WritesWellFormed := by
  cases h with
  | takes _ hissues _ => exact hissues.head.writesWellFormed hh
  | unlock target => exact releaseUpdate_writesWellFormed _ _
  | forceUnlock target => exact releaseUpdate_writesWellFormed _ _

namespace World

variable {σ : Type} {b : LockBackend σ} {good : σ → Prop} {view : σ → String → Option Slot}

/-- A caller settled on what is left of a running call keeps every caller running. -/
theorem Running.setProc {w : World σ} (hw : w.Running) (i : Nat) {holder : String} {op : Op}
    {p : Prog LockAnswer} (hh : holder ≠ "")
    (hp : ∀ c next, p = .call c next → op.Running holder p) :
    (w.setProc i (settle holder op p).1).Running := by
  intro j h o q hj
  simp only [World.setProc] at hj
  split at hj
  · cases p with
    | done a => cases hj
    | call c next =>
      cases hj
      exact ⟨hh, hp c next rfl⟩
  · exact hw j h o q hj

theorem init_sound {s : σ} (hs : good s) (hwf : ∀ id d, view s id = some d → d.WellFormed) :
    (init s).Sound good view :=
  ⟨hs, hwf, fun _ _ _ _ h => by cases h⟩

section Steps

variable (hb : b.Atomic good view)
include hb

/-- Every move keeps the invariant: a taking call writes its named holder or a free slot, and
giving back writes a free slot. -/
theorem Sound.step {w : World σ} (hw : w.Sound good view) {m : Move} (hm : m.Named) :
    (w.step b m).1.Sound good view := by
  rcases step_cases b w m with h | ⟨i, holder, op, rfl, hi, h⟩ | ⟨i, holder, op, c, next, rfl, hi, h⟩
  · rw [h]
    exact hw
  · rw [h]
    exact ⟨hw.good, hw.wellFormed,
      hw.running.setProc i hm fun _ _ _ => op.running_prog holder⟩
  · rw [h]
    obtain ⟨hh, hrun⟩ := hw.running i holder op _ hi
    obtain ⟨hgood, -, hview⟩ := hb.perform hw.good c
    refine ⟨hgood, ?_, hw.running.setProc i hh fun _ _ hp => hrun.next _ hp⟩
    show ∀ id d, view (b.perform c w.table).2 id = some d → d.WellFormed
    rw [hview]
    exact Call.effect_wellFormed (hrun.writesWellFormed hh) _ hw.wellFormed

/-- A call that returns a target as taken found it free or unregistered just before, and leaves it
held by its holder. -/
theorem Sound.taken {w : World σ} (hw : w.Sound good view) {m : Move} {e : Return} {t : String}
    (he : (w.step b m).2 = some e) (ht : e.op.taken e.answer = some t) :
    (∀ d, view w.table t = some d → d.occupied = false) ∧
      view (w.step b m).1.table t = some ⟨true, e.holder⟩ := by
  obtain ⟨holder', op', answer⟩ := e
  rcases step_cases b w m with h | ⟨i, holder, op, rfl, hi, h⟩ | ⟨i, holder, op, c, next, rfl, hi, h⟩
  · rw [h] at he
    cases he
  · -- a call that answers as it starts takes nothing
    rw [h] at he
    obtain ⟨hdone, -, rfl⟩ := settle_eq_some he
    rw [Op.taken_of_prog_eq_done holder hdone] at ht
    cases ht
  · rw [h] at he ⊢
    obtain ⟨hdone, rfl, rfl⟩ := settle_eq_some he
    obtain ⟨hh, hrun⟩ := hw.running i _ _ _ hi
    obtain ⟨-, hfits, hview⟩ := hb.perform hw.good c
    show _ ∧ view (b.perform c w.table).2 t = _
    rw [hview]
    cases hrun with
    | takes _ _ hdecides => exact (hdecides.head hdone t ht).effect hfits
    | unlock target => cases ht
    | forceUnlock target => cases ht

/-- A target held by `h` stays so over a move, unless the move makes `h`'s unlock of it or a
force-unlock of it return `true`. -/
theorem Sound.held_kept {w : World σ} (hw : w.Sound good view) (m : Move) {h t : String}
    (hd : view w.table t = some ⟨true, h⟩) :
    view (w.step b m).1.table t = some ⟨true, h⟩ ∨ ∃ e, (w.step b m).2 = some e ∧ e.Frees h t := by
  rcases step_cases b w m with hs | ⟨i, holder, op, rfl, hi, hs⟩ | ⟨i, holder, op, c, next, rfl, hi, hs⟩
  · rw [hs]
    exact .inl hd
  · rw [hs]
    exact .inl hd
  · rw [hs]
    obtain ⟨hh, hrun⟩ := hw.running i _ _ _ hi
    obtain ⟨-, hfits, hview⟩ := hb.perform hw.good c
    show view (b.perform c w.table).2 t = _ ∨ _
    rw [hview]
    cases hrun with
    | takes _ hissues _ => exact .inl (hissues.head.effect_occupied hfits hd rfl)
    | unlock target =>
      rcases releaseUpdate_effect_occupied hfits hd s!"unlock {target}" with hkept | ⟨hans, rfl, howner⟩
      · exact .inl hkept
      · simp only [Option.all_some, decide_eq_true_eq] at howner
        exact .inr ⟨_, rfl, hans, .inl ⟨rfl, howner⟩⟩
    | forceUnlock target =>
      rcases releaseUpdate_effect_occupied hfits hd s!"force unlock {target}" with hkept | ⟨hans, rfl, -⟩
      · exact .inl hkept
      · exact .inr ⟨_, rfl, hans, .inr rfl⟩

/-- `h`'s unlock of `t` returns `true` only if `h` held `t` just before. -/
theorem Sound.unlock_held {w : World σ} (hw : w.Sound good view) {m : Move} {h t : String}
    (he : (w.step b m).2 = some ⟨h, .unlock t, .held true⟩) : view w.table t = some ⟨true, h⟩ := by
  rcases step_cases b w m with hs | ⟨i, holder, op, rfl, hi, hs⟩ | ⟨i, holder, op, c, next, rfl, hi, hs⟩
  · rw [hs] at he
    cases he
  · -- an unlock is one update, so it never answers as it starts
    rw [hs] at he
    obtain ⟨hdone, -, rfl⟩ := settle_eq_some he
    rw [Op.prog_unlock] at hdone
    cases hdone
  · rw [hs] at he
    obtain ⟨hdone, rfl, rfl⟩ := settle_eq_some he
    obtain ⟨-, hrun⟩ := hw.running i _ _ _ hi
    obtain ⟨-, hfits, -⟩ := hb.perform hw.good c
    cases hrun with
    | takes hrel _ _ => cases hrel
    | unlock target =>
      obtain ⟨h', hd, howner⟩ := releaseUpdate_held hfits (Prog.done.inj hdone)
      simp only [Option.all_some, decide_eq_true_eq] at howner
      rw [hd, howner]

end Steps

/-! ## Runs -/

section Runs

variable (hb : b.Atomic good view)
include hb

theorem Sound.run {w : World σ} (hw : w.Sound good view) {ms : List Move}
    (hms : ∀ m ∈ ms, m.Named) : (w.run b ms).1.Sound good view := by
  induction ms generalizing w with
  | nil => exact hw
  | cons m ms ih =>
    exact ih (hw.step hb (hms m (List.mem_cons_self ..))) fun m' hm' =>
      hms m' (List.mem_cons_of_mem _ hm')

/-- Once `h` holds `t`, it keeps holding it and nobody's call returns it as taken, as long as
neither `h`'s unlock of it nor a force-unlock of it has returned `true`. -/
theorem Sound.held_run {w : World σ} (hw : w.Sound good view) {h t : String}
    (hd : view w.table t = some ⟨true, h⟩) {ms : List Move} (hms : ∀ m ∈ ms, m.Named)
    (hfree : ∀ e ∈ (w.run b ms).2, ¬ e.Frees h t) :
    view (w.run b ms).1.table t = some ⟨true, h⟩ ∧ ∀ e ∈ (w.run b ms).2, e.op.taken e.answer ≠ some t := by
  induction ms generalizing w with
  | nil => exact ⟨hd, fun e he => by cases he⟩
  | cons m ms ih =>
    -- the invariant on the run is: `t` held by `h` before each move
    have hfree' : ∀ e ∈ (w.step b m).2.toList ++ ((w.step b m).1.run b ms).2, ¬ e.Frees h t := hfree
    have hkept : view (w.step b m).1.table t = some ⟨true, h⟩ := by
      rcases hw.held_kept hb m hd with hkept | ⟨e, he, hfrees⟩
      · exact hkept
      · exact absurd hfrees (hfree' e (List.mem_append_left _ (by simp [he])))
    obtain ⟨hend, hrest⟩ := ih (hw.step hb (hms m (List.mem_cons_self ..))) hkept
      (fun m' hm' => hms m' (List.mem_cons_of_mem _ hm'))
      (fun e he => hfree' e (List.mem_append_right _ he))
    refine ⟨hend, fun e he ht => ?_⟩
    rcases List.mem_append.mp he with he | he
    · -- a call returning `t` as taken would have found it free
      have hstep : (w.step b m).2 = some e := by simpa using he
      have hfound := (hw.taken hb hstep ht).1 _ hd
      cases hfound
    · exact hrest e he ht

end Runs

end World

/-! ## Mutual exclusion -/

/-- Mutual exclusion of the lock service over backend `b` from table `s`, read through `view`,
in every world that callers reach. -/
structure LockBackend.Exclusive {σ : Type} (b : LockBackend σ) (view : σ → String → Option Slot)
    (s : σ) : Prop where
  /-- Every record is well formed. -/
  wellFormed {w : World σ} : World.Reachable b s w → ∀ id d, view w.table id = some d → d.WellFormed
  /-- A call that returns a target as taken leaves it held by its holder. -/
  takenHeld {w : World σ} {m : Move} {e : Return} {t : String} : World.Reachable b s w →
    (w.step b m).2 = some e → e.op.taken e.answer = some t →
    view (w.step b m).1.table t = some ⟨true, e.holder⟩
  /-- A target held by `h` stays held by `h`, and nobody's call returns it as taken, until `h`'s
  unlock of it or a force-unlock of it has returned `true`. -/
  heldUntilFreed {w : World σ} {h t : String} : World.Reachable b s w →
    view w.table t = some ⟨true, h⟩ → ∀ ms : List Move, (∀ m ∈ ms, m.Named) →
    (∀ e ∈ (w.run b ms).2, ¬ e.Frees h t) →
    view (w.run b ms).1.table t = some ⟨true, h⟩ ∧ ∀ e ∈ (w.run b ms).2, e.op.taken e.answer ≠ some t
  /-- `h`'s unlock of `t` returns `true` only if `h` held `t`. -/
  unlockHeld {w : World σ} {m : Move} {h t : String} : World.Reachable b s w →
    (w.step b m).2 = some ⟨h, .unlock t, .held true⟩ → view w.table t = some ⟨true, h⟩
  /-- Only `h`'s unlock of `t` or a force-unlock of `t`, returning `true`, changes a slot of `t`
  held by `h`. -/
  onlyUnlockFrees {w : World σ} {m : Move} {h t : String} : World.Reachable b s w →
    view w.table t = some ⟨true, h⟩ →
    view (w.step b m).1.table t = some ⟨true, h⟩ ∨ ∃ e, (w.step b m).2 = some e ∧ e.Frees h t

/-- The lock service keeps mutual exclusion over every atomic backend, from every table of
well-formed records, for every interleaving of its callers' primitives. -/
theorem lock_service_exclusion {σ : Type} {b : LockBackend σ} {good : σ → Prop}
    {view : σ → String → Option Slot} (hb : b.Atomic good view) {s : σ} (hs : good s)
    (hwf : ∀ id d, view s id = some d → d.WellFormed) : b.Exclusive view s := by
  have hsound : ∀ w, World.Reachable b s w → w.Sound good view := by
    rintro w ⟨ms, hms, rfl⟩
    exact (World.init_sound hs hwf).run hb hms
  exact {
    wellFormed := fun hw => (hsound _ hw).wellFormed
    takenHeld := fun hw he ht => ((hsound _ hw).taken hb he ht).2
    heldUntilFreed := fun hw hd _ hms hfree => (hsound _ hw).held_run hb hd hms hfree
    unlockHeld := fun hw he => (hsound _ hw).unlock_held hb he
    onlyUnlockFrees := fun hw hd => (hsound _ hw).held_kept hb _ hd }

/-- The local store, started fresh, keeps mutual exclusion. -/
theorem fresh_store_exclusion :
    (TargetStore.backend Instant.zero).Exclusive TargetStore.view TargetStore.fresh := by
  have hrows : TargetStore.fresh.rows = [] := by decide
  refine lock_service_exclusion (TargetStore.backend_atomic Instant.zero) ?_ ?_
  · simp [TargetStore.Keyed, hrows]
  · intro id d hd
    simp [TargetStore.view, hrows] at hd

end TestDispatch
