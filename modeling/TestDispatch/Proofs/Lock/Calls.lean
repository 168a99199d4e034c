import TestDispatch.Proofs.Lock.Table
/-!
# What each call of the lock service can do to the table

Finding, locking and acquiring only search, register free targets and take free targets
(`Call.Takes`), and they answer a target as taken only right after a primitive that won it
(`Call.Wins`). Unlocking and force-unlocking are one update each (`releaseUpdate`) that frees an
occupied record. `Op.Running holder op p` says that `p` is what is left of such a call, and
`Op.running_prog` that every call starts so.

On the table, read through `Call.effect` and `Call.Fits`:

* `Call.Takes.effect_occupied`: a taking call leaves every occupied slot as it was;
* `Call.Wins.effect`: a winning call found its target free or unregistered, and leaves it held;
* `releaseUpdate_effect_occupied`: an update that gives back a target changes an occupied slot
  only when it is that target's, held by the owner it names, and then it answers `true`;
* `releaseUpdate_held`: it answers `true` only if it found the target so held;
* `Call.effect_wellFormed`: a call that writes only well-formed slots keeps a table of
  well-formed slots so, and every call a running call makes is such a call.
-/

namespace TestDispatch

/-! ## Taking and giving back -/

/-- The calls that finding, locking and acquiring make for `holder`: any search, registering a
free target, and taking a free target, by a conditional update or by registering it held. -/
inductive Call.Takes (holder : String) : Call → Prop
  | search (q : TargetQuery) : Takes holder (.search q)
  | register (id : String) : Takes holder (.create { id })
  | registerHeld (target : String) : Takes holder (.create { id := target, occupied := true, holder })
  | take (target : String) :
      Takes holder (.update { id := some target, occupied := some false }
        { occupied := some true, holder := some holder })

/-- A call and its reply that leave `target` held by `holder`: taking it while free selected a
record, or registering it held succeeded. -/
inductive Call.Wins (holder target : String) : (c : Call) → Except BackendError c.Reply → Prop
  | take (n : Nat) : 0 < n →
      Wins holder target (.update { id := some target, occupied := some false }
        { occupied := some true, holder := some holder }) (.ok n)
  | register : Wins holder target (.create { id := target, occupied := true, holder }) (.ok ())

/-- The update that gives back `target`: it frees the record of `target` if it is occupied, by
`owner` when one is named. -/
def releaseUpdate (target : String) (owner : Option String) : Call :=
  .update { id := some target, occupied := some true, holder := owner }
    { occupied := some false, holder := some "" }

/-- What giving back answers: whether the update selected a record. -/
def releaseAnswer (what : String) : Except BackendError Nat → LockAnswer
  | .ok n => .held (decide (n > 0))
  | .error e => .failed (.backend what e)

/-- The target that a call's answer says was taken for its holder: a lock that answers held, or
an acquire that answers a target. -/
def Op.taken : Op → LockAnswer → Option String
  | .lock target, .held true => some target
  | .acquire .., .target target => some target
  | _, _ => none

/-- The target a call gives back: that of an unlock or a force-unlock. -/
def Op.released : Op → Option String
  | .unlock target | .forceUnlock target => some target
  | _ => none

theorem Op.prog_unlock (holder target : String) : (Op.unlock target).prog holder =
    .call (releaseUpdate target (some holder)) fun r => .done (releaseAnswer s!"unlock {target}" r) := by
  refine congrArg (Prog.call _) (funext fun r => ?_)
  cases r <;> rfl

theorem Op.prog_forceUnlock (holder target : String) : (Op.forceUnlock target).prog holder =
    .call (releaseUpdate target none) fun r => .done (releaseAnswer s!"force unlock {target}" r) := by
  refine congrArg (Prog.call _) (funext fun r => ?_)
  cases r <;> rfl

/-- What is left of a call by `holder`: a call that only takes, or the one update of a call that
gives back. -/
inductive Op.Running (holder : String) : Op → Prog LockAnswer → Prop
  | takes {op : Op} {p : Prog LockAnswer} : op.released = none → p.Issues (Call.Takes holder) →
      p.Decides (fun c r a => ∀ t, op.taken a = some t → c.Wins holder t r) → Running holder op p
  | unlock (target : String) : Running holder (.unlock target)
      (.call (releaseUpdate target (some holder)) fun r => .done (releaseAnswer s!"unlock {target}" r))
  | forceUnlock (target : String) : Running holder (.forceUnlock target)
      (.call (releaseUpdate target none) fun r => .done (releaseAnswer s!"force unlock {target}" r))

/-! ## Programs of the taking calls -/

namespace Prog

variable {α : Type}

theorem Decides.of_forall {P : (c : Call) → Except BackendError c.Reply → α → Prop}
    (hP : ∀ c r a, P c r a) (p : Prog α) : Decides P p := by
  induction p with
  | done a => exact .done a
  | call c next ih => exact .call (fun r a _ => hP c r a) ih

end Prog

open Prog

section Programs

variable (holder : String)

theorem lockProg_issues (target : String) : (lockProg holder target).Issues (Call.Takes holder) := by
  refine .bind (.call (.take target) fun _ => .done _) fun r => ?_
  split
  · exact .done _
  · split
    · exact .done _
    · refine .bind (.call (.search _) fun _ => .done _) fun r => ?_
      split
      · exact .done _
      · exact .done _
      · refine .bind (.call (.registerHeld target) fun _ => .done _) fun r => ?_
        split <;> exact .done _

/-- A lock answers held only right after the primitive that won the target: a conditional
update that selected it, or its registration as held. -/
theorem lockProg_decides (target : String) :
    (lockProg holder target).Decides fun c r a => a.result = .ok true → c.Wins holder target r := by
  refine .bind (.call (fun r a ha b hb hres => ?_) fun _ => .done _) fun r => ?_
  · -- the update answers by itself only when it selected a record
    cases ha
    split at hb
    · cases hb
      cases hres
    · split at hb
      · exact .take _ ‹_›
      · cases hb
  · split
    · exact .done _
    · split
      · exact .done _
      · refine .bind (.call (fun r a ha b hb hres => ?_) fun _ => .done _) fun r => ?_
        · cases ha
          split at hb
          · cases hb
            cases hres
          · cases hb
            cases hres
          · cases hb
        · split
          · exact .done _
          · exact .done _
          · refine .bind (.call (fun r a ha b hb hres => ?_) fun _ => .done _) fun r => by
              split <;> exact .done _
            cases ha
            split at hb
            · exact .register
            · cases hb
              cases hres
            · cases hb
              cases hres

theorem findProg_issues (candidates : List String) :
    (findProg candidates).Issues (Call.Takes holder) := by
  induction candidates with
  | nil => exact .done _
  | cons id rest ih =>
    refine .bind (.call (.search _) fun _ => .done _) fun r => ?_
    split
    · exact ih
    · refine .bind (.call (.register id) fun _ => .done _) fun r => ?_
      split
      · exact .done _
      · -- registered meanwhile by someone else: read it again
        refine .bind (.call (.search _) fun _ => .done _) fun r => ?_
        split
        · split
          · exact .done _
          · exact ih
        · exact ih
        · exact ih
      · exact ih
    · split
      · exact .done _
      · exact ih

/-- A sweep that answers before any primitive has taken nothing. -/
theorem sweepProg_eq_done {fuel : Nat} {candidates : List String} {x : Option String × List Attempt}
    (h : sweepProg holder fuel candidates = .done x) : x.1 = none := by
  cases fuel with
  | zero => cases h; rfl
  | succ fuel =>
    cases candidates with
    | nil => cases h; rfl
    | cons id rest => cases h

theorem sweepProg_issues (fuel : Nat) (candidates : List String) :
    (sweepProg holder fuel candidates).Issues (Call.Takes holder) := by
  induction fuel generalizing candidates with
  | zero => exact .done _
  | succ fuel ih =>
    refine .bind (findProg_issues holder candidates) fun r => ?_
    split
    · exact .done _
    · refine .bind (lockProg_issues holder _) fun a => ?_
      split
      · dsimp only
        split
        · exact .done _
        · exact .bind (ih _) fun _ => .done _
      all_goals exact .done _

/-- A sweep answers a target only right after the primitive that won it for `holder`. -/
theorem sweepProg_decides (fuel : Nat) (candidates : List String) :
    (sweepProg holder fuel candidates).Decides
      fun c r x => ∀ t, x.1 = some t → c.Wins holder t r := by
  induction fuel generalizing candidates with
  | zero => exact .done _
  | succ fuel ih =>
    refine .bind (.of_forall (fun c r a x hx t ht => ?_) _) fun r => ?_
    · -- finding decides nothing: what it found still has to be locked
      split at hx
      · cases hx
        cases ht
      · cases hx
    · split
      · exact .done _
      · rename_i target
        refine .bind ((lockProg_decides holder target).mono fun c r a hw x hx t ht => ?_)
          fun a => ?_
        · split at hx
          · dsimp only at hx
            split at hx
            · cases hx
              cases ht
            · obtain ⟨y, hy, hyx⟩ := bind_eq_done hx
              cases hyx
              cases (sweepProg_eq_done holder hy).symm.trans ht
          · cases hx
            cases ht
          · cases hx
            cases ht
            exact hw rfl
          · cases hx
            cases ht
            exact hw rfl
        · split
          · dsimp only
            split
            · exact .done _
            · exact .bind ((ih _).mono fun c r y hy x hx t ht => by cases hx; exact hy t ht)
                fun _ => .done _
          all_goals exact .done _

theorem sweepsProg_eq_done (candidates : List String) {rounds : Nat}
    {x : Option String × List Attempt} (h : sweepsProg holder candidates rounds = .done x) :
    x.1 = none := by
  induction rounds generalizing x with
  | zero => exact sweepProg_eq_done holder h
  | succ rounds ih =>
    obtain ⟨y, hy, hyx⟩ := bind_eq_done h
    have hnone := sweepProg_eq_done holder hy
    obtain ⟨taken, attempts⟩ := y
    cases hnone
    obtain ⟨z, hz, hzx⟩ := bind_eq_done hyx
    cases hzx
    exact (ih hz : z.1 = none)

theorem sweepsProg_issues (candidates : List String) (rounds : Nat) :
    (sweepsProg holder candidates rounds).Issues (Call.Takes holder) := by
  induction rounds with
  | zero => exact sweepProg_issues holder _ _
  | succ rounds ih =>
    refine .bind (sweepProg_issues holder _ _) fun x => ?_
    obtain ⟨taken, attempts⟩ := x
    cases taken with
    | some target => exact .done _
    | none => exact .bind ih fun _ => .done _

theorem sweepsProg_decides (candidates : List String) (rounds : Nat) :
    (sweepsProg holder candidates rounds).Decides
      fun c r x => ∀ t, x.1 = some t → c.Wins holder t r := by
  induction rounds with
  | zero => exact sweepProg_decides holder _ _
  | succ rounds ih =>
    refine .bind ((sweepProg_decides holder _ _).mono fun c r y hy x hx t ht => ?_) fun y => ?_
    · obtain ⟨taken, attempts⟩ := y
      cases taken with
      | some target =>
        cases hx
        exact hy t ht
      | none =>
        obtain ⟨z, hz, hzx⟩ := bind_eq_done hx
        cases hzx
        cases (sweepsProg_eq_done holder candidates hz).symm.trans ht
    · obtain ⟨taken, attempts⟩ := y
      cases taken with
      | some target => exact .done _
      | none =>
        exact .bind (ih.mono fun c r z hz x hx t ht => by cases hx; exact hz t ht) fun _ => .done _

theorem acquireProg_issues (candidates : List String) (timeout : Int) (rounds : Nat) :
    (acquireProg holder candidates timeout rounds).Issues (Call.Takes holder) := by
  unfold acquireProg
  split
  · exact .done _
  · split
    · exact .done _
    · exact .bind (sweepsProg_issues holder _ _) fun x => by split <;> exact .done _

/-- An acquire answers a target only right after the primitive that won it for `holder`. -/
theorem acquireProg_decides (candidates : List String) (timeout : Int) (rounds : Nat) :
    (acquireProg holder candidates timeout rounds).Decides
      fun c r x => ∀ t, x.1 = .ok t → c.Wins holder t r := by
  unfold acquireProg
  split
  · exact .done _
  · split
    · exact .done _
    · refine .bind ((sweepsProg_decides holder _ _).mono fun c r y hy x hx t ht => ?_)
        fun x => by split <;> exact .done _
      split at hx
      · cases hx
        cases ht
        exact hy _ rfl
      · cases hx
        cases ht

/-- An acquire that answers before any primitive has failed. -/
theorem acquireProg_eq_done {candidates : List String} {timeout : Int} {rounds : Nat}
    {x : Except LockError String × List Attempt}
    (h : acquireProg holder candidates timeout rounds = .done x) : ∀ t, x.1 ≠ .ok t := by
  intro t ht
  unfold acquireProg at h
  split at h
  · cases h
    cases ht
  · split at h
    · cases h
      cases ht
    · obtain ⟨y, hy, hyx⟩ := bind_eq_done h
      obtain ⟨taken, attempts⟩ := y
      cases sweepsProg_eq_done holder candidates hy
      cases hyx
      cases ht

/-- Every call of the service starts as a running call. -/
theorem Op.running_prog (op : Op) : op.Running holder (op.prog holder) := by
  cases op with
  | findAvailable candidates =>
    refine .takes rfl ?_ (.of_forall (fun c r a t ht => by cases ht) _)
    exact .bind (findProg_issues holder _) fun r => by split <;> exact .done _
  | lock target =>
    refine .takes rfl ?_ ?_
    · exact .bind (lockProg_issues holder _) fun r => by split <;> exact .done _
    · refine .bind ((lockProg_decides holder _).mono fun c r a hw x hx t ht => ?_)
        fun r => by split <;> exact .done _
      split at hx
      · rename_i ok hres
        cases hx
        cases ok
        · cases ht
        · cases ht
          exact hw hres
      · cases hx
        cases ht
  | unlock target =>
    rw [Op.prog_unlock]
    exact .unlock target
  | forceUnlock target =>
    rw [Op.prog_forceUnlock]
    exact .forceUnlock target
  | acquire candidates timeout rounds =>
    refine .takes rfl ?_ ?_
    · exact .bind (acquireProg_issues holder _ _ _) fun r => by split <;> exact .done _
    · refine .bind ((acquireProg_decides holder _ _ _).mono fun c r a hw x hx t ht => ?_)
        fun r => by split <;> exact .done _
      split at hx
      · rename_i target hres
        cases hx
        cases ht
        exact hw _ hres
      · cases hx
        cases ht

/-- A call that answers at once has taken nothing. -/
theorem Op.taken_of_prog_eq_done {op : Op} {a : LockAnswer} (h : op.prog holder = .done a) :
    op.taken a = none := by
  cases op with
  | findAvailable candidates => rfl
  | lock target => cases h
  | unlock target => rfl
  | forceUnlock target => rfl
  | acquire candidates timeout rounds =>
    obtain ⟨x, hx, hxa⟩ := bind_eq_done h
    have hfail := acquireProg_eq_done holder hx
    revert hxa
    split
    · rename_i target hres
      exact absurd hres (hfail target)
    · intro hxa
      cases hxa
      rfl

end Programs

/-! ## What the calls do to the table -/

/-- Whether a call writes only well-formed slots. -/
def Call.WritesWellFormed : Call → Prop
  | .search _ => True
  | .create r => r.slot.WellFormed
  | .update _ p => ∀ c, (p.applySlot c).WellFormed

section Effects

variable {v : String → Option Slot}

/-- A call that writes only well-formed slots keeps a table of well-formed slots so. -/
theorem Call.effect_wellFormed {c : Call} (hc : c.WritesWellFormed) (r : Except BackendError c.Reply)
    (hv : ∀ id d, v id = some d → d.WellFormed) :
    ∀ id d, c.effect r v id = some d → d.WellFormed := by
  intro id d hd
  cases c with
  | search q => exact hv id d hd
  | create rec =>
    cases r with
    | error e => exact hv id d hd
    | ok u =>
      simp only [Call.effect] at hd
      split at hd
      · cases hd
        exact hc
      · exact hv id d hd
  | update f p =>
    cases r with
    | error e => exact hv id d hd
    | ok n =>
      simp only [Call.effect] at hd
      obtain ⟨d0, hd0, rfl⟩ := Option.map_eq_some_iff.mp hd
      split
      · exact hc d0
      · exact hv id d0 hd0

theorem Call.Takes.writesWellFormed {holder : String} (hh : holder ≠ "") {c : Call}
    (hc : c.Takes holder) : c.WritesWellFormed := by
  cases hc with
  | search q => trivial
  | register id => simp [Call.WritesWellFormed, Slot.WellFormed, TargetRecord.slot]
  | registerHeld target => simpa [Call.WritesWellFormed, Slot.WellFormed, TargetRecord.slot] using hh
  | take target =>
    intro c
    simpa [Slot.WellFormed, TargetPatch.applySlot] using hh

theorem releaseUpdate_writesWellFormed (target : String) (owner : Option String) :
    (releaseUpdate target owner).WritesWellFormed := fun c => by
  simp [Slot.WellFormed, TargetPatch.applySlot]

/-- A registration leaves every id that has a record as it was. -/
theorem Call.effect_create_of_some {rec : TargetRecord} {r : Except BackendError Unit}
    (hr : (Call.create rec).Fits r v) {id : String} {d : Slot} (hd : v id = some d) :
    (Call.create rec).effect r v id = some d := by
  cases r with
  | error e => exact hd
  | ok u =>
    have hne : id ≠ rec.id := by
      rintro rfl
      simp [Call.Fits, hd] at hr
    simp [Call.effect, hne, hd]

/-- An update leaves every slot its filter does not select as it was. -/
theorem Call.effect_update_of_not_selects {f : TargetQuery} {p : TargetPatch}
    {r : Except BackendError Nat} {id : String} {d : Slot} (hd : v id = some d)
    (hsel : f.selects id d = false) : (Call.update f p).effect r v id = some d := by
  cases r with
  | error e => exact hd
  | ok n => simp [Call.effect, hd, hsel]

/-- A taking call leaves every occupied slot as it was. -/
theorem Call.Takes.effect_occupied {holder : String} {c : Call} (hc : c.Takes holder)
    {r : Except BackendError c.Reply} (hr : c.Fits r v) {id : String} {d : Slot}
    (hd : v id = some d) (hocc : d.occupied = true) : c.effect r v id = some d := by
  cases hc with
  | search q => exact hd
  | register new => exact Call.effect_create_of_some hr hd
  | registerHeld target => exact Call.effect_create_of_some hr hd
  | take target =>
    -- taking selects only free records
    refine Call.effect_update_of_not_selects hd ?_
    simp [TargetQuery.selects, TargetQuery.matches, hocc]

/-- A winning call found its target free or unregistered, and leaves it held by its holder. -/
theorem Call.Wins.effect {holder target : String} {c : Call} {r : Except BackendError c.Reply}
    (hw : c.Wins holder target r) (hr : c.Fits r v) :
    (∀ d, v target = some d → d.occupied = false) ∧ c.effect r v target = some ⟨true, holder⟩ := by
  cases hw with
  | take n hn =>
    obtain ⟨id, d, hd, hsel⟩ := hr.mp hn
    -- the record selected is the free one of `target`
    have hsel' := hsel
    simp only [TargetQuery.selects, TargetQuery.matches, Option.all_some, Bool.and_eq_true,
      decide_eq_true_eq] at hsel'
    obtain ⟨⟨rfl, hfree⟩, -⟩ := hsel'
    refine ⟨fun d' hd' => ?_, ?_⟩
    · rw [hd] at hd'
      cases hd'
      exact hfree.symm
    · simp [Call.effect, hd, hsel, TargetPatch.applySlot]
  | register =>
    have hnone : v target = none := hr
    refine ⟨fun d hd => ?_, ?_⟩
    · rw [hnone] at hd
      cases hd
    · simp [Call.effect, TargetRecord.slot]

/-- Giving back changes an occupied slot only when it is that of `target`, held by the owner
named if any, and then it answers `true`. -/
theorem releaseUpdate_effect_occupied {target : String} {owner : Option String}
    {r : Except BackendError Nat} (hr : (releaseUpdate target owner).Fits r v) {id h : String}
    (hd : v id = some ⟨true, h⟩) (what : String) :
    (releaseUpdate target owner).effect r v id = some ⟨true, h⟩ ∨
      (releaseAnswer what r = .held true ∧ id = target ∧ owner.all (· = h) = true) := by
  by_cases hsel : ({ id := some target, occupied := some true, holder := owner } : TargetQuery).selects
      id ⟨true, h⟩ = true
  · cases r with
    | error e => exact .inl hd
    | ok n =>
      -- selecting a record makes the count positive
      have hn : 0 < n := hr.mpr ⟨id, _, hd, hsel⟩
      simp only [TargetQuery.selects, TargetQuery.matches, Option.all_some, Bool.and_eq_true,
        decide_eq_true_eq, decide_true] at hsel
      exact .inr ⟨by simp [releaseAnswer, hn], hsel.1.1.symm, hsel.2⟩
  · exact .inl (Call.effect_update_of_not_selects hd (by simpa using hsel))

/-- Giving back answers `true` only if it found `target` occupied, by the owner named if any. -/
theorem releaseUpdate_held {target : String} {owner : Option String} {r : Except BackendError Nat}
    (hr : (releaseUpdate target owner).Fits r v) {what : String}
    (hans : releaseAnswer what r = .held true) :
    ∃ h, v target = some ⟨true, h⟩ ∧ owner.all (· = h) = true := by
  cases r with
  | error e => cases hans
  | ok n =>
    have hn : 0 < n := by simpa [releaseAnswer] using hans
    obtain ⟨id, ⟨occ, h⟩, hd, hsel⟩ := hr.mp hn
    simp only [TargetQuery.selects, TargetQuery.matches, Option.all_some, Bool.and_eq_true,
      decide_eq_true_eq] at hsel
    obtain ⟨⟨rfl, rfl⟩, howner⟩ := hsel
    exact ⟨h, hd, howner⟩

end Effects

end TestDispatch
