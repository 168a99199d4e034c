import TestDispatch.Coordinator.Dispatch
import Mathlib.Logic.Relation
/-!
# Dispatch accounting

The runs of a session's dispatch, over every interleaving of the coordinator and the publisher,
every queue capacity and every publisher that drains the queue.

* `Step.pending_lt`: every step lowers a bound on the steps left, so no run is infinite.
* `Inv`: the invariant of the runs whose context is never cancelled. The coordinator has put a
  prefix of the items, and the shutdown marker once it is out of the enqueue loop. The
  publisher has taken a prefix of what was put and handled its work in order. Every item put
  and not yet finished is in the queue or in the publisher's hands.
* `Inv.progress`: such a run can always go on until the coordinator returns.
* `Session.run_agrees`: `Session.run` ends as every such run of the session's dispatch ends.

Main result:

* `session_dispatch_accounting`: under a context never cancelled, a session resets the topic
  once, then starts the publisher, puts exactly the plan's work items in order and then one
  shutdown marker, and counts every item. It ends without error exactly when the publisher
  returns no error and published every item, and otherwise with `publish: ...` or
  `incomplete dispatch: ...`. When the reset fails it puts nothing and never starts the
  publisher.
-/

namespace TestDispatch

namespace WorkQueue

/-- What a put can do: fail on a closed queue, append the item, or find the queue full. -/
theorem put_cases (q : WorkQueue) (item : QueueItem) :
    (q.closed = true ∧ q.put (some item) = .error .closed) ∨
    (q.closed = false ∧
      q.put (some item) = .ok { q with items := q.items ++ [item], unfinished := q.unfinished + 1,
                                       closed := item = .shutdown }) ∨
    (q.closed = false ∧ q.hasRoom = false ∧ q.put (some item) = .error .wouldBlock) := by
  unfold put
  cases hc : q.closed
  · cases hr : q.hasRoom
    · exact .inr (.inr ⟨rfl, rfl, by simp⟩)
    · exact .inr (.inl ⟨rfl, by simp⟩)
  · exact .inl ⟨rfl, by simp⟩

theorem put_ok {q q' : WorkQueue} {item : QueueItem} (h : q.put (some item) = .ok q') :
    q' = { q with items := q.items ++ [item], unfinished := q.unfinished + 1,
                  closed := item = .shutdown } := by
  rcases put_cases q item with ⟨-, hq⟩ | ⟨-, hq⟩ | ⟨-, -, hq⟩ <;> rw [hq] at h
  · cases h
  · cases h; rfl
  · cases h

/-- A put on an open queue fails only when the queue is full. -/
theorem put_error_of_open {q : WorkQueue} {item : QueueItem} {e : QueueError}
    (hc : q.closed = false) (h : q.put (some item) = .error e) :
    e = .wouldBlock ∧ q.hasRoom = false := by
  rcases put_cases q item with ⟨hc', -⟩ | ⟨-, hq⟩ | ⟨-, hr, hq⟩
  · rw [hc] at hc'; cases hc'
  · rw [hq] at h; cases h
  · rw [hq] at h; cases h; exact ⟨rfl, hr⟩

/-- A full queue holds an item. -/
theorem items_ne_nil_of_full {q : WorkQueue} (h : q.hasRoom = false) : q.items ≠ [] := by
  intro he
  simp [hasRoom, he] at h
  omega

theorem get_cons {q : WorkQueue} {item : QueueItem} {rest : List QueueItem}
    (h : q.items = item :: rest) : q.get = .ok (item, { q with items := rest }) := by
  simp [get, h]

theorem get_ok {q q' : WorkQueue} {item : QueueItem} (h : q.get = .ok (item, q')) :
    ∃ rest, q.items = item :: rest ∧ q' = { q with items := rest } := by
  unfold get at h
  split at h
  · rename_i first rest hq
    cases h
    exact ⟨rest, hq, rfl⟩
  · cases h

theorem done_ok {q q' : WorkQueue} (h : q.done = .ok q') :
    q.unfinished ≠ 0 ∧ q' = { q with unfinished := q.unfinished - 1 } := by
  unfold done at h
  split at h
  · cases h
  · rename_i hu
    cases h
    exact ⟨hu, rfl⟩

theorem done_of_ne {q : WorkQueue} (h : q.unfinished ≠ 0) :
    q.done = .ok { q with unfinished := q.unfinished - 1 } := by
  simp [done, h]

end WorkQueue

namespace Coordinator

variable {σ : Type} {admin : Option ResetFailure} {p : Drainer σ}

/-! ## No run is infinite -/

/-- What is left of the coordinator's run, weighted so that each of its steps outweighs the
work it leaves the publisher. -/
def Phase.weight : Phase → Nat
  | .reset items => 12 + 5 * items.length
  | .enqueue rest => 10 + 5 * rest.length
  | .put _ rest => 14 + 5 * rest.length
  | .enqueued => 9
  | .shutdown => 8
  | .join => 4
  | .grace => 3
  | .drain => 2
  | .collect => 1
  | .finished _ => 0

/-- What is left of the publisher's run, its queued items apart. -/
def PubThread.weight : PubThread σ → Nat
  | .idle => 2
  | .waiting _ => 1
  | .holding _ _ => 2
  | .returned _ _ => 0

/-- A bound on the steps a run has left: the coordinator's, three for each queued item, the
publisher's, and one for each context not yet cancelled. -/
def World.pending (w : World σ) : Nat :=
  w.phase.weight + 3 * w.queue.items.length + w.pub.weight + (if w.cancelled then 0 else 1) +
    (if w.pubCancelled then 0 else 1)

/-- Every step lowers `pending`. -/
theorem Step.pending_lt {w w' : World σ} (h : Step admin p w w') : w'.pending < w.pending := by
  cases h with
  | @put _ _ q hp hq | @shutdown q hp hq =>
    -- the coordinator's step outweighs the item it queues
    obtain rfl := WorkQueue.put_ok hq
    simp only [World.pending, hp, Phase.weight, List.length_append, List.length_cons,
      List.length_nil]
    omega
  | @take s item q hs hq =>
    obtain ⟨rest, hitems, rfl⟩ := WorkQueue.get_ok hq
    simp only [World.pending, hs, hitems, PubThread.weight, List.length_cons]
    omega
  | @handle _ _ q hs hq | @finish _ q hs hq =>
    obtain ⟨-, rfl⟩ := WorkQueue.done_ok hq
    simp only [World.pending, hs, PubThread.weight]
    omega
  | abort hs => simp only [World.pending, hs, PubThread.weight]; omega
  | cancel hc => simp [World.pending, hc]
  | resetDone hp =>
    simp only [World.pending, hp, Phase.weight, PubThread.weight]
    split <;> omega
  | joined hp =>
    rcases hp with hp | hp | hp <;> simp only [World.pending, hp, Phase.weight] <;> omega
  | graceOver hp => simp [World.pending, hp, Phase.weight]; omega
  | resetFailed hp | loopEnd hp | loopStop hp | loopNext hp | putFailed hp | enqueued hp
  | shutdownFailed hp | interrupt hp | collect hp =>
    simp only [World.pending, hp, Phase.weight, List.length_cons]
    omega

/-- No run is infinite. -/
theorem Step.acc (w : World σ) : Acc (fun w' w => Step admin p w w') w :=
  Subrelation.accessible (fun h => Step.pending_lt h) ((measure World.pending).wf.apply w)

/-- A context once cancelled stays cancelled. -/
theorem Step.cancelled_of {w w' : World σ} (h : Step admin p w w') (hc : w'.cancelled = false) :
    w.cancelled = false := by
  cases h with
  | cancel => cases hc
  | _ => exact hc

/-! ## The invariant of runs whose context is never cancelled -/

/-- What the coordinator has put once it put the first `k` items, and the shutdown marker when
`shut`. -/
def queued (items : List WorkItem) (k : Nat) (shut : Bool) : List QueueItem :=
  (items.take k).map .work ++ if shut then [.shutdown] else []

theorem queued_true (items : List WorkItem) (k : Nat) :
    queued items k true = (items.take k).map .work ++ [.shutdown] := rfl

theorem shutdown_not_mem_queued (items : List WorkItem) (k : Nat) :
    QueueItem.shutdown ∉ queued items k false := by
  intro h
  simp only [queued, Bool.false_eq_true, if_false, List.append_nil, List.mem_map] at h
  obtain ⟨_, _, h⟩ := h
  cases h

theorem queued_succ {items rest : List WorkItem} {k : Nat} {item : WorkItem}
    (h : items.drop k = item :: rest) :
    queued items (k + 1) false = queued items k false ++ [.work item] := by
  have hk : items[k]? = some item := by
    have := congrArg (·[0]?) h
    simpa [List.getElem?_drop] using this
  simp [queued, List.take_add_one, hk]

/-- Work put before the shutdown marker, split where the publisher stands: what it took before
the marker is all the work. -/
theorem map_work_append_shutdown {ws xs : List WorkItem} {rest : List QueueItem}
    (h : ws.map .work ++ .shutdown :: rest = xs.map .work ++ [.shutdown]) : ws = xs ∧ rest = [] := by
  induction ws generalizing xs with
  | nil => cases xs <;> simp_all
  | cons w ws ih =>
    cases xs with
    | nil => simp at h
    | cons x xs =>
      simp only [List.map_cons, List.cons_append, List.cons.injEq, QueueItem.work.injEq] at h
      obtain ⟨rfl, h⟩ := h
      exact ⟨by rw [(ih h).1], (ih h).2⟩

/-- The publisher and the queue, when the coordinator has put `Q`: the publisher has taken a
prefix of `Q`, whose work it handled in order, and the queue holds the rest. Each item put and
not yet marked finished is in the queue or in the publisher's hands. -/
def PubInv (p : Drainer σ) (Q : List QueueItem) (q : WorkQueue) : PubThread σ → Prop
  | .idle => False
  | .waiting s =>
    ∃ ws : List WorkItem, Q = ws.map .work ++ q.items ∧ s = ws.foldl p.work p.start ∧
      q.unfinished = q.items.length
  | .holding s item =>
    ∃ ws : List WorkItem, Q = ws.map .work ++ item :: q.items ∧ s = ws.foldl p.work p.start ∧
      q.unfinished = q.items.length + 1
  | .returned s out =>
    ∃ ws : List WorkItem, Q = ws.map .work ++ [.shutdown] ∧ s = ws.foldl p.work p.start ∧
      out = p.finish s ∧ q.items = [] ∧ q.unfinished = 0

namespace PubInv

variable {Q : List QueueItem} {q : WorkQueue}

/-- Only the shutdown marker makes the publisher return. -/
theorem not_returned {pub : PubThread σ} (h : PubInv p Q q pub) (hQ : QueueItem.shutdown ∉ Q) :
    pub.isReturned = false := by
  cases pub with
  | returned s out =>
    obtain ⟨ws, rfl, -⟩ := h
    simp at hQ
  | _ => rfl

theorem length_le_unfinished {pub : PubThread σ} (h : PubInv p Q q pub) :
    q.items.length ≤ q.unfinished := by
  cases pub with
  | idle => exact h.elim
  | waiting s => obtain ⟨-, -, -, hu⟩ := h; omega
  | holding s item => obtain ⟨-, -, -, hu⟩ := h; omega
  | returned s out => obtain ⟨-, -, -, -, hi, -⟩ := h; simp [hi]

/-- Until the publisher returns, an item put after the shutdown marker is never finished. -/
theorem unfinished_ne_zero {pub : PubThread σ} (h : PubInv p Q q pub)
    (hQ : QueueItem.shutdown ∈ Q) (hr : pub.isReturned = false) : q.unfinished ≠ 0 := by
  cases pub with
  | idle => exact h.elim
  | waiting s =>
    obtain ⟨ws, rfl, -, hu⟩ := h
    have : QueueItem.shutdown ∈ q.items := by simpa using hQ
    have : q.items ≠ [] := List.ne_nil_of_mem this
    have : q.items.length ≠ 0 := by simpa using this
    omega
  | holding s item => obtain ⟨-, -, -, hu⟩ := h; omega
  | returned s out => cases hr

/-- Putting one more item, before the shutdown marker. -/
theorem append {pub : PubThread σ} (h : PubInv p Q q pub) (hQ : QueueItem.shutdown ∉ Q)
    (item : QueueItem) (c : Bool) :
    PubInv p (Q ++ [item])
      { q with items := q.items ++ [item], unfinished := q.unfinished + 1, closed := c } pub := by
  cases pub with
  | idle => exact h.elim
  | waiting s =>
    obtain ⟨ws, rfl, hs, hu⟩ := h
    exact ⟨ws, by simp, hs, by simp [hu]⟩
  | holding s held =>
    obtain ⟨ws, rfl, hs, hu⟩ := h
    exact ⟨ws, by simp, hs, by simp [hu]⟩
  | returned s out => cases h.not_returned hQ

theorem take {s : σ} {item : QueueItem} {q' : WorkQueue} (h : PubInv p Q q (.waiting s))
    (hq : q.get = .ok (item, q')) : PubInv p Q q' (.holding s item) := by
  obtain ⟨rest, hitems, rfl⟩ := WorkQueue.get_ok hq
  obtain ⟨ws, hQ, hs, hu⟩ := h
  rw [hitems] at hQ hu
  exact ⟨ws, hQ, hs, hu⟩

theorem handle {s : σ} {item : WorkItem} {q' : WorkQueue} (h : PubInv p Q q (.holding s (.work item)))
    (hq : q.done = .ok q') : PubInv p Q q' (.waiting (p.work s item)) := by
  obtain ⟨-, rfl⟩ := WorkQueue.done_ok hq
  obtain ⟨ws, hQ, rfl, hu⟩ := h
  exact ⟨ws ++ [item], by simp [hQ], by simp, by simp [hu]⟩

theorem finish {items : List WorkItem} {k : Nat} {shut : Bool} {s : σ} {q' : WorkQueue}
    (h : PubInv p (queued items k shut) q (.holding s .shutdown)) (hq : q.done = .ok q') :
    PubInv p (queued items k shut) q' (.returned s (p.finish s)) := by
  obtain ⟨-, rfl⟩ := WorkQueue.done_ok hq
  obtain ⟨ws, hQ, rfl, hu⟩ := h
  cases shut with
  | false =>
    exact absurd (hQ ▸ by simp) (shutdown_not_mem_queued items k)
  | true =>
    obtain ⟨-, hnil⟩ := map_work_append_shutdown (hQ.symm.trans (queued_true items k))
    refine ⟨ws, hQ.trans (by simp [hnil]), rfl, rfl, hnil, ?_⟩
    simp [hu, hnil]

/-- A publisher with items to finish can always move. -/
theorem move {w : World σ} (h : PubInv p Q w.queue w.pub) (hu : w.queue.unfinished ≠ 0) :
    ∃ w', Step admin p w w' := by
  cases hpub : w.pub with
  | idle => rw [hpub] at h; exact h.elim
  | waiting s =>
    rw [hpub] at h
    obtain ⟨-, -, -, hlen⟩ := h
    cases hq : w.queue.items with
    | nil => simp [hq] at hlen; exact absurd hlen hu
    | cons item rest => exact ⟨_, .take hpub (WorkQueue.get_cons hq)⟩
  | holding s item =>
    cases item with
    | work item => exact ⟨_, .handle hpub (WorkQueue.done_of_ne hu)⟩
    | shutdown => exact ⟨_, .finish hpub (WorkQueue.done_of_ne hu)⟩
  | returned s out =>
    rw [hpub] at h
    obtain ⟨-, -, -, -, -, h0⟩ := h
    exact absurd h0 hu

end PubInv

/-- A session past a successful reset, which has put the first `w.items` items, and the shutdown
marker when `shut`. -/
structure Started (admin : Option ResetFailure) (p : Drainer σ) (items : List WorkItem)
    (shut : Bool) (w : World σ) : Prop where
  reset_ok : admin = none
  items_le : w.items ≤ items.length
  calls : w.calls = [.reset, .start] ++ (queued items w.items shut).map .put
  closed : w.queue.closed = shut
  pub : PubInv p (queued items w.items shut) w.queue w.pub

/-- `Started` carries over to a world with the same count and calls and a queue as closed, when
the publisher's part carries over. -/
theorem Started.frame {items : List WorkItem} {shut : Bool} {w w' : World σ}
    (h : Started admin p items shut w) (hk : w'.items = w.items) (hc : w'.calls = w.calls)
    (hcl : w'.queue.closed = w.queue.closed)
    (hpub : PubInv p (queued items w.items shut) w.queue w.pub →
      PubInv p (queued items w.items shut) w'.queue w'.pub) :
    Started admin p items shut w' :=
  ⟨h.reset_ok, hk ▸ h.items_le, by rw [hc, hk, h.calls], by rw [hcl, h.closed],
    hk ▸ hpub h.pub⟩

/-- What the invariant says of each phase. -/
def PhaseInv (admin : Option ResetFailure) (p : Drainer σ) (items : List WorkItem)
    (capacity : Int) (w : World σ) : Phase → Prop
  | .reset rest =>
    rest = items ∧ w.pub = .idle ∧ w.calls = [] ∧ w.items = 0 ∧ w.dispatch = {} ∧
      w.queue = WorkQueue.create capacity
  | .enqueue rest => rest = items.drop w.items ∧ Started admin p items false w
  | .put item rest => item :: rest = items.drop w.items ∧ Started admin p items false w
  | .enqueued | .shutdown => w.items = items.length ∧ Started admin p items false w
  | .join | .collect => w.items = items.length ∧ Started admin p items true w
  | .grace | .drain => False
  | .finished err =>
    (∃ f, admin = some f ∧ err = some (.reset f) ∧ w.calls = [.reset] ∧ w.pub = .idle ∧
      w.items = 0 ∧ w.dispatch = {} ∧ w.queue = WorkQueue.create capacity) ∨
    (w.items = items.length ∧ Started admin p items true w ∧
      ∃ s out, w.pub = .returned s out ∧ w.dispatch = out.1 ∧
        err = outcome false w.items out.1 out.2)

/-- The invariant of a session dispatching `items` through a queue of the given capacity, its
context never cancelled: nothing is interrupted, and each phase is where `PhaseInv` says. -/
structure Inv (admin : Option ResetFailure) (p : Drainer σ) (items : List WorkItem)
    (capacity : Int) (w : World σ) : Prop where
  calm : w.pubCancelled = false
  uninterrupted : w.interrupted = false
  phase : PhaseInv admin p items capacity w w.phase

variable {items : List WorkItem} {capacity : Int}

theorem init_inv : Inv admin p items capacity (World.init items capacity false) :=
  ⟨rfl, rfl, rfl, rfl, rfl, rfl, rfl, rfl⟩

/-- A step of the publisher keeps the invariant when it keeps the part of it about the
publisher. -/
theorem Inv.move {w : World σ} {pub : PubThread σ} {q : WorkQueue}
    (h : Inv admin p items capacity w) (hr : w.pub.isReturned = false) (hi : w.pub ≠ .idle)
    (hcl : q.closed = w.queue.closed)
    (hpub : ∀ shut, PubInv p (queued items w.items shut) w.queue w.pub →
      PubInv p (queued items w.items shut) q pub) :
    Inv admin p items capacity { w with pub, queue := q } := by
  obtain ⟨hpc, hint, hph⟩ := h
  refine ⟨hpc, hint, ?_⟩
  dsimp only
  cases hphase : w.phase with
  | reset rest => rw [hphase] at hph; exact absurd hph.2.1 hi
  | enqueue rest => rw [hphase] at hph; exact ⟨hph.1, hph.2.frame rfl rfl hcl (hpub _)⟩
  | put item rest => rw [hphase] at hph; exact ⟨hph.1, hph.2.frame rfl rfl hcl (hpub _)⟩
  | enqueued => rw [hphase] at hph; exact ⟨hph.1, hph.2.frame rfl rfl hcl (hpub _)⟩
  | shutdown => rw [hphase] at hph; exact ⟨hph.1, hph.2.frame rfl rfl hcl (hpub _)⟩
  | join => rw [hphase] at hph; exact ⟨hph.1, hph.2.frame rfl rfl hcl (hpub _)⟩
  | collect => rw [hphase] at hph; exact ⟨hph.1, hph.2.frame rfl rfl hcl (hpub _)⟩
  | grace | drain => rw [hphase] at hph; exact hph.elim
  | finished err =>
    rw [hphase] at hph
    rcases hph with ⟨-, -, -, -, hidle, -⟩ | ⟨-, -, s, out, hout, -⟩
    · exact absurd hidle hi
    · rw [hout] at hr; cases hr

/-- The coordinator of a run never cancelled gets out of the enqueue loop only at its end. -/
theorem Started.enqueueDone {w : World σ} (h : Started admin p items false w)
    (hc : w.cancelled = false) : w.enqueueDone = false := by
  simp [World.enqueueDone, hc, h.pub.not_returned (shutdown_not_mem_queued items w.items)]

/-- The step lemma: each step of a run never cancelled keeps the invariant. -/
theorem Inv.step {w w' : World σ} (h : Inv admin p items capacity w) (hs : Step admin p w w')
    (hc : w'.cancelled = false) : Inv admin p items capacity w' := by
  have hc₀ := hs.cancelled_of hc
  obtain ⟨hpc, hint, hph⟩ := h
  cases hs with
  | resetFailed hp ha =>
    rw [hp] at hph
    obtain ⟨-, hpub, hcalls, hk, hd, hq⟩ := hph
    exact ⟨hpc, hint, .inl ⟨_, ha, rfl, by simp [hcalls], hpub, hk, hd, hq⟩⟩
  | resetDone hp ha =>
    rw [hp] at hph
    obtain ⟨rfl, -, hcalls, hk, -, hq⟩ := hph
    refine ⟨hpc, hint, by simp [hk], ha, by simp [hk], by simp [hcalls, hk, queued], ?_, ?_⟩
    · simp [hq, WorkQueue.create]
    · exact ⟨[], by simp [hk, queued, hq, WorkQueue.create], rfl, by simp [hq, WorkQueue.create]⟩
  | loopEnd hp =>
    rw [hp] at hph
    obtain ⟨hrest, hst⟩ := hph
    have : items.length ≤ w.items := List.drop_eq_nil_iff.mp hrest.symm
    refine ⟨hpc, hint, ?_, hst.frame rfl rfl rfl id⟩
    have := hst.items_le
    dsimp only
    omega
  | loopStop hp hd =>
    rw [hp] at hph
    rw [hph.2.enqueueDone hc₀] at hd
    cases hd
  | loopNext hp hd =>
    rw [hp] at hph
    exact ⟨hpc, hint, hph.1, hph.2.frame rfl rfl rfl id⟩
  | @put item rest q hp hq =>
    rw [hp] at hph
    obtain ⟨hdrop, hst⟩ := hph
    obtain rfl := WorkQueue.put_ok hq
    have hnext := queued_succ hdrop.symm
    have hlt : w.items < items.length := by
      have := congrArg List.length hdrop
      simp only [List.length_cons, List.length_drop] at this
      omega
    refine ⟨hpc, hint, ?_, hst.reset_ok, hlt, ?_, by simp, ?_⟩
    · have := congrArg (List.drop 1) hdrop
      simpa [List.drop_drop, Nat.add_comm] using this
    · simp [hst.calls, hnext]
    · rw [hnext]
      exact hst.pub.append (shutdown_not_mem_queued items w.items) _ _
  | putFailed hp hq hd =>
    rw [hp] at hph
    have hst := hph.2
    obtain ⟨rfl, -⟩ := WorkQueue.put_error_of_open hst.closed hq
    rw [hst.enqueueDone hc₀] at hd
    cases hd rfl
  | enqueued hp =>
    rw [hp] at hph
    exact ⟨hpc, hc₀, hph.1, hph.2.frame rfl rfl rfl id⟩
  | @shutdown q hp hq =>
    rw [hp] at hph
    obtain ⟨hk, hst⟩ := hph
    obtain rfl := WorkQueue.put_ok hq
    have hshut : queued items w.items true = queued items w.items false ++ [.shutdown] := by
      simp [queued]
    refine ⟨hpc, hint, hk, hst.reset_ok, hst.items_le, ?_, by simp, ?_⟩
    · simp [hst.calls, hshut]
    · rw [hshut]
      exact hst.pub.append (shutdown_not_mem_queued items w.items) _ _
  | shutdownFailed hp hq hd =>
    rw [hp] at hph
    have hst := hph.2
    obtain ⟨rfl, -⟩ := WorkQueue.put_error_of_open hst.closed hq
    rw [hst.pub.not_returned (shutdown_not_mem_queued items w.items)] at hd
    cases hd rfl
  | joined hp =>
    rcases hp with hp | hp | hp <;> rw [hp] at hph
    · exact ⟨hpc, hint, hph.1, hph.2.frame rfl rfl rfl id⟩
    · exact hph.elim
    · exact hph.elim
  | interrupt hp hcan => rw [hc₀] at hcan; cases hcan
  | graceOver hp => rw [hp] at hph; exact hph.elim
  | @collect s r e hp hr =>
    rw [hp] at hph
    obtain ⟨hk, hst⟩ := hph
    exact ⟨hpc, hint, .inr ⟨hk, hst.frame rfl rfl rfl id, s, (r, e), hr, rfl, by rw [hint]⟩⟩
  | @take s item q hs hq =>
    refine Inv.move ⟨hpc, hint, hph⟩ (by rw [hs]; rfl) (by rw [hs]; nofun) ?_ ?_
    · obtain ⟨rest, -, rfl⟩ := WorkQueue.get_ok hq
      rfl
    · intro shut hpub
      rw [hs] at hpub
      exact hpub.take hq
  | abort hs he hpc' => rw [hpc] at hpc'; cases hpc'
  | @handle s item q hs hq =>
    refine Inv.move ⟨hpc, hint, hph⟩ (by rw [hs]; rfl) (by rw [hs]; nofun) ?_ ?_
    · obtain ⟨-, rfl⟩ := WorkQueue.done_ok hq
      rfl
    · intro shut hpub
      rw [hs] at hpub
      exact hpub.handle hq
  | @finish s q hs hq =>
    refine Inv.move ⟨hpc, hint, hph⟩ (by rw [hs]; rfl) (by rw [hs]; nofun) ?_ ?_
    · obtain ⟨-, rfl⟩ := WorkQueue.done_ok hq
      rfl
    · intro shut hpub
      rw [hs] at hpub
      exact hpub.finish hq
  | cancel => cases hc

/-- The run lemma: every world a run never cancelled reaches keeps the invariant. -/
theorem Inv.reachable {w : World σ}
    (h : Relation.ReflTransGen (Step admin p) (World.init items capacity false) w)
    (hc : w.cancelled = false) : Inv admin p items capacity w := by
  induction h with
  | refl => exact init_inv
  | tail _ hs ih => exact (ih (hs.cancelled_of hc)).step hs hc

/-- No deadlock: until the coordinator returns, a run never cancelled can go on. -/
theorem Inv.progress {w : World σ} (h : Inv admin p items capacity w)
    (hf : ∀ err, w.phase ≠ .finished err) : ∃ w', Step admin p w w' := by
  have hph := h.phase
  -- a full queue holds items the publisher has not finished, so the publisher can move
  have busy : ∀ {shut}, Started admin p items shut w → w.queue.hasRoom = false →
      ∃ w', Step admin p w w' := fun hst hroom => by
    have hlen := hst.pub.length_le_unfinished
    have hne : w.queue.items.length ≠ 0 := by
      simpa using WorkQueue.items_ne_nil_of_full hroom
    exact hst.pub.move (by omega)
  cases hphase : w.phase with
  | reset rest =>
    cases ha : admin with
    | some f => exact ⟨_, .resetFailed hphase rfl⟩
    | none => exact ⟨_, .resetDone hphase rfl⟩
  | enqueue rest =>
    cases rest with
    | nil => exact ⟨_, .loopEnd hphase⟩
    | cons item rest =>
      cases hd : w.enqueueDone
      · exact ⟨_, .loopNext hphase hd⟩
      · exact ⟨_, .loopStop hphase hd⟩
  | put item rest =>
    rw [hphase] at hph
    rcases WorkQueue.put_cases w.queue (.work item) with ⟨-, hq⟩ | ⟨-, hq⟩ | ⟨-, hroom, -⟩
    · exact ⟨_, .putFailed hphase hq nofun⟩
    · exact ⟨_, .put hphase hq⟩
    · exact busy hph.2 hroom
  | enqueued => exact ⟨_, .enqueued hphase⟩
  | shutdown =>
    rw [hphase] at hph
    rcases WorkQueue.put_cases w.queue .shutdown with ⟨-, hq⟩ | ⟨-, hq⟩ | ⟨-, hroom, -⟩
    · exact ⟨_, .shutdownFailed hphase hq nofun⟩
    · exact ⟨_, .shutdown hphase hq⟩
    · exact busy hph.2 hroom
  | join =>
    cases hj : w.joined
    · rw [hphase] at hph
      simp only [World.joined, Bool.or_eq_false_iff, decide_eq_false_iff_not] at hj
      exact hph.2.pub.move hj.1
    · exact ⟨_, .joined (.inl hphase) hj⟩
  | grace | drain => rw [hphase] at hph; exact hph.elim
  | collect =>
    rw [hphase] at hph
    have hst := hph.2
    cases hpub : w.pub with
    | returned s out => exact ⟨_, .collect hphase hpub⟩
    | _ =>
      -- the shutdown marker is still to be finished
      refine hst.pub.move (hst.pub.unfinished_ne_zero (by simp [queued]) (by rw [hpub]; rfl))
  | finished err => exact absurd hphase (hf err)

/-- Where a run never cancelled ends when the reset fails: with the failure, having asked for
nothing more than the reset. -/
theorem Inv.finished_failed {f : ResetFailure} {w : World σ} {err : Option SessionError}
    (h : Inv (some f) p items capacity w) (hfin : w.phase = .finished err) :
    err = some (.reset f) ∧ w.calls = [.reset] ∧ w.pub = .idle ∧ w.items = 0 ∧
      w.dispatch = {} ∧ w.queue = WorkQueue.create capacity := by
  have hph := h.phase
  rw [hfin] at hph
  rcases hph with ⟨f', hf', herr, hcalls, hpub, hk, hd, hq⟩ | ⟨-, hst, -⟩
  · cases hf'
    exact ⟨herr, hcalls, hpub, hk, hd, hq⟩
  · cases hst.reset_ok

/-- Where a run never cancelled ends when the reset succeeds: every item and then the shutdown
marker put, the publisher returned from handling all the items in order, and the error given by
`outcome`. -/
theorem Inv.finished_ok {w : World σ} {err : Option SessionError}
    (h : Inv none p items capacity w) (hfin : w.phase = .finished err) :
    w.calls = [.reset, .start] ++ items.map (fun item => .put (.work item)) ++ [.put .shutdown] ∧
    w.items = items.length ∧
    ∃ r e, w.pub = .returned (items.foldl p.work p.start) (r, e) ∧
      (r, e) = p.finish (items.foldl p.work p.start) ∧ w.dispatch = r ∧
      err = outcome false items.length r e := by
  have hph := h.phase
  rw [hfin] at hph
  rcases hph with ⟨f', hf', -⟩ | ⟨hk, hst, s, ⟨r, e⟩, hpub, hdispatch, herr⟩
  · cases hf'
  · have hqueued : queued items w.items true = items.map .work ++ [.shutdown] := by
      rw [queued_true, hk, List.take_length]
    have hp := hst.pub
    rw [hpub, hqueued] at hp
    -- the publisher took everything put, the shutdown marker last
    obtain ⟨ws, hws, rfl, hout, -⟩ := hp
    obtain ⟨rfl, -⟩ := map_work_append_shutdown hws.symm
    exact ⟨by simp [hst.calls, hqueued], hk, r, e, hpub, hout, hdispatch, by rw [herr, hk]⟩

/-- The error of a session that was not interrupted. -/
theorem outcome_eq_none_iff {k : Nat} {r : PublishResult} {e : Option String} :
    outcome false k r e = none ↔ e = none ∧ r.failed = 0 ∧ r.skipped = 0 ∧ r.published = k := by
  cases e <;> simp [outcome, PublishResult.complete, and_assoc]

theorem outcome_incomplete {k : Nat} {r : PublishResult} (hne : outcome false k r none ≠ none) :
    outcome false k r none = some (.incomplete r.published k) := by
  unfold outcome at hne ⊢
  split <;> simp_all

/-- Session dispatch accounting. Under a context never cancelled no run of a session is infinite,
and none is stuck before the coordinator returns. A coordinator whose reset fails returns its
failure, having put nothing and never started the publisher. Otherwise it has reset the topic
once and then started the publisher; it has put exactly the plan's work items, in order,
followed by one shutdown marker, and counted them all. The publisher has handled each item in
that order. The session ends without error exactly when the publisher returned no error and
published every item, with `publish: ...` when the publisher returned an error, and with
`incomplete dispatch: ...` otherwise. -/
theorem session_dispatch_accounting (rs : List Request) (u : Universe) (o : Classify.Options)
    (m : PlanMeta) (admin : Option ResetFailure) (p : Drainer σ) (capacity : Int) :
    let items := (Plan.build rs u (o.classify u.records)).workItems m
    Acc (fun w' w => Step admin p w w') (World.init items capacity false) ∧
    ∀ w, Relation.ReflTransGen (Step admin p) (World.init items capacity false) w →
      w.cancelled = false →
      ((∀ err, w.phase ≠ .finished err) → ∃ w', Step admin p w w') ∧
      ∀ err, w.phase = .finished err →
        match admin with
        | some f =>
          err = some (.reset f) ∧ w.calls = [.reset] ∧ w.pub = .idle ∧
            w.queue = WorkQueue.create capacity
        | none =>
          w.calls = [.reset, .start] ++ items.map (fun item => .put (.work item)) ++
            [.put .shutdown] ∧
          w.items = items.length ∧
          ∃ r e, w.pub = .returned (items.foldl p.work p.start) (r, e) ∧
            (r, e) = p.finish (items.foldl p.work p.start) ∧ w.dispatch = r ∧
            (err = none ↔ e = none ∧ r.failed = 0 ∧ r.skipped = 0 ∧ r.published = items.length) ∧
            (∀ msg, e = some msg → err = some (.publish msg)) ∧
            (e = none → err ≠ none → err = some (.incomplete r.published items.length)) := by
  intro items
  refine ⟨Step.acc _, fun w hw hc => ?_⟩
  have hinv : Inv admin p items capacity w := Inv.reachable hw hc
  refine ⟨hinv.progress, fun err hfin => ?_⟩
  cases admin with
  | some f =>
    obtain ⟨herr, hcalls, hpub, -, -, hq⟩ := hinv.finished_failed hfin
    exact ⟨herr, hcalls, hpub, hq⟩
  | none =>
    obtain ⟨hcalls, hk, r, e, hpub, hfinish, hdispatch, herr⟩ := hinv.finished_ok hfin
    refine ⟨hcalls, hk, r, e, hpub, hfinish, hdispatch, herr ▸ outcome_eq_none_iff,
      fun msg he => by rw [herr, he]; rfl, fun he hne => ?_⟩
    subst he
    rw [herr] at hne ⊢
    exact outcome_incomplete hne

/-- A session dispatching the one item of a one-test plan through an unbounded queue, onto a
topic kept in memory, runs to its end without error: the coordinator resets the topic, starts
the publisher and puts the item and then the shutdown marker. -/
theorem single_item_dispatch_finishes :
    let items := (Plan.build [⟨"T-1", ["a"]⟩] ⟨[{ id := "a", tags := ["A"] }]⟩
      (({} : Classify.Options).classify [{ id := "a", tags := ["A"] }])).workItems {}
    ∃ w, Relation.ReflTransGen (Step none ({} : MemoryTopic).drainer)
        (World.init items 0 false) w ∧
      w.cancelled = false ∧ w.phase = .finished none ∧
      w.calls = [.reset, .start] ++ items.map (fun item => .put (.work item)) ++ [.put .shutdown] ∧
      w.items = items.length := by
  intro items
  let item : WorkItem :=
    { tag := "A", testIds := some ["a"], ticket := "T-1", targets := some [], build := "000" }
  have hitems : items = [item] := by decide +kernel
  rw [hitems]
  -- the coordinator resets, starts the publisher, puts the item and the marker; the publisher
  -- takes and handles the item, then takes the marker and returns; the coordinator collects
  obtain ⟨w, run, hphase, hcancelled⟩ : ∃ w, Relation.ReflTransGen
      (Step none ({} : MemoryTopic).drainer) (World.init [item] 0 false) w ∧
      w.phase = .finished none ∧ w.cancelled = false :=
    ⟨_, .head (Step.resetDone rfl rfl) <| .head (Step.loopNext rfl rfl) <|
      .head (Step.put rfl rfl) <| .head (Step.loopEnd rfl) <| .head (Step.enqueued rfl) <|
      .head (Step.shutdown rfl rfl) <| .head (Step.take rfl rfl) <|
      .head (Step.handle rfl rfl) <| .head (Step.take rfl rfl) <| .head (Step.finish rfl rfl) <|
      .head (Step.joined (.inl rfl) rfl) <| .single (Step.collect rfl rfl),
      (by decide +kernel), rfl⟩
  have hacc := session_dispatch_accounting [⟨"T-1", ["a"]⟩] ⟨[{ id := "a", tags := ["A"] }]⟩
    {} {} none ({} : MemoryTopic).drainer 0
  have hplan : (Plan.build [⟨"T-1", ["a"]⟩] ⟨[{ id := "a", tags := ["A"] }]⟩
      (({} : Classify.Options).classify [{ id := "a", tags := ["A"] }])).workItems {} = [item] :=
    hitems
  dsimp only at hacc
  rw [hplan] at hacc
  obtain ⟨hcalls, hcount, -⟩ := (hacc.2 w run hcancelled).2 none hphase
  exact ⟨w, run, hcancelled, hphase, hcalls, hcount⟩

/-! ## The session as the driver runs it -/

/-- The records on a memory topic as its publisher has them; none before it starts. -/
def World.records (w : World (MemoryTopic × PublishResult)) : List String :=
  match w.pub with
  | .idle => []
  | .waiting (t, _) | .holding (t, _) _ | .returned (t, _) _ => t.records

/-- `Session.run` gives what every run of the session's dispatch ends with, under a context never
cancelled: whatever the interleaving and the queue capacity, a run that ends has the error, the
count of items, the publisher's result and the topic's records that `Session.run` computes. -/
theorem Session.run_agrees (s : Session) (u : Universe) (o : Classify.Options)
    (topic : MemoryTopic) (rs : List Request) (hu : s.tests = some u)
    (ho : s.classifier = some o) (ht : s.topic = some topic) (hrs : s.source = .requests rs)
    (capacity : Int) {w : World (MemoryTopic × PublishResult)}
    (hw : Relation.ReflTransGen (Step topic.resetFailure topic.drainer)
      (World.init ((Plan.build rs u (o.classify u.records)).workItems s.planMeta) capacity false) w)
    (hc : w.cancelled = false) {err : Option SessionError} (hfin : w.phase = .finished err) :
    (s.run false).2.1 = err ∧ (s.run false).1.items = w.items ∧
      (s.run false).1.dispatch = w.dispatch ∧ (s.run false).2.2 = w.records := by
  have hinv := Inv.reachable hw hc
  cases hreset : topic.resetFailure with
  | some f =>
    rw [hreset] at hinv
    obtain ⟨rfl, -, hpub, hk, hd, -⟩ := hinv.finished_failed hfin
    simp [Session.run, hu, ho, ht, hrs, hreset, World.records, hpub, hk, hd]
  | none =>
    rw [hreset] at hinv
    obtain ⟨-, hk, r, e, hpub, hfinish, hdispatch, herr⟩ := hinv.finished_ok hfin
    simp only [MemoryTopic.drainer] at hpub hfinish
    simp only [Session.run, hu, ho, ht, hrs, hreset, World.records, hpub, hk, hdispatch, herr,
      outcome, Bool.false_eq_true, if_false]
    -- the publisher's run is the fold `Session.run` makes
    generalize List.foldl _ (topic, ({} : PublishResult)) _ = F at hfinish ⊢
    obtain ⟨rfl, rfl⟩ := Prod.mk.inj hfinish
    exact ⟨rfl, trivial, rfl, trivial⟩

end Coordinator

end TestDispatch
