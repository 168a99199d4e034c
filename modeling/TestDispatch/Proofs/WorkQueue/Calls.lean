import TestDispatch.WorkQueue
/-!
# Sequences of calls on the work queue

A call on the queue is a put, a get, a `done` or a join. A call that fails leaves the queue as it
was, as the queue's methods do; a run of calls from a new queue keeps a log of each call with its
reply. Read off the log are the items that puts added (`accepted`), the items that gets returned
(`taken`) and the number of `done` calls that went through (`doneCount`).

`Tracks` relates a queue to the log of the calls that made it: what was taken, followed by what
waits, is what was put; the unfinished count is what was put less what was marked done; the queue
is closed once a shutdown marker was put, and nothing was put after it; a bounded queue holds no
more than its capacity. Every call keeps it (`Tracks.call`), hence so does every run
(`tracks_run`).

Main results:

* `queue_order_and_closure`: over every run from a new queue of any capacity, the gets return
  the items put, in order, and the rest waits; a bounded queue never holds more than its
  capacity; once a shutdown marker is put, every later put of an item is refused as closed and
  changes nothing, so the marker is the last item taken; a put of no item and a put that would
  wait change nothing.
* `queue_task_accounting`: the unfinished count is the number of items put less the number of
  `done` calls that went through, `done` fails exactly when it is zero and then changes nothing,
  and a join succeeds exactly when it is zero. When every `done` acknowledges an item taken, a
  join that succeeds finds no item waiting.
* `nil_put_after_shutdown`: after a shutdown marker, a put of no item is refused as missing, not
  as closed.
-/

namespace TestDispatch

/-! ## Calls and their log -/

/-- A call on the queue. -/
inductive QueueCall where
  | put (item : Option QueueItem)
  | get
  | done
  | join
  deriving DecidableEq, Repr

/-- What a call answers: it went through, the item a get took, or why it failed. -/
inductive QueueReply where
  | ok
  | item (item : QueueItem)
  | error (e : QueueError)
  deriving DecidableEq, Repr

namespace WorkQueue

/-- A call's reply and the queue after it. A call that fails leaves the queue as it was. -/
def call (q : WorkQueue) : QueueCall → QueueReply × WorkQueue
  | .put item =>
    match q.put item with
    | .ok q' => (.ok, q')
    | .error e => (.error e, q)
  | .get =>
    match q.get with
    | .ok (item, q') => (.item item, q')
    | .error e => (.error e, q)
  | .done =>
    match q.done with
    | .ok q' => (.ok, q')
    | .error e => (.error e, q)
  | .join =>
    match q.join with
    | .ok () => (.ok, q)
    | .error e => (.error e, q)

/-- One more call, logged with its reply. -/
def logCall (s : List (QueueCall × QueueReply) × WorkQueue) (c : QueueCall) :
    List (QueueCall × QueueReply) × WorkQueue :=
  (s.1 ++ [(c, (s.2.call c).1)], (s.2.call c).2)

/-- The log of a sequence of calls, and the queue after them. -/
def run (q : WorkQueue) (cs : List QueueCall) : List (QueueCall × QueueReply) × WorkQueue :=
  cs.foldl logCall ([], q)

end WorkQueue

/-- The items that puts added, in order. -/
def accepted (log : List (QueueCall × QueueReply)) : List QueueItem :=
  log.filterMap fun
    | (.put (some item), .ok) => some item
    | _ => none

/-- The items that gets returned, in order. -/
def taken (log : List (QueueCall × QueueReply)) : List QueueItem :=
  log.filterMap fun
    | (.get, .item item) => some item
    | _ => none

/-- The number of `done` calls that went through. -/
def doneCount (log : List (QueueCall × QueueReply)) : Nat :=
  log.countP fun
    | (.done, .ok) => true
    | _ => false

@[simp] theorem accepted_append (l l' : List (QueueCall × QueueReply)) :
    accepted (l ++ l') = accepted l ++ accepted l' := List.filterMap_append

@[simp] theorem taken_append (l l' : List (QueueCall × QueueReply)) :
    taken (l ++ l') = taken l ++ taken l' := List.filterMap_append

@[simp] theorem doneCount_append (l l' : List (QueueCall × QueueReply)) :
    doneCount (l ++ l') = doneCount l + doneCount l' := List.countP_append

/-- Only a `done` call counts as one. -/
theorem doneCount_singleton_of_ne {c : QueueCall} (hc : c ≠ .done) (r : QueueReply) :
    doneCount [(c, r)] = 0 := by
  rcases c with _ | _ | _ | _
  · rfl
  · rfl
  · exact absurd rfl hc
  · rfl

/-- A failed call adds nothing to the log's counts. -/
theorem counts_error (c : QueueCall) (e : QueueError) :
    accepted [(c, .error e)] = [] ∧ taken [(c, .error e)] = [] ∧ doneCount [(c, .error e)] = 0 := by
  rcases c with (_ | _) | _ | _ | _ <;> exact ⟨rfl, rfl, rfl⟩

namespace WorkQueue

/-! ## What each call does -/

variable {q : WorkQueue}

@[simp] theorem call_put_none (q : WorkQueue) : q.call (.put none) = (.error .missingItem, q) := rfl

theorem call_put_of_closed (h : q.closed = true) (item : QueueItem) :
    q.call (.put (some item)) = (.error .closed, q) := by
  simp [call, put, h]

theorem call_put_of_room (hc : q.closed = false) (hr : q.hasRoom = true) (item : QueueItem) :
    q.call (.put (some item)) =
      (.ok, { q with items := q.items ++ [item], unfinished := q.unfinished + 1,
                     closed := item = .shutdown }) := by
  simp [call, put, hc, hr]

/-- A put that fails leaves the queue as it was. -/
theorem call_put_of_error {item : Option QueueItem} {e : QueueError}
    (h : (q.call (.put item)).1 = .error e) : (q.call (.put item)).2 = q := by
  cases hp : q.put item with
  | ok q' => simp [call, hp] at h
  | error e' => simp [call, hp]

theorem call_put_of_full (hc : q.closed = false) (hr : q.hasRoom = false) (item : QueueItem) :
    q.call (.put (some item)) = (.error .wouldBlock, q) := by
  simp [call, put, hc, hr]

theorem call_get_cons {item : QueueItem} {rest : List QueueItem} (h : q.items = item :: rest) :
    q.call .get = (.item item, { q with items := rest }) := by
  simp [call, get, h]

theorem call_get_nil (h : q.items = []) : q.call .get = (.error .wouldBlock, q) := by
  simp [call, get, h]

theorem call_done_of_zero (h : q.unfinished = 0) : q.call .done = (.error .overDone, q) := by
  simp [call, done, h]

theorem call_done_of_ne (h : q.unfinished ≠ 0) :
    q.call .done = (.ok, { q with unfinished := q.unfinished - 1 }) := by
  simp [call, done, h]

/-- A `done` fails exactly when no item is unfinished. -/
theorem call_done_overDone_iff (q : WorkQueue) :
    (q.call .done).1 = .error .overDone ↔ q.unfinished = 0 := by
  by_cases hu : q.unfinished = 0
  · simp [call_done_of_zero hu, hu]
  · simp [call_done_of_ne hu, hu]

theorem call_join (q : WorkQueue) :
    q.call .join = (if q.unfinished = 0 then .ok else .error .wouldBlock, q) := by
  by_cases hu : q.unfinished = 0 <;> simp [call, join, hu]

/-- A join goes through exactly when no item is unfinished. -/
theorem call_join_ok_iff (q : WorkQueue) : (q.call .join).1 = .ok ↔ q.unfinished = 0 := by
  by_cases hu : q.unfinished = 0 <;> simp [call_join, hu]

end WorkQueue

/-! ## The queue against its log -/

/-- What a queue of capacity `cap` holds after the calls of a log. -/
structure Tracks (cap : Int) (log : List (QueueCall × QueueReply)) (q : WorkQueue) : Prop where
  capacity : q.capacity = cap
  /-- The items taken, then the items waiting, are the items put. -/
  fifo : taken log ++ q.items = accepted log
  /-- Every item put is unfinished until a `done` goes through. -/
  unfinished : q.unfinished + doneCount log = (accepted log).length
  closed : q.closed = true ↔ QueueItem.shutdown ∈ accepted log
  /-- Nothing was put after a shutdown marker. -/
  shutdown_last : QueueItem.shutdown ∉ (accepted log).dropLast
  bounded : 0 < cap → (q.items.length : Int) ≤ cap

namespace Tracks

variable {cap : Int} {log : List (QueueCall × QueueReply)} {q : WorkQueue}

theorem init (cap : Int) : Tracks cap [] (WorkQueue.create cap) where
  capacity := rfl
  fifo := rfl
  unfinished := rfl
  closed := by simp [WorkQueue.create, accepted]
  shutdown_last := by simp [accepted]
  bounded := fun h => by simp [WorkQueue.create]; omega

/-- A logged call that puts, takes and finishes nothing keeps the queue in step. -/
theorem quiet (h : Tracks cap log q) {e : QueueCall × QueueReply} (hacc : accepted [e] = [])
    (htak : taken [e] = []) (hdone : doneCount [e] = 0) : Tracks cap (log ++ [e]) q :=
  ⟨h.capacity, by simp [htak, hacc, h.fifo], by simp [hdone, hacc, h.unfinished],
    by simp [hacc, h.closed], by simp [hacc, h.shutdown_last], h.bounded⟩

/-- A call that fails keeps the queue and adds nothing to the counts. -/
theorem fail (h : Tracks cap log q) (c : QueueCall) (e : QueueError) :
    Tracks cap (log ++ [(c, .error e)]) q := by
  obtain ⟨hacc, htak, hdone⟩ := counts_error c e
  exact h.quiet hacc htak hdone

/-- A put into an open queue with room appends the item and counts it unfinished. -/
theorem put (h : Tracks cap log q) (hc : q.closed = false) (hr : q.hasRoom = true)
    (item : QueueItem) :
    Tracks cap (log ++ [(.put (some item), .ok)])
      { q with items := q.items ++ [item], unfinished := q.unfinished + 1,
               closed := item = .shutdown } := by
  have hacc : accepted [(.put (some item), .ok)] = [item] := rfl
  have htak : taken [(.put (some item), .ok)] = [] := rfl
  have hdone : doneCount [(.put (some item), .ok)] = 0 := rfl
  -- the queue is open, so no shutdown marker was put before
  have hopen : QueueItem.shutdown ∉ accepted log := fun hs => by
    rw [← h.closed, hc] at hs
    cases hs
  refine ⟨h.capacity, ?_, ?_, ?_, ?_, fun hcap => ?_⟩
  · simp [hacc, htak, ← h.fifo]
  · simp only [accepted_append, doneCount_append, hacc, hdone, List.length_append,
      List.length_singleton]
    have := h.unfinished
    omega
  · simp only [accepted_append, hacc, List.mem_append, List.mem_singleton, decide_eq_true_eq]
    constructor
    · exact fun hs => .inr hs.symm
    · rintro (hs | hs)
      · exact absurd hs hopen
      · exact hs.symm
  · rw [accepted_append, hacc, List.dropLast_concat]
    exact hopen
  · -- the room was there: the queue is unbounded or held less than its capacity
    have hlt : (q.items.length : Int) < cap := by
      simp only [WorkQueue.hasRoom, Bool.or_eq_true, decide_eq_true_eq, h.capacity] at hr
      omega
    simp only [List.length_append, List.length_singleton]
    omega

/-- A get takes the first waiting item. -/
theorem get (h : Tracks cap log q) {item : QueueItem} {rest : List QueueItem}
    (hq : q.items = item :: rest) :
    Tracks cap (log ++ [(.get, .item item)]) { q with items := rest } := by
  have hacc : accepted [(.get, .item item)] = [] := rfl
  have htak : taken [(.get, .item item)] = [item] := rfl
  have hdone : doneCount [(.get, .item item)] = 0 := rfl
  refine ⟨h.capacity, ?_, by simp [hacc, hdone, h.unfinished], by simp [hacc, h.closed],
    by simp [hacc, h.shutdown_last], fun hcap => ?_⟩
  · simp [hacc, htak, ← h.fifo, hq]
  · have := h.bounded hcap
    simp only [hq, List.length_cons] at this
    dsimp only
    omega

/-- A `done` that goes through marks one item finished. -/
theorem done (h : Tracks cap log q) (hu : q.unfinished ≠ 0) :
    Tracks cap (log ++ [(.done, .ok)]) { q with unfinished := q.unfinished - 1 } := by
  have hacc : accepted [(.done, .ok)] = [] := rfl
  have htak : taken [(.done, .ok)] = [] := rfl
  have hdone : doneCount [(.done, .ok)] = 1 := rfl
  refine ⟨h.capacity, by simp [hacc, htak, h.fifo], ?_, by simp [hacc, h.closed],
    by simp [hacc, h.shutdown_last], h.bounded⟩
  simp only [doneCount_append, accepted_append, hacc, hdone, List.append_nil]
  have := h.unfinished
  omega

/-- Every call keeps the queue in step with its log. -/
theorem call (h : Tracks cap log q) (c : QueueCall) :
    Tracks cap (log ++ [(c, (q.call c).1)]) (q.call c).2 := by
  cases c with
  | put item =>
    cases item with
    | none => exact h.fail _ _
    | some item =>
      cases hc : q.closed
      · cases hr : q.hasRoom
        · rw [WorkQueue.call_put_of_full hc hr]
          exact h.fail _ _
        · rw [WorkQueue.call_put_of_room hc hr]
          exact h.put hc hr item
      · rw [WorkQueue.call_put_of_closed hc]
        exact h.fail _ _
  | get =>
    cases hq : q.items with
    | nil =>
      rw [WorkQueue.call_get_nil hq]
      exact h.fail _ _
    | cons item rest =>
      rw [WorkQueue.call_get_cons hq]
      exact h.get hq
  | done =>
    by_cases hu : q.unfinished = 0
    · rw [WorkQueue.call_done_of_zero hu]
      exact h.fail _ _
    · rw [WorkQueue.call_done_of_ne hu]
      exact h.done hu
  | join =>
    rw [WorkQueue.call_join]
    split
    · -- a join that goes through changes nothing
      exact h.quiet rfl rfl rfl
    · exact h.fail _ _

theorem foldl (h : Tracks cap log q) (cs : List QueueCall) :
    Tracks cap (cs.foldl WorkQueue.logCall (log, q)).1 (cs.foldl WorkQueue.logCall (log, q)).2 := by
  induction cs generalizing log q with
  | nil => exact h
  | cons c cs ih => exact ih (h.call c)

end Tracks

/-- Every run of calls from a new queue keeps the queue in step with the log. -/
theorem tracks_run (cap : Int) (cs : List QueueCall) :
    Tracks cap ((WorkQueue.create cap).run cs).1 ((WorkQueue.create cap).run cs).2 :=
  (Tracks.init cap).foldl cs

/-- A text that holds the shutdown marker before its last place holds it before the end. -/
theorem shutdown_mem_dropLast {a b : List QueueItem} (hb : b ≠ []) :
    QueueItem.shutdown ∈ (a ++ .shutdown :: b).dropLast := by
  rw [List.dropLast_append_of_ne_nil (List.cons_ne_nil _ _), List.dropLast_cons_of_ne_nil hb]
  exact List.mem_append_right _ (List.mem_cons_self ..)

/-- Calls on a queue of any capacity, in any order: the gets return the items put, in order, and
the rest waits; a bounded queue never holds more than its capacity; once a shutdown marker has
been put, every later put of an item is refused as closed and changes nothing, so no item is
taken after the marker; and a put of no item, or a put that would wait, changes nothing. -/
theorem queue_order_and_closure (cap : Int) (cs : List QueueCall) :
    let log := ((WorkQueue.create cap).run cs).1
    let q := ((WorkQueue.create cap).run cs).2
    taken log ++ q.items = accepted log ∧
      (0 < cap → (q.length : Int) ≤ cap) ∧
      ((QueueCall.put (some .shutdown), QueueReply.ok) ∈ log →
        ∀ item, q.call (.put (some item)) = (.error .closed, q)) ∧
      (∀ a b, taken log = a ++ .shutdown :: b → b = []) ∧
      q.call (.put none) = (.error .missingItem, q) ∧
      (∀ item, (q.call (.put item)).1 = .error .wouldBlock → (q.call (.put item)).2 = q) := by
  intro log q
  have h : Tracks cap log q := tracks_run cap cs
  refine ⟨h.fifo, h.bounded, fun hs item => ?_, fun a b htaken => ?_, rfl,
    fun _ hwait => WorkQueue.call_put_of_error hwait⟩
  · -- the marker was put, so the queue is closed
    have hacc : QueueItem.shutdown ∈ accepted log :=
      List.mem_filterMap.mpr ⟨_, hs, rfl⟩
    exact WorkQueue.call_put_of_closed (h.closed.mpr hacc) item
  · -- what follows the marker among the items taken also follows it among the items put
    cases b with
    | nil => rfl
    | cons item b =>
      have hput : accepted log = a ++ .shutdown :: (item :: b ++ q.items) := by
        rw [← h.fifo, htaken, List.append_assoc, List.cons_append]
      exact absurd (hput ▸ shutdown_mem_dropLast (List.cons_ne_nil _ _)) h.shutdown_last

/-- After a shutdown marker, a put of no item is refused as missing, not as closed. -/
theorem nil_put_after_shutdown :
    ((WorkQueue.create 0).run [.put (some .shutdown), .put none]).1 =
      [(.put (some .shutdown), .ok), (.put none, .error .missingItem)] := rfl

/-! ## Acknowledging taken items -/

/-- Every `done` call comes after more items were taken than `done` calls went through. -/
def AcksTaken (log : List (QueueCall × QueueReply)) : Prop :=
  ∀ pre r post, log = pre ++ (QueueCall.done, r) :: post → doneCount pre < (taken pre).length

/-- When every `done` acknowledges a taken item, no more `done` calls went through than items
were taken. -/
theorem doneCount_le_taken {log : List (QueueCall × QueueReply)} (h : AcksTaken log) :
    doneCount log ≤ (taken log).length := by
  -- the bound holds of every prefix: walk the log, carrying the prefix already read
  suffices hwalk : ∀ pre, AcksTaken (pre ++ log) → doneCount pre ≤ (taken pre).length →
      doneCount (pre ++ log) ≤ (taken (pre ++ log)).length from hwalk [] h (Nat.le_refl 0)
  clear h
  induction log with
  | nil =>
    intro pre _ hpre
    rwa [List.append_nil]
  | cons e log ih =>
    intro pre hacks hpre
    have hnext : doneCount (pre ++ [e]) ≤ (taken (pre ++ [e])).length := by
      obtain ⟨c, r⟩ := e
      by_cases hc : c = .done
      · -- a `done` comes after more taken items than earlier `done` calls
        subst hc
        have hlt := hacks pre r log rfl
        have hone : doneCount [(QueueCall.done, r)] ≤ 1 := List.countP_le_length
        have htak : taken [(QueueCall.done, r)] = [] := rfl
        simp only [doneCount_append, taken_append, htak, List.append_nil]
        omega
      · -- any other call leaves the count of `done` calls as it was
        simp only [doneCount_append, taken_append, doneCount_singleton_of_ne hc,
          List.length_append]
        omega
    have := ih (pre ++ [e]) (by simpa using hacks) hnext
    simpa using this

/-- Calls on a queue of any capacity, in any order: the unfinished count is the number of items
put less the number of `done` calls that went through, so it never falls below zero; `done`
fails exactly when the count is zero, and then changes nothing; a join succeeds exactly when the
count is zero, waits otherwise, and changes nothing. When every `done` acknowledges an item
taken, a join that succeeds finds no item waiting. -/
theorem queue_task_accounting (cap : Int) (cs : List QueueCall) :
    let log := ((WorkQueue.create cap).run cs).1
    let q := ((WorkQueue.create cap).run cs).2
    q.unfinished + doneCount log = (accepted log).length ∧
      ((q.call .done).1 = .error .overDone ↔ q.unfinished = 0) ∧
      ((q.call .done).1 = .error .overDone → (q.call .done).2 = q) ∧
      ((q.call .join).1 = .ok ↔ q.unfinished = 0) ∧
      ((q.call .join).1 ≠ .ok → (q.call .join).1 = .error .wouldBlock) ∧
      (q.call .join).2 = q ∧
      (AcksTaken log → (q.call .join).1 = .ok → q.length = 0) := by
  intro log q
  have h : Tracks cap log q := tracks_run cap cs
  have hjoin := WorkQueue.call_join q
  refine ⟨h.unfinished, WorkQueue.call_done_overDone_iff q, fun hdone => ?_,
    WorkQueue.call_join_ok_iff q, ?_, by rw [hjoin], fun hacks hjoined => ?_⟩
  · rw [WorkQueue.call_done_of_zero ((WorkQueue.call_done_overDone_iff q).mp hdone)]
  · rw [hjoin]
    split <;> simp_all
  · -- the waiting items are those put and not taken, and each unfinished one was not acknowledged
    have hu := (WorkQueue.call_join_ok_iff q).mp hjoined
    have hlen := congrArg List.length h.fifo
    rw [List.length_append] at hlen
    have := h.unfinished
    have := doneCount_le_taken hacks
    unfold WorkQueue.length
    omega

/-- A put, a get and a `done` on an unbounded queue: the `done` acknowledges the item taken, so
the join, which then succeeds, finds no item waiting. -/
theorem acknowledged_item_joins :
    let log := ((WorkQueue.create 0).run [.put (some .shutdown), .get, .done]).1
    let q := ((WorkQueue.create 0).run [.put (some .shutdown), .get, .done]).2
    AcksTaken log ∧ (q.call .join).1 = .ok ∧ q.length = 0 := by
  intro log q
  have hlog : log = [(.put (some .shutdown), .ok), (.get, .item .shutdown), (.done, .ok)] := by
    decide
  have hacks : AcksTaken log := by
    intro pre r post h
    rw [hlog] at h
    -- the one `done` is the third call, after the put and the get
    rcases pre with _ | ⟨a, _ | ⟨b, _ | ⟨c, pre⟩⟩⟩ <;> simp at h
    obtain ⟨rfl, rfl, -⟩ := h
    decide
  have hjoin : (q.call .join).1 = .ok := by decide
  exact ⟨hacks, hjoin, (queue_task_accounting 0 [.put (some .shutdown), .get, .done]).2.2.2.2.2.2
    hacks hjoin⟩

end TestDispatch
