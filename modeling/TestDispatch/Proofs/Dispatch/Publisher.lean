import TestDispatch.Dispatch.Publisher
import TestDispatch.Proofs.Coordinator.Dispatch
import TestDispatch.Proofs.Ticket.Roundtrip
/-!
# Publisher accounting

The runs of the publisher, over every interleaving of the publisher, the producer that puts the
items, the context and the broker's callbacks, where the broker calls each callback once with
its answer.

* `Inv`: the invariant of the runs. The items handled, held, queued and still to be put are the
  run's items in order; the records are the tickets of the encodable work handled, in order; the
  counts and the counters are those of the skipped work and of the broker's answers; every item
  put and not yet marked finished is queued, held, waiting for its callback, or the shutdown
  marker past the flush; and the publisher returns only once every callback has returned.
* `Step.weight_lt`: every step lowers a bound on the steps left, so no run is infinite.
* `Inv.progress`: a run can go on until the publisher has returned.

Main result, `publisher_run_accounting`: every run ends with the publisher returned. When it
returns at the shutdown marker it has skipped exactly the work that cannot be written as a
ticket, handed the broker the tickets of all other work in queue order, counted each answer as
published or failed, moved the counters by exactly its counts, and marked `n + 1` items finished,
the marker last, once every callback had returned; so the queue is joined only then. When its
wait for an item is cancelled it returns its counts only once every callback has returned.
-/

namespace TestDispatch

/-- Counting one event raises the counter of its label values by one and leaves the others. -/
theorem CounterFamily.count_inc (f : CounterFamily) (vs ws : List String) :
    (f.inc vs).count ws = f.count ws + if ws = vs then 1 else 0 := by
  unfold inc count
  split
  · -- the label values were counted before: their entries go up by one
    rename_i hany
    rw [List.find?_map]
    have hpred : ((fun c : List String × Nat => decide (c.1 = ws)) ∘
        fun c : List String × Nat => if c.1 = vs then (c.1, c.2 + 1) else (c.1, c.2)) =
        fun c => decide (c.1 = ws) := by
      funext c
      by_cases h : c.1 = vs <;> simp [h]
    rw [hpred]
    cases hfind : f.counts.find? (fun c => decide (c.1 = ws)) with
    | none =>
      have hws : ws ≠ vs := by
        rintro rfl
        obtain ⟨c, hc, hcv⟩ := List.any_eq_true.mp hany
        exact List.find?_eq_none.mp hfind c hc (by simpa using hcv)
      simp [hws]
    | some c =>
      have hc : c.1 = ws := by simpa using List.find?_some hfind
      by_cases h : ws = vs <;> simp [hc, h]
  · rename_i hany
    rw [List.find?_append]
    by_cases h : ws = vs
    · subst h
      have hnone : f.counts.find? (fun c => decide (c.1 = ws)) = none :=
        List.find?_eq_none.mpr fun c hc hcw => hany (List.any_eq_true.mpr ⟨c, hc, hcw⟩)
      simp [hnone]
    · cases hfind : f.counts.find? (fun c => decide (c.1 = ws)) <;> simp [h, Ne.symm h]

namespace Dispatch

open Coordinator (PublishResult)

/-! ## What the invariant speaks of -/

/-- The work items among some queue items, in order. -/
def workOf (items : List QueueItem) : List WorkItem :=
  items.filterMap fun
    | .work w => some w
    | .shutdown => none

@[simp] theorem workOf_nil : workOf [] = [] := rfl

@[simp] theorem workOf_append (a b : List QueueItem) : workOf (a ++ b) = workOf a ++ workOf b :=
  List.filterMap_append

@[simp] theorem workOf_work (w : WorkItem) : workOf [.work w] = [w] := rfl

@[simp] theorem workOf_shutdown : workOf [.shutdown] = [] := rfl

@[simp] theorem workOf_map_work (ws : List WorkItem) : workOf (ws.map .work) = ws := by
  rw [workOf, List.filterMap_map]
  exact List.filterMap_some

@[simp] theorem workOf_content (ws : List WorkItem) : workOf (content ws) = ws := by
  simp [content]

/-- The ticket of a work item, when it can be written. -/
def encoded (w : WorkItem) : Option String := (Ticket.encode w).toOption

namespace Phase

/-- The item the publisher holds. -/
def held : Phase → List QueueItem
  | .holding item => [item]
  | _ => []

/-- Whether the publisher is past the flush at the shutdown marker and not yet returned. -/
def isFlushed : Phase → Bool
  | .flushed _ => true
  | _ => false

/-- Whether the publisher has returned at the shutdown marker. -/
def isReturned : Phase → Bool
  | .returned _ _ => true
  | _ => false

/-- What the publisher returned, if it has. -/
def outcome? : Phase → Option Coordinator.PublishResult
  | .returned r _ | .interrupted r _ => some r
  | _ => none

end Phase

/-- What the publisher has counted under a counter label. -/
def World.tally (w : World) (label : String) : Nat :=
  if label = "ok" then w.published
  else if label = "failed" then w.failed
  else if label = "skipped" then w.skipped
  else 0

/-- The invariant of a run of `ws` whose counters stood at `m₀`. -/
structure Inv (ws : List WorkItem) (m₀ : CounterFamily) (w : World) : Prop where
  /-- The items handled, held, queued and still to be put are the run's items, in order. -/
  items : w.handled ++ w.phase.held ++ w.queue.items ++ w.toPut = content ws
  /-- The queue is closed once the producer has put everything. -/
  closed : w.queue.closed = w.toPut.isEmpty
  /-- The records are the tickets of the encodable work handled, in order. -/
  sent : w.sent.map (·.data) = (workOf w.handled).filterMap encoded
  skipped : w.skipped = (workOf w.handled).countP fun i => (encoded i).isNone
  published : w.published = w.sent.countP fun s => s.callback.answer = some true
  failed : w.failed = w.sent.countP fun s => s.callback.answer = some false
  counters : ∀ l, w.counters.count [l] = m₀.count [l] + w.tally l
  /-- Every item put and not yet marked finished is queued, held, waiting for its callback, or
  the shutdown marker past the flush. -/
  unfinished : w.queue.unfinished = w.queue.items.length + w.phase.held.length +
    w.sent.countP (fun s => !s.callback.isMarked) + (if w.phase.isFlushed then 1 else 0)
  /-- An item was marked finished when skipped, by its callback, or as the shutdown marker. -/
  dones : w.dones = w.skipped + w.sent.countP (fun s => s.callback.isMarked) +
    (if w.phase.isReturned then 1 else 0)
  /-- The publisher has handled the shutdown marker exactly when it is past the flush. -/
  shutdown : QueueItem.shutdown ∈ w.handled ↔ (w.phase.isFlushed || w.phase.isReturned) = true
  /-- The publisher returns what it counted, once every callback has returned. -/
  settled : ∀ r, w.phase.outcome? = some r →
    r = w.result ∧ ∀ s ∈ w.sent, s.callback.isReturned = true
  /-- A publisher whose wait was cancelled returns the cancellation. -/
  interrupted : ∀ r e, w.phase = .interrupted r e → e = cancelError

/-! ## The run's items -/

/-- The shutdown marker ends the run's items: the work stands before it and nothing after it. -/
theorem eq_of_shutdown_mem {ws : List WorkItem} {pre rest : List QueueItem}
    (h : pre ++ .shutdown :: rest = content ws) : pre = ws.map .work ∧ rest = [] := by
  induction pre generalizing ws with
  | nil =>
    cases ws with
    | nil => simpa [content] using h
    | cons w ws => simp [content] at h
  | cons x pre ih =>
    cases ws with
    | nil => simp [content] at h
    | cons w ws =>
      simp only [content, List.map_cons, List.cons_append, List.cons.injEq] at h
      obtain ⟨rfl, h⟩ := h
      obtain ⟨hpre, hrest⟩ := ih h
      exact ⟨by rw [hpre, List.map_cons], hrest⟩

/-- Before the shutdown marker, the run's items are a prefix of the work. -/
theorem eq_take_of_shutdown_not_mem {ws : List WorkItem} {pre rest : List QueueItem}
    (h : pre ++ rest = content ws) (hs : QueueItem.shutdown ∉ pre) :
    pre = (ws.take pre.length).map .work := by
  induction pre generalizing ws with
  | nil => rfl
  | cons x pre ih =>
    cases ws with
    | nil =>
      simp only [content, List.map_nil, List.nil_append, List.cons_append, List.cons.injEq] at h
      exact absurd (h.1 ▸ List.mem_cons_self ..) hs
    | cons w ws =>
      simp only [content, List.map_cons, List.cons_append, List.cons.injEq] at h
      obtain ⟨rfl, h⟩ := h
      simp only [List.length_cons, List.take_succ_cons, List.map_cons]
      rw [← ih h (fun hm => hs (List.mem_cons_of_mem _ hm))]

/-- The last of the run's items is the shutdown marker. -/
theorem eq_shutdown_of_last {ws : List WorkItem} {pre : List QueueItem} {x : QueueItem}
    (h : pre ++ [x] = content ws) : x = .shutdown := by
  have := (List.append_inj' h rfl).2
  simpa using this

/-- Once the publisher has handled the shutdown marker, it has handled every item of the run. -/
theorem Inv.all_handled {ws : List WorkItem} {m₀ : CounterFamily} {w : World}
    (h : Inv ws m₀ w) (hs : QueueItem.shutdown ∈ w.handled) :
    w.handled = content ws ∧ w.phase.held = [] ∧ w.queue.items = [] ∧ w.toPut = [] := by
  obtain ⟨pre, rest, hpre⟩ := List.append_of_mem hs
  have hitems := h.items
  rw [hpre] at hitems
  obtain ⟨hw, hnil⟩ := @eq_of_shutdown_mem ws pre
    (rest ++ w.phase.held ++ w.queue.items ++ w.toPut) (by simpa using hitems)
  simp only [List.append_eq_nil_iff] at hnil
  obtain ⟨⟨⟨hrest, hheld⟩, hq⟩, ht⟩ := hnil
  refine ⟨?_, hheld, hq, ht⟩
  rw [hpre, hw, hrest]
  rfl

theorem length_filterMap_add_countP_isNone {α β : Type} (f : α → Option β) (l : List α) :
    (l.filterMap f).length + l.countP (fun a => (f a).isNone) = l.length := by
  induction l with
  | nil => rfl
  | cons a l ih =>
    cases hf : f a <;> simp [hf] <;> omega

/-! ## Records and counters along a step -/

/-- Replacing an element moves a count by what the old and the new element count. -/
theorem countP_set_of_getElem? {α : Type} {p : α → Bool} {l : List α} {i : Nat} {a : α}
    (h : l[i]? = some a) (b : α) :
    (l.set i b).countP p + (if p a then 1 else 0) = l.countP p + (if p b then 1 else 0) := by
  obtain ⟨hi, rfl⟩ := List.getElem?_eq_some_iff.mp h
  have hle : (if p l[i] then 1 else 0) ≤ l.countP p := List.boole_getElem_le_countP hi
  rw [List.countP_set hi]
  omega

/-- Replacing an element by one with the same image keeps the images. -/
theorem map_set_of_getElem? {α β : Type} {f : α → β} {l : List α} {i : Nat} {a b : α}
    (h : l[i]? = some a) (hf : f b = f a) : (l.set i b).map f = l.map f := by
  obtain ⟨hi, rfl⟩ := List.getElem?_eq_some_iff.mp h
  have hi' : i < (l.map f).length := by simpa using hi
  have hget : f l[i] = (l.map f)[i] := by simp
  rw [List.map_set, hf, hget, List.set_getElem_self]

/-- The counters keep up with the counts when a step counts one more event of one label. -/
theorem counters_inc {m₀ : CounterFamily} {w w' : World} (label : String)
    (h : ∀ l, w.counters.count [l] = m₀.count [l] + w.tally l)
    (hc : w'.counters = w.counters.inc [label])
    (ht : ∀ l, w'.tally l = w.tally l + if l = label then 1 else 0) :
    ∀ l, w'.counters.count [l] = m₀.count [l] + w'.tally l := by
  intro l
  rw [hc, CounterFamily.count_inc, h l, ht l]
  by_cases hl : l = label <;> simp [hl]
  omega

/-! ## The invariant holds along every run -/

variable {ws : List WorkItem} {m₀ : CounterFamily} {w : World}

theorem init_inv (ws : List WorkItem) (capacity : Int) (m₀ : CounterFamily) (cancelled : Bool) :
    Inv ws m₀ (World.init ws capacity m₀ cancelled) where
  items := by simp [World.init, Phase.held, WorkQueue.create]
  closed := by simp [World.init, WorkQueue.create, content]
  sent := rfl
  skipped := rfl
  published := rfl
  failed := rfl
  counters := fun l => by simp [World.init, World.tally]
  unfinished := rfl
  dones := rfl
  shutdown := by simp [World.init, Phase.isFlushed, Phase.isReturned]
  settled := fun _ h => by cases h
  interrupted := fun _ _ h => by cases h

theorem Inv.put {item : QueueItem} {rest : List QueueItem} {q : WorkQueue} (h : Inv ws m₀ w)
    (ht : w.toPut = item :: rest) (hq : w.queue.put (some item) = .ok q) :
    Inv ws m₀ { w with toPut := rest, queue := q } := by
  obtain rfl := WorkQueue.put_ok hq
  -- the item put is the shutdown marker exactly when it is the last one
  have hlast : item = .shutdown ↔ rest = [] := by
    have hitems := h.items
    rw [ht] at hitems
    constructor
    · rintro rfl
      exact (eq_of_shutdown_mem hitems).2
    · rintro rfl
      exact eq_shutdown_of_last hitems
  refine
    { h with
      items := ?_
      closed := ?_
      unfinished := ?_ }
  · simpa [ht] using h.items
  · cases rest <;> simp_all
  · simp only [List.length_append, List.length_singleton]
    rw [h.unfinished]
    omega

theorem Inv.cancel (h : Inv ws m₀ w) : Inv ws m₀ { w with cancelled := true } := { h with }

theorem Inv.take {item : QueueItem} {q : WorkQueue} (h : Inv ws m₀ w) (hp : w.phase = .getting)
    (hq : w.queue.get = .ok (item, q)) : Inv ws m₀ { w with phase := .holding item, queue := q } := by
  obtain ⟨rest, hitems, rfl⟩ := WorkQueue.get_ok hq
  have hu := h.unfinished
  have hd := h.dones
  have hsh := h.shutdown
  rw [hp] at hu hd hsh
  refine
    { h with
      items := ?_
      unfinished := ?_
      dones := ?_
      shutdown := ?_
      settled := ?_
      interrupted := ?_ }
  · simpa [hp, hitems, Phase.held] using h.items
  · simp only [Phase.held, Phase.isFlushed, hitems, List.length_cons,
      Bool.false_eq_true, if_false] at hu ⊢
    omega
  · simpa [Phase.isReturned] using hd
  · simpa [Phase.isFlushed, Phase.isReturned] using hsh
  · intro r hr
    cases hr
  · intro r e he
    cases he

theorem Inv.getFailed (h : Inv ws m₀ w) (hp : w.phase = .getting) :
    Inv ws m₀ { w with phase := .draining } := by
  have hu := h.unfinished
  have hd := h.dones
  have hsh := h.shutdown
  rw [hp] at hu hd hsh
  refine
    { h with
      items := ?_
      unfinished := ?_
      dones := ?_
      shutdown := ?_
      settled := ?_
      interrupted := ?_ }
  · simpa [hp, Phase.held] using h.items
  · simpa [Phase.held, Phase.isFlushed] using hu
  · simpa [Phase.isReturned] using hd
  · simpa [Phase.isFlushed, Phase.isReturned] using hsh
  · intro r hr
    cases hr
  · intro r e he
    cases he

theorem Inv.skip {item : WorkItem} {e : Ticket.TicketError} {q : WorkQueue} (h : Inv ws m₀ w)
    (hp : w.phase = .holding (.work item)) (he : Ticket.encode item = .error e)
    (hq : w.queue.done = .ok q) :
    Inv ws m₀ { w with phase := .getting, queue := q, skipped := w.skipped + 1,
                       counters := w.counters.inc ["skipped"], handled := w.handled ++ [.work item],
                       dones := w.dones + 1 } := by
  obtain ⟨hne, rfl⟩ := WorkQueue.done_ok hq
  have hnone : encoded item = none := by simp [encoded, he, Except.toOption]
  have hu := h.unfinished
  have hd := h.dones
  have hsh := h.shutdown
  rw [hp] at hu hd hsh
  refine
    { h with
      items := ?_
      sent := ?_
      skipped := ?_
      counters := ?_
      unfinished := ?_
      dones := ?_
      shutdown := ?_
      settled := ?_
      interrupted := ?_ }
  · simpa [hp, Phase.held] using h.items
  · simp [h.sent, hnone]
  · simp [h.skipped, hnone]
  · refine counters_inc "skipped" h.counters rfl fun l => ?_
    by_cases hl : l = "skipped" <;> simp [World.tally, hl]
  · simp only [Phase.held, Phase.isFlushed, List.length_singleton, List.length_nil,
      Bool.false_eq_true, if_false] at hu ⊢
    omega
  · simp only [Phase.isReturned, Bool.false_eq_true, if_false] at hd ⊢
    omega
  · simpa [Phase.isFlushed, Phase.isReturned] using hsh
  · intro r hr
    cases hr
  · intro r e he
    cases he

theorem Inv.produce {item : WorkItem} {data : String} (h : Inv ws m₀ w)
    (hp : w.phase = .holding (.work item)) (he : Ticket.encode item = .ok data) :
    Inv ws m₀ { w with phase := .getting, sent := w.sent ++ [⟨data, .waiting⟩],
                       handled := w.handled ++ [.work item] } := by
  have hsome : encoded item = some data := by simp [encoded, he, Except.toOption]
  have hu := h.unfinished
  have hd := h.dones
  have hsh := h.shutdown
  rw [hp] at hu hd hsh
  refine
    { h with
      items := ?_
      sent := ?_
      skipped := ?_
      published := ?_
      failed := ?_
      unfinished := ?_
      dones := ?_
      shutdown := ?_
      settled := ?_
      interrupted := ?_ }
  · simpa [hp, Phase.held] using h.items
  · simp [h.sent, hsome]
  · simp [h.skipped, hsome]
  · simp [h.published, Callback.answer]
  · simp [h.failed, Callback.answer]
  · simp only [Phase.held, Phase.isFlushed, List.length_singleton, List.length_nil,
      List.countP_append, List.countP_singleton, Callback.isMarked, Bool.not_false,
      Bool.false_eq_true, if_false, if_true] at hu ⊢
    omega
  · simpa [Phase.isReturned, Callback.isMarked] using hd
  · simpa [Phase.isFlushed, Phase.isReturned] using hsh
  · intro r hr
    cases hr
  · intro r e he
    cases he

theorem Inv.flush {cut : Bool} (h : Inv ws m₀ w) (hp : w.phase = .holding .shutdown) :
    Inv ws m₀ { w with phase := .flushed (if cut then some flushError else none),
                       handled := w.handled ++ [.shutdown] } := by
  have hu := h.unfinished
  have hd := h.dones
  rw [hp] at hu hd
  refine
    { h with
      items := ?_
      sent := ?_
      skipped := ?_
      unfinished := ?_
      dones := ?_
      shutdown := ?_
      settled := ?_
      interrupted := ?_ }
  · simpa [hp, Phase.held] using h.items
  · simp [h.sent]
  · simp [h.skipped]
  · simp only [Phase.held, Phase.isFlushed, List.length_singleton, List.length_nil,
      Bool.false_eq_true, if_false, if_true] at hu ⊢
    omega
  · simpa [Phase.isReturned] using hd
  · simp [Phase.isFlushed]
  · intro r hr
    cases hr
  · intro r e he
    cases he

theorem Inv.finish {err : Option String} {q : WorkQueue} (h : Inv ws m₀ w)
    (hp : w.phase = .flushed err) (hr : ∀ s ∈ w.sent, s.callback.isReturned = true)
    (hq : w.queue.done = .ok q) :
    Inv ws m₀ { w with phase := .returned w.result err, queue := q, dones := w.dones + 1 } := by
  obtain ⟨hne, rfl⟩ := WorkQueue.done_ok hq
  have hu := h.unfinished
  have hd := h.dones
  have hsh := h.shutdown
  rw [hp] at hu hd hsh
  refine
    { h with
      items := ?_
      unfinished := ?_
      dones := ?_
      shutdown := ?_
      settled := ?_
      interrupted := ?_ }
  · simpa [hp, Phase.held] using h.items
  · simp only [Phase.held, Phase.isFlushed, List.length_nil, Bool.false_eq_true, if_false,
      if_true] at hu ⊢
    omega
  · simp only [Phase.isReturned, Bool.false_eq_true, if_false, if_true] at hd ⊢
    omega
  · simpa [Phase.isFlushed, Phase.isReturned] using hsh
  · intro r hres
    simp only [Phase.outcome?, Option.some.injEq] at hres
    exact ⟨hres.symm, hr⟩
  · intro r e he
    cases he

theorem Inv.drained (h : Inv ws m₀ w) (hp : w.phase = .draining)
    (hr : ∀ s ∈ w.sent, s.callback.isReturned = true) :
    Inv ws m₀ { w with phase := .interrupted w.result cancelError } := by
  have hu := h.unfinished
  have hd := h.dones
  have hsh := h.shutdown
  rw [hp] at hu hd hsh
  refine
    { h with
      items := ?_
      unfinished := ?_
      dones := ?_
      shutdown := ?_
      settled := ?_
      interrupted := ?_ }
  · simpa [hp, Phase.held] using h.items
  · simpa [Phase.held, Phase.isFlushed] using hu
  · simpa [Phase.isReturned] using hd
  · simpa [Phase.isFlushed, Phase.isReturned] using hsh
  · intro r hres
    simp only [Phase.outcome?, Option.some.injEq] at hres
    exact ⟨hres.symm, hr⟩
  · intro r e he
    cases he
    rfl

/-- A callback that has not returned keeps the publisher from returning. -/
theorem Inv.outcome?_eq_none {i : Nat} {s : Sent} (h : Inv ws m₀ w) (hs : w.sent[i]? = some s)
    (hr : s.callback.isReturned = false) : w.phase.outcome? = none := by
  cases ho : w.phase.outcome? with
  | none => rfl
  | some r =>
    have := (h.settled r ho).2 s (List.mem_of_getElem? hs)
    rw [hr] at this
    cases this

namespace Callback

@[simp] theorem answer_waiting : Callback.waiting.answer = none := rfl
@[simp] theorem answer_counted (b : Bool) : (Callback.counted b).answer = some b := rfl
@[simp] theorem answer_marked (b : Bool) : (Callback.marked b).answer = some b := rfl
@[simp] theorem answer_returned (b : Bool) : (Callback.returned b).answer = some b := rfl
@[simp] theorem isMarked_waiting : Callback.waiting.isMarked = false := rfl
@[simp] theorem isMarked_counted (b : Bool) : (Callback.counted b).isMarked = false := rfl
@[simp] theorem isMarked_marked (b : Bool) : (Callback.marked b).isMarked = true := rfl
@[simp] theorem isMarked_returned (b : Bool) : (Callback.returned b).isMarked = true := rfl
@[simp] theorem isReturned_waiting : Callback.waiting.isReturned = false := rfl
@[simp] theorem isReturned_counted (b : Bool) : (Callback.counted b).isReturned = false := rfl
@[simp] theorem isReturned_marked (b : Bool) : (Callback.marked b).isReturned = false := rfl
@[simp] theorem isReturned_returned (b : Bool) : (Callback.returned b).isReturned = true := rfl

end Callback

/-- Moving the callback of one record on changes a count of the records by that record only. -/
theorem countP_set_callback (p : Sent → Bool) {l : List Sent} {i : Nat} {s : Sent}
    (hs : l[i]? = some s) (c : Callback) :
    (l.set i { s with callback := c }).countP p + (if p s then 1 else 0) =
      l.countP p + (if p ⟨s.data, c⟩ then 1 else 0) :=
  countP_set_of_getElem? hs _

/-- Moving a callback on keeps the records' data. -/
theorem data_set_callback {l : List Sent} {i : Nat} {s : Sent} (hs : l[i]? = some s)
    (c : Callback) : (l.set i { s with callback := c }).map (·.data) = l.map (·.data) :=
  map_set_of_getElem? hs rfl

/-- While a callback has not returned, the publisher has not returned either, so the settled
part of the invariant holds of any world in the same phase. -/
theorem settled_of_outcome?_eq_none {w w' : World} (hp : w'.phase = w.phase)
    (hnone : w.phase.outcome? = none) :
    ∀ r, w'.phase.outcome? = some r → r = w'.result ∧ ∀ s ∈ w'.sent, s.callback.isReturned := by
  intro r hr
  rw [hp, hnone] at hr
  cases hr

theorem Inv.answer {i : Nat} {s : Sent} {stored : Bool} (h : Inv ws m₀ w)
    (hs : w.sent[i]? = some s) (hw : s.callback = .waiting) :
    Inv ws m₀ { w with sent := w.sent.set i { s with callback := .counted stored },
                       published := if stored then w.published + 1 else w.published,
                       failed := if stored then w.failed else w.failed + 1,
                       counters := w.counters.inc [outcomeLabel stored] } := by
  have hnone := h.outcome?_eq_none hs (by simp [hw])
  have hok := countP_set_callback (fun s => s.callback.answer = some true) hs (.counted stored)
  have hfail := countP_set_callback (fun s => s.callback.answer = some false) hs (.counted stored)
  have hopen := countP_set_callback (fun s => !s.callback.isMarked) hs (.counted stored)
  have hshut := countP_set_callback (fun s => s.callback.isMarked) hs (.counted stored)
  have hu := h.unfinished
  have hd := h.dones
  refine
    { h with
      sent := (data_set_callback hs _).trans h.sent
      published := ?_
      failed := ?_
      counters := ?_
      unfinished := ?_
      dones := ?_
      settled := settled_of_outcome?_eq_none rfl hnone }
  · rw [h.published] at ⊢
    cases stored <;> simp [hw] at hok ⊢ <;> omega
  · rw [h.failed] at ⊢
    cases stored <;> simp [hw] at hfail ⊢ <;> omega
  · refine counters_inc (outcomeLabel stored) h.counters rfl fun l => ?_
    cases stored <;> by_cases hl : l = "ok" <;> by_cases hf : l = "failed" <;>
      simp_all [World.tally, outcomeLabel]
  · simp [hw] at hopen hu ⊢
    omega
  · simp [hw] at hshut hd ⊢
    omega

theorem Inv.mark {i : Nat} {s : Sent} {stored : Bool} {q : WorkQueue} (h : Inv ws m₀ w)
    (hs : w.sent[i]? = some s) (hc : s.callback = .counted stored) (hq : w.queue.done = .ok q) :
    Inv ws m₀ { w with sent := w.sent.set i { s with callback := .marked stored }, queue := q,
                       dones := w.dones + 1 } := by
  obtain ⟨hne, rfl⟩ := WorkQueue.done_ok hq
  have hnone := h.outcome?_eq_none hs (by simp [hc])
  have hok := countP_set_callback (fun s => s.callback.answer = some true) hs (.marked stored)
  have hfail := countP_set_callback (fun s => s.callback.answer = some false) hs (.marked stored)
  -- the callback's item moves from unfinished to marked
  have hopen := countP_set_callback (fun s => !s.callback.isMarked) hs (.marked stored)
  have hshut := countP_set_callback (fun s => s.callback.isMarked) hs (.marked stored)
  have hu := h.unfinished
  have hd := h.dones
  have hp := h.published
  have hf := h.failed
  refine
    { h with
      sent := (data_set_callback hs _).trans h.sent
      published := ?_
      failed := ?_
      unfinished := ?_
      dones := ?_
      settled := settled_of_outcome?_eq_none rfl hnone }
  · simp [hc] at hok hp ⊢
    omega
  · simp [hc] at hfail hf ⊢
    omega
  · simp [hc] at hopen hu ⊢
    omega
  · simp [hc] at hshut hd ⊢
    omega

theorem Inv.release {i : Nat} {s : Sent} {stored : Bool} (h : Inv ws m₀ w)
    (hs : w.sent[i]? = some s) (hc : s.callback = .marked stored) :
    Inv ws m₀ { w with sent := w.sent.set i { s with callback := .returned stored } } := by
  have hnone := h.outcome?_eq_none hs (by simp [hc])
  have hok := countP_set_callback (fun s => s.callback.answer = some true) hs (.returned stored)
  have hfail := countP_set_callback (fun s => s.callback.answer = some false) hs (.returned stored)
  have hopen := countP_set_callback (fun s => !s.callback.isMarked) hs (.returned stored)
  have hshut := countP_set_callback (fun s => s.callback.isMarked) hs (.returned stored)
  have hu := h.unfinished
  have hd := h.dones
  have hp := h.published
  have hf := h.failed
  refine
    { h with
      sent := (data_set_callback hs _).trans h.sent
      published := ?_
      failed := ?_
      unfinished := ?_
      dones := ?_
      settled := settled_of_outcome?_eq_none rfl hnone }
  · simp [hc] at hok hp ⊢
    omega
  · simp [hc] at hfail hf ⊢
    omega
  · simp [hc] at hopen hu ⊢
    omega
  · simp [hc] at hshut hd ⊢
    omega

/-- The step lemma: every step keeps the invariant. -/
theorem Inv.step {w' : World} (h : Inv ws m₀ w) (hs : Step w w') : Inv ws m₀ w' := by
  cases hs with
  | put ht hq => exact h.put ht hq
  | cancel => exact h.cancel
  | take hp hq => exact h.take hp hq
  | getFailed hp => exact h.getFailed hp
  | skip hp he hq => exact h.skip hp he hq
  | produce hp he => exact h.produce hp he
  | flush hp => exact h.flush hp
  | finish hp hr hq => exact h.finish hp hr hq
  | drained hp hr => exact h.drained hp hr
  | answer hs hw => exact h.answer hs hw
  | mark hs hc hq => exact h.mark hs hc hq
  | release hs hc => exact h.release hs hc

/-- The worlds a run reaches from the start of `ws` with the given capacity, counters and
context. -/
def Reachable (ws : List WorkItem) (capacity : Int) (counters : CounterFamily) (cancelled : Bool) :
    World → Prop :=
  Relation.ReflTransGen Step (World.init ws capacity counters cancelled)

/-- The invariant holds along every run. -/
theorem Inv.reachable {capacity : Int} {cancelled : Bool}
    (h : Reachable ws capacity m₀ cancelled w) : Inv ws m₀ w := by
  induction h with
  | refl => exact init_inv ws capacity m₀ cancelled
  | tail _ hs ih => exact ih.step hs

/-! ## Every run ends

Each step lowers a weight: a put moves an item from the producer into the queue, a take moves it
from the queue into the publisher's hands, the publisher's phase only moves on, and each record's
callback passes its three stages once. -/

/-- How many moves of the publisher a phase is from its end, weighted so that taking an item
from the queue, and handing it to the broker with a fresh callback, both lower the weight. -/
def Phase.weight : Phase → Nat
  | .getting => 3
  | .holding _ => 8
  | .flushed _ => 2
  | .draining => 1
  | .returned _ _ | .interrupted _ _ => 0

/-- The weight of a world. -/
def World.weight (w : World) : Nat :=
  10 * w.toPut.length + 9 * w.queue.items.length + w.phase.weight +
    w.sent.countP (fun s => s.callback.answer.isNone) +
    w.sent.countP (fun s => !s.callback.isMarked) +
    w.sent.countP (fun s => !s.callback.isReturned) + (if w.cancelled then 0 else 1)

/-- A callback's move lowers the weight of the records by one. -/
theorem weight_set_callback {l : List Sent} {i : Nat} {s : Sent} (hs : l[i]? = some s)
    (c : Callback) (hstep : (if s.callback.answer.isNone then 1 else 0) +
        (if !s.callback.isMarked then 1 else 0) + (if !s.callback.isReturned then 1 else 0) =
      (if c.answer.isNone then 1 else 0) + (if !c.isMarked then 1 else 0) +
        (if !c.isReturned then 1 else 0) + 1) :
    (l.set i { s with callback := c }).countP (fun s => s.callback.answer.isNone) +
        (l.set i { s with callback := c }).countP (fun s => !s.callback.isMarked) +
        (l.set i { s with callback := c }).countP (fun s => !s.callback.isReturned) + 1 =
      l.countP (fun s => s.callback.answer.isNone) + l.countP (fun s => !s.callback.isMarked) +
        l.countP (fun s => !s.callback.isReturned) := by
  have ha := countP_set_callback (fun s => s.callback.answer.isNone) hs c
  have hm := countP_set_callback (fun s => !s.callback.isMarked) hs c
  have hr := countP_set_callback (fun s => !s.callback.isReturned) hs c
  simp only at ha hm hr
  omega

/-- Every step lowers the weight. -/
theorem Step.weight_lt {w w' : World} (hs : Step w w') : w'.weight < w.weight := by
  cases hs with
  | put ht hq =>
    rw [WorkQueue.put_ok hq]
    simp [World.weight, ht]
    omega
  | cancel hc => simp [World.weight, hc]
  | take hp hq =>
    obtain ⟨rest, hitems, rfl⟩ := WorkQueue.get_ok hq
    simp [World.weight, hp, hitems, Phase.weight]
    omega
  | getFailed hp => simp [World.weight, hp, Phase.weight]
  | skip hp he hq =>
    obtain ⟨-, rfl⟩ := WorkQueue.done_ok hq
    simp [World.weight, hp, Phase.weight]
  | produce hp he =>
    simp [World.weight, hp, Phase.weight]
    omega
  | flush hp => simp [World.weight, hp, Phase.weight]
  | finish hp hr hq =>
    obtain ⟨-, rfl⟩ := WorkQueue.done_ok hq
    simp [World.weight, hp, Phase.weight]
  | drained hp hr => simp [World.weight, hp, Phase.weight]
  | @answer i s stored hs hw =>
    have := weight_set_callback hs (.counted stored) (by simp [hw])
    simp only [World.weight]
    omega
  | @mark i s stored q hs hc hq =>
    obtain ⟨-, rfl⟩ := WorkQueue.done_ok hq
    have := weight_set_callback hs (.marked stored) (by simp [hc])
    simp only [World.weight]
    omega
  | @release i s stored hs hc =>
    have := weight_set_callback hs (.returned stored) (by simp [hc])
    simp only [World.weight]
    omega

/-- There is no endless run: whatever the producer, the broker and the context do, a run stops
after finitely many steps. -/
theorem step_wellFounded : WellFounded (fun w' w : World => Step w w') :=
  Subrelation.wf (fun {_ _} hs => Step.weight_lt hs) (measure World.weight).wf

/-! ## A run stops only once the publisher has returned -/

/-- A callback that has not returned can move on: the broker can answer it, it can mark its item
finished (which is still unfinished), or it can return. -/
theorem Inv.callback_can_step {s : Sent} (h : Inv ws m₀ w) (hs : s ∈ w.sent)
    (hr : s.callback.isReturned = false) : ∃ w', Step w w' := by
  obtain ⟨i, hi⟩ := List.mem_iff_getElem?.mp hs
  cases hc : s.callback with
  | waiting => exact ⟨_, @Step.answer w i s true hi hc⟩
  | counted stored =>
    have hpos : 0 < w.sent.countP (fun s => !s.callback.isMarked) :=
      List.countP_pos_iff.mpr ⟨s, hs, by simp [hc]⟩
    have hne : w.queue.unfinished ≠ 0 := by
      have := h.unfinished
      omega
    exact ⟨_, Step.mark hi hc (WorkQueue.done_of_ne hne)⟩
  | marked stored => exact ⟨_, Step.release hi hc⟩
  | returned stored => simp [hc] at hr

/-- The progress lemma: in a world of a run where no step is possible, the publisher has
returned, at the shutdown marker or after its wait was cancelled. -/
theorem Inv.progress (h : Inv ws m₀ w) (hstuck : ∀ w', ¬ Step w w') :
    (∃ r e, w.phase = .returned r e) ∨ ∃ r e, w.phase = .interrupted r e := by
  have hall : ∀ s ∈ w.sent, s.callback.isReturned = true := by
    intro s hs
    cases hr : s.callback.isReturned with
    | true => rfl
    | false =>
      obtain ⟨w', hw'⟩ := h.callback_can_step hs hr
      exact absurd hw' (hstuck w')
  have hu := h.unfinished
  cases hp : w.phase with
  | getting =>
    exfalso
    cases hq : w.queue.items with
    | cons item rest => exact hstuck _ (Step.take hp (WorkQueue.get_cons hq))
    | nil =>
      cases hc : w.cancelled with
      | false => exact hstuck _ (Step.cancel hc)
      | true => exact hstuck _ (Step.getFailed hp hq hc)
  | holding item =>
    exfalso
    cases item with
    | work item =>
      -- the item held is still unfinished, so skipping it can mark it finished
      have hne : w.queue.unfinished ≠ 0 := by
        rw [hp] at hu
        simp only [Phase.held, List.length_singleton] at hu
        omega
      cases he : Ticket.encode item with
      | error e => exact hstuck _ (Step.skip hp he (WorkQueue.done_of_ne hne))
      | ok data => exact hstuck _ (Step.produce hp he)
    | shutdown => exact hstuck _ (@Step.flush w false hp (by simp))
  | flushed err =>
    exfalso
    -- the shutdown marker is still unfinished
    have hne : w.queue.unfinished ≠ 0 := by
      rw [hp] at hu
      simp only [Phase.isFlushed, if_true] at hu
      omega
    exact hstuck _ (Step.finish hp hall (WorkQueue.done_of_ne hne))
  | draining => exact absurd (Step.drained hp hall) (hstuck _)
  | returned r e => exact .inl ⟨r, e, rfl⟩
  | interrupted r e => exact .inr ⟨r, e, rfl⟩

/-! ## What the publisher returns -/

/-- Once every callback has returned, every record is answered and marked. -/
theorem answered_of_returned {l : List Sent} (hall : ∀ s ∈ l, s.callback.isReturned = true) :
    l.countP (fun s => s.callback.answer = some true) +
        l.countP (fun s => s.callback.answer = some false) = l.length ∧
      l.countP (fun s => s.callback.isMarked) = l.length := by
  have hret : ∀ s ∈ l, ∃ b, s.callback = .returned b := by
    intro s hs
    have := hall s hs
    cases hc : s.callback <;> simp_all
  constructor
  · rw [List.length_eq_countP_add_countP (fun s => s.callback.answer = some true)]
    congr 1
    refine List.countP_congr fun s hs => ?_
    obtain ⟨b, hb⟩ := hret s hs
    cases b <;> simp [hb]
  · refine List.countP_eq_length.mpr fun s hs => ?_
    obtain ⟨b, hb⟩ := hret s hs
    simp [hb]

/-- Once every callback has returned, the publisher's counts add up to the work it handled. -/
theorem Inv.counts_of_returned (h : Inv ws m₀ w)
    (hall : ∀ s ∈ w.sent, s.callback.isReturned = true) :
    w.published + w.failed + w.skipped = (workOf w.handled).length := by
  have hsent : w.sent.length = ((workOf w.handled).filterMap encoded).length := by
    rw [← h.sent, List.length_map]
  have hsum := length_filterMap_add_countP_isNone encoded (workOf w.handled)
  rw [h.published, h.failed, h.skipped, (answered_of_returned hall).1]
  omega

/-- Once every callback has returned, the items marked finished are the work handled, and the
shutdown marker once the publisher has returned at it. -/
theorem Inv.dones_of_returned (h : Inv ws m₀ w)
    (hall : ∀ s ∈ w.sent, s.callback.isReturned = true) :
    w.dones = w.published + w.failed + w.skipped + (if w.phase.isReturned then 1 else 0) := by
  have hmarked := (answered_of_returned hall).2
  have hanswered := (answered_of_returned hall).1
  rw [h.dones, hmarked, h.published, h.failed]
  omega

/-- The counter of each outcome stands at its start plus the publisher's count of it. -/
theorem Inv.outcome_counters (h : Inv ws m₀ w) :
    w.counters.count ["ok"] = m₀.count ["ok"] + w.published ∧
      w.counters.count ["failed"] = m₀.count ["failed"] + w.failed ∧
      w.counters.count ["skipped"] = m₀.count ["skipped"] + w.skipped := by
  refine ⟨?_, ?_, ?_⟩ <;> simp [h.counters, World.tally]

/-- At the shutdown marker the publisher has handled every item of the run. -/
theorem Inv.handled_of_returned {r : PublishResult} {e : Option String} (h : Inv ws m₀ w)
    (hp : w.phase = .returned r e) : w.handled = content ws := by
  have hs : QueueItem.shutdown ∈ w.handled := h.shutdown.mpr (by simp [hp, Phase.isReturned])
  exact (h.all_handled hs).1

/-- Before the shutdown marker, the publisher has handled a prefix of the work. -/
theorem Inv.handled_take (h : Inv ws m₀ w) (hs : QueueItem.shutdown ∉ w.handled) :
    w.handled.length ≤ ws.length ∧ workOf w.handled = ws.take w.handled.length := by
  have hitems := h.items
  simp only [List.append_assoc] at hitems
  have hpre := eq_take_of_shutdown_not_mem hitems hs
  have hlen := congrArg List.length hpre
  rw [List.length_map, List.length_take] at hlen
  refine ⟨by omega, ?_⟩
  calc workOf w.handled = workOf ((ws.take w.handled.length).map .work) := congrArg workOf hpre
    _ = ws.take w.handled.length := workOf_map_work _

/-- A joined queue whose producer has put every item means the publisher has returned at the
shutdown marker: every item put, the marker included, was marked finished. -/
theorem Inv.returned_of_joined (h : Inv ws m₀ w) (ht : w.toPut = [])
    (hj : w.queue.join = .ok ()) : ∃ r e, w.phase = .returned r e := by
  have hzero : w.queue.unfinished = 0 := by
    unfold WorkQueue.join at hj
    split at hj
    · assumption
    · cases hj
  have hu := h.unfinished
  rw [hzero] at hu
  have hq : w.queue.items = [] := List.length_eq_zero_iff.mp (by omega)
  have hheld : w.phase.held = [] := List.length_eq_zero_iff.mp (by omega)
  have hflushed : w.phase.isFlushed = false := by
    cases hf : w.phase.isFlushed
    · rfl
    · rw [hf] at hu
      simp at hu
  have hall : w.handled = content ws := by
    simpa [hq, hheld, ht] using h.items
  have hs := h.shutdown.mp (by rw [hall]; simp [content])
  rw [hflushed, Bool.false_or] at hs
  cases hp : w.phase with
  | returned r e => exact ⟨r, e, rfl⟩
  | _ => simp [hp, Phase.isReturned] at hs

/-- What the publisher returns at the shutdown marker: it has skipped the work that cannot be
written as a ticket, handed the broker the tickets of all other work in order, and marked every
item finished once, the marker included. -/
theorem Inv.returned_result {r : PublishResult} {e : Option String} (h : Inv ws m₀ w)
    (hp : w.phase = .returned r e) :
    r.skipped = ws.countP (fun i => (encoded i).isNone) ∧
      r.published + r.failed + r.skipped = ws.length ∧
      w.sent.map (·.data) = ws.filterMap encoded ∧
      w.dones = ws.length + 1 := by
  obtain ⟨rfl, hall⟩ := h.settled r (by simp [hp, Phase.outcome?])
  have hhandled := h.handled_of_returned hp
  have hcounts := h.counts_of_returned hall
  have hdones := h.dones_of_returned hall
  rw [hhandled, workOf_content] at hcounts
  refine ⟨?_, hcounts, ?_, ?_⟩
  · simpa [World.result, hhandled] using h.skipped
  · simpa [hhandled] using h.sent
  · simp only [hp, Phase.isReturned, if_true] at hdones
    omega

/-- What the publisher returns when its wait for an item is cancelled: the cancellation, and the
counts of the first `k` work items, each of which it has marked finished once. -/
theorem Inv.interrupted_result {r : PublishResult} {e : String} (h : Inv ws m₀ w)
    (hp : w.phase = .interrupted r e) :
    e = cancelError ∧ ∃ k ≤ ws.length, workOf w.handled = ws.take k ∧
      r.skipped = (ws.take k).countP (fun i => (encoded i).isNone) ∧
      r.published + r.failed + r.skipped = k ∧
      w.sent.map (·.data) = (ws.take k).filterMap encoded ∧
      w.dones = k := by
  obtain ⟨rfl, hall⟩ := h.settled r (by simp [hp, Phase.outcome?])
  have hs : QueueItem.shutdown ∉ w.handled := by
    rw [h.shutdown, hp]
    simp [Phase.isFlushed, Phase.isReturned]
  obtain ⟨hk, htake⟩ := h.handled_take hs
  have hcounts := h.counts_of_returned hall
  have hdones := h.dones_of_returned hall
  have hlen : (workOf w.handled).length = w.handled.length := by
    rw [htake, List.length_take]
    omega
  refine ⟨h.interrupted _ _ hp, w.handled.length, hk, htake, ?_, hcounts.trans hlen, ?_, ?_⟩
  · rw [← htake]
    exact h.skipped
  · rw [← htake]
    exact h.sent
  · simp only [hp, Phase.isReturned, Bool.false_eq_true, if_false] at hdones
    omega

/-! ## Publisher accounting -/

/-- Publisher accounting, over every run from the start of `ws` with the given capacity,
counters and context, whatever the producer, the broker's answers and the context do.

* No run is endless, and a run stops only once the publisher has returned.
* At the shutdown marker the publisher returns the counts of the broker's answers and of the work
  that cannot be written as a ticket, which add up to the work; it has handed the broker the
  tickets of all other work, in queue order; every callback has returned; each outcome's counter
  has risen by the publisher's count of it; and it has marked `ws.length + 1` items finished.
* Once the producer has put every item, the queue is joined only when the publisher has returned
  at the shutdown marker.
* When its wait for an item is cancelled, it returns the cancellation and the counts of the
  first `k` work items, once every callback has returned, with the counters risen by the counts
  and each of the `k` items marked finished once. -/
theorem publisher_run_accounting (ws : List WorkItem) (capacity : Int) (m₀ : CounterFamily)
    (cancelled : Bool) :
    WellFounded (fun w' w : World => Step w w') ∧
    (∀ w, Reachable ws capacity m₀ cancelled w → (∀ w', ¬ Step w w') →
      (∃ r e, w.phase = .returned r e) ∨ ∃ r e, w.phase = .interrupted r e) ∧
    (∀ w r e, Reachable ws capacity m₀ cancelled w → w.phase = .returned r e →
      r.skipped = ws.countP (fun i => (encoded i).isNone) ∧
      r.published = w.sent.countP (fun s => s.callback.answer = some true) ∧
      r.failed = w.sent.countP (fun s => s.callback.answer = some false) ∧
      r.published + r.failed + r.skipped = ws.length ∧
      w.sent.map (·.data) = ws.filterMap encoded ∧
      (∀ s ∈ w.sent, s.callback.isReturned = true) ∧
      w.counters.count ["ok"] = m₀.count ["ok"] + r.published ∧
      w.counters.count ["failed"] = m₀.count ["failed"] + r.failed ∧
      w.counters.count ["skipped"] = m₀.count ["skipped"] + r.skipped ∧
      w.dones = ws.length + 1) ∧
    (∀ w, Reachable ws capacity m₀ cancelled w → w.toPut = [] → w.queue.join = .ok () →
      ∃ r e, w.phase = .returned r e) ∧
    (∀ w r e, Reachable ws capacity m₀ cancelled w → w.phase = .interrupted r e →
      e = cancelError ∧
      (∀ s ∈ w.sent, s.callback.isReturned = true) ∧
      w.counters.count ["ok"] = m₀.count ["ok"] + r.published ∧
      w.counters.count ["failed"] = m₀.count ["failed"] + r.failed ∧
      w.counters.count ["skipped"] = m₀.count ["skipped"] + r.skipped ∧
      ∃ k ≤ ws.length,
        r.skipped = (ws.take k).countP (fun i => (encoded i).isNone) ∧
        r.published + r.failed + r.skipped = k ∧
        w.sent.map (·.data) = (ws.take k).filterMap encoded ∧
        w.dones = k) := by
  refine ⟨step_wellFounded, fun w hw hstuck => (Inv.reachable hw).progress hstuck,
    fun w r e hw hp => ?_, fun w hw ht hj => (Inv.reachable hw).returned_of_joined ht hj,
    fun w r e hw hp => ?_⟩
  · have h := Inv.reachable hw
    obtain ⟨rfl, hall⟩ := h.settled r (by simp [hp, Phase.outcome?])
    obtain ⟨hskip, hsum, hsent, hdones⟩ := h.returned_result hp
    exact ⟨hskip, h.published, h.failed, hsum, hsent, hall, h.outcome_counters.1,
      h.outcome_counters.2.1, h.outcome_counters.2.2, hdones⟩
  · have h := Inv.reachable hw
    obtain ⟨rfl, hall⟩ := h.settled r (by simp [hp, Phase.outcome?])
    obtain ⟨he, k, hk, -, hskip, hsum, hsent, hdones⟩ := h.interrupted_result hp
    exact ⟨he, hall, h.outcome_counters.1, h.outcome_counters.2.1, h.outcome_counters.2.2,
      k, hk, hskip, hsum, hsent, hdones⟩

/-- A run of one work item whose record the broker stores reaches the publisher's return at the
shutdown marker, with the item counted once and the `ok` counter risen by the published count. -/
theorem stored_ticket_run_returns :
    ∃ w r e, Reachable [{ tag := "A", testIds := some ["a"] }] 0 publishedCounters false w ∧
      w.phase = .returned r e ∧ r.published + r.failed + r.skipped = 1 ∧
      w.counters.count ["ok"] = publishedCounters.count ["ok"] + r.published := by
  obtain ⟨data, hdata⟩ : ∃ data, Ticket.encode { tag := "A", testIds := some ["a"] } = .ok data :=
    ⟨_, Ticket.encode_of_complete (.inr ⟨by decide, by decide⟩)⟩
  -- put the item and the marker, hand the item to the broker, which stores it, then flush
  have hrun : Reachable [{ tag := "A", testIds := some ["a"] }] 0 publishedCounters false _ :=
    .tail (.tail (.tail (.tail (.tail (.tail (.tail (.tail (.tail (.tail .refl
      (Step.put rfl rfl))
      (Step.put rfl rfl))
      (Step.take rfl rfl))
      (Step.produce rfl hdata))
      (@Step.answer _ 0 _ true rfl rfl))
      (@Step.mark _ 0 ⟨data, .counted true⟩ true _ rfl rfl rfl))
      (@Step.release _ 0 ⟨data, .marked true⟩ true rfl rfl))
      (Step.take rfl rfl))
      (@Step.flush _ false rfl (by simp)))
      (Step.finish rfl (by simp [World.init]) rfl)
  have h := (publisher_run_accounting _ 0 publishedCounters false).2.2.1 _ _ _ hrun rfl
  exact ⟨_, _, _, hrun, rfl, h.2.2.2.1, h.2.2.2.2.2.2.1⟩

end Dispatch

end TestDispatch
