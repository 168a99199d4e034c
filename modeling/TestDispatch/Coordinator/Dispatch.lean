import TestDispatch.Coordinator.Session
import TestDispatch.WorkQueue
/-!
# Dispatch through the work queue, step by step

Once its plan is built, a session resets the work topic and dispatches the work items through
the work queue, which two threads share.

* The coordinator resets the topic and starts the publisher. It puts the items on the queue one
  by one, and stops early when its context is cancelled or the publisher has returned. It then
  puts the shutdown marker, waits until every item put is finished or the publisher has
  returned, and collects the publisher's result.
* The publisher takes the items in order and handles each, marking it finished. At the shutdown
  marker it marks that finished too and returns.

A put waits while a bounded queue is full; it gives up when its context ends meanwhile. When the
session's context is cancelled while the coordinator waits for the queue, the coordinator waits
on for a grace period and then cancels the publisher's context; a publisher whose wait for an
item is cancelled returns at once.

The session is interrupted (`context canceled`) when its context is cancelled by the end of the
enqueue loop or during the wait for the queue. Otherwise it ends with the publisher's error
(`publish: ...`), or with `incomplete dispatch: ...` when not every item put was published.

`Step` is one move of either thread, of the context or of the grace timer. The runs of a session
are the sequences of steps from `World.init`.
-/

namespace TestDispatch.Coordinator

/-- A publisher that drains the queue in order. It handles each work item it takes and marks it
finished; at the shutdown marker it marks that finished too and returns. When its context is
cancelled while it waits for an item, it returns at once. `σ` is what it keeps between items. -/
structure Drainer (σ : Type) where
  /-- What it keeps before the first item. -/
  start : σ
  /-- Handles one work item. -/
  work : σ → WorkItem → σ
  /-- What it returns at the shutdown marker: its result and its error. -/
  finish : σ → PublishResult × Option String
  /-- What it returns when its wait for an item is cancelled. -/
  abort : σ → PublishResult × Option String

/-- The publisher onto a topic kept in memory. It publishes each item it takes, and returns what
it published, with the error the topic reports once the queue is shut down. -/
def MemoryTopic.drainer (t : MemoryTopic) : Drainer (MemoryTopic × PublishResult) where
  start := (t, {})
  work := fun (t, r) item => t.publish r item
  finish := fun (t, r) => (r, t.closingError)
  abort := fun (_, r) => (r, some "publisher: context canceled")

/-- Where the publisher is. -/
inductive PubThread (σ : Type) where
  /-- Not started. -/
  | idle
  /-- Waiting for the next item. -/
  | waiting (s : σ)
  /-- Handling an item it took. -/
  | holding (s : σ) (item : QueueItem)
  /-- Returned: what it kept at the end, and its result and its error. -/
  | returned (s : σ) (out : PublishResult × Option String)

/-- Whether the publisher has returned. -/
def PubThread.isReturned {σ : Type} : PubThread σ → Bool
  | .returned _ _ => true
  | _ => false

/-- Where the coordinator is. -/
inductive Phase where
  /-- About to reset the topic, and then to put the given items. -/
  | reset (items : List WorkItem)
  /-- At the top of the enqueue loop, with the items left. -/
  | enqueue (rest : List WorkItem)
  /-- Putting an item, waiting while the queue is full. -/
  | put (item : WorkItem) (rest : List WorkItem)
  /-- Out of the enqueue loop, about to see whether the context is cancelled. -/
  | enqueued
  /-- Putting the shutdown marker, waiting while the queue is full. -/
  | shutdown
  /-- Waiting until every item put is finished, or the context is cancelled. -/
  | join
  /-- Interrupted while waiting: waiting on, for at most the grace period. -/
  | grace
  /-- The grace period is over and the publisher's context cancelled: waiting on. -/
  | drain
  /-- Waiting for the publisher's result. -/
  | collect
  /-- Returned, with its error if any. -/
  | finished (err : Option SessionError)
  deriving DecidableEq, Repr

/-- What the coordinator asks of the others. -/
inductive Call where
  /-- Resets the work topic. -/
  | reset
  /-- Starts the publisher. -/
  | start
  /-- Puts an item on the queue. -/
  | put (item : QueueItem)
  deriving DecidableEq, Repr

/-- Both threads, the queue between them, and the two contexts. -/
structure World (σ : Type) where
  phase : Phase
  queue : WorkQueue
  pub : PubThread σ
  /-- Whether the session's context is cancelled. -/
  cancelled : Bool
  /-- Whether the publisher's context is cancelled. -/
  pubCancelled : Bool := false
  /-- The number of items put. -/
  items : Nat := 0
  interrupted : Bool := false
  /-- The publisher's result, once collected. -/
  dispatch : PublishResult := {}
  /-- The coordinator's calls, in order. -/
  calls : List Call := []

/-- The error a session ends with, given whether it was interrupted, the number of items it put
and what the publisher returned. -/
def outcome (interrupted : Bool) (items : Nat) (r : PublishResult) (err : Option String) :
    Option SessionError :=
  if interrupted then some .cancelled
  else
    match err with
    | some m => some (.publish m)
    | none =>
      if !r.complete || r.published ≠ items then some (.incomplete r.published items) else none

namespace World

variable {σ : Type}

/-- A session about to reset the topic and dispatch `items` through a queue of the given
capacity, its context cancelled from the start when `cancelled`. -/
def init (items : List WorkItem) (capacity : Int) (cancelled : Bool) : World σ :=
  { phase := .reset items, queue := WorkQueue.create capacity, pub := .idle, cancelled }

/-- Whether the enqueue loop's context is done: the session's is, or the publisher has
returned. -/
def enqueueDone (w : World σ) : Bool := w.cancelled || w.pub.isReturned

/-- Whether the wait for the queue is over: every item put is finished, or the publisher has
returned. -/
def joined (w : World σ) : Bool := decide (w.queue.unfinished = 0) || w.pub.isReturned

end World

/-- One step of a session: the coordinator's, the publisher's, the context's or the grace
timer's. `admin` is what resetting the topic answers, `p` the publisher. -/
inductive Step {σ : Type} (admin : Option ResetFailure) (p : Drainer σ) :
    World σ → World σ → Prop where
  /-- The reset fails, and the session ends. -/
  | resetFailed {w : World σ} {items : List WorkItem} {f : ResetFailure}
      (hp : w.phase = .reset items) (ha : admin = some f) :
      Step admin p w { w with phase := .finished (some (.reset f)), calls := w.calls ++ [.reset] }
  /-- The reset succeeds, and the publisher starts. -/
  | resetDone {w : World σ} {items : List WorkItem} (hp : w.phase = .reset items)
      (ha : admin = none) :
      Step admin p w
        { w with phase := .enqueue items, pub := .waiting p.start,
                 calls := w.calls ++ [.reset, .start] }
  /-- The enqueue loop has put every item. -/
  | loopEnd {w : World σ} (hp : w.phase = .enqueue []) : Step admin p w { w with phase := .enqueued }
  /-- The enqueue loop stops early: its context is done. -/
  | loopStop {w : World σ} {item : WorkItem} {rest : List WorkItem}
      (hp : w.phase = .enqueue (item :: rest)) (hd : w.enqueueDone = true) :
      Step admin p w { w with phase := .enqueued }
  /-- The enqueue loop goes on to put the next item. -/
  | loopNext {w : World σ} {item : WorkItem} {rest : List WorkItem}
      (hp : w.phase = .enqueue (item :: rest)) (hd : w.enqueueDone = false) :
      Step admin p w { w with phase := .put item rest }
  /-- The item goes on the queue. -/
  | put {w : World σ} {item : WorkItem} {rest : List WorkItem} {q : WorkQueue}
      (hp : w.phase = .put item rest) (hq : w.queue.put (some (.work item)) = .ok q) :
      Step admin p w
        { w with phase := .enqueue rest, queue := q, items := w.items + 1,
                 calls := w.calls ++ [.put (.work item)] }
  /-- The put fails: the queue is closed, or it is full and the loop's context is done. The
  loop stops. -/
  | putFailed {w : World σ} {item : WorkItem} {rest : List WorkItem} {e : QueueError}
      (hp : w.phase = .put item rest) (hq : w.queue.put (some (.work item)) = .error e)
      (hd : e = .wouldBlock → w.enqueueDone = true) :
      Step admin p w { w with phase := .enqueued }
  /-- Out of the loop, the session is interrupted when its context is cancelled. -/
  | enqueued {w : World σ} (hp : w.phase = .enqueued) :
      Step admin p w { w with phase := .shutdown, interrupted := w.cancelled }
  /-- The shutdown marker goes on the queue. -/
  | shutdown {w : World σ} {q : WorkQueue} (hp : w.phase = .shutdown)
      (hq : w.queue.put (some .shutdown) = .ok q) :
      Step admin p w { w with phase := .join, queue := q, calls := w.calls ++ [.put .shutdown] }
  /-- The shutdown put fails: the queue is closed, or it is full and the publisher has
  returned. -/
  | shutdownFailed {w : World σ} {e : QueueError} (hp : w.phase = .shutdown)
      (hq : w.queue.put (some .shutdown) = .error e) (hd : e = .wouldBlock → w.pub.isReturned = true) :
      Step admin p w { w with phase := .join }
  /-- The wait for the queue is over. -/
  | joined {w : World σ} (hp : w.phase = .join ∨ w.phase = .grace ∨ w.phase = .drain)
      (hj : w.joined = true) :
      Step admin p w { w with phase := .collect }
  /-- The context is cancelled during the wait for the queue. -/
  | interrupt {w : World σ} (hp : w.phase = .join) (hc : w.cancelled = true) :
      Step admin p w { w with phase := .grace, interrupted := true }
  /-- The grace period ends, and the publisher's context is cancelled. -/
  | graceOver {w : World σ} (hp : w.phase = .grace) :
      Step admin p w { w with phase := .drain, pubCancelled := true }
  /-- The publisher's result is in, and the session ends. -/
  | collect {w : World σ} {s : σ} {r : PublishResult} {e : Option String}
      (hp : w.phase = .collect) (hr : w.pub = .returned s (r, e)) :
      Step admin p w { w with phase := .finished (outcome w.interrupted w.items r e), dispatch := r }
  /-- The publisher takes the next item. -/
  | take {w : World σ} {s : σ} {item : QueueItem} {q : WorkQueue} (hs : w.pub = .waiting s)
      (hq : w.queue.get = .ok (item, q)) :
      Step admin p w { w with pub := .holding s item, queue := q }
  /-- The publisher's wait for an item is cancelled, and it returns. -/
  | abort {w : World σ} {s : σ} (hs : w.pub = .waiting s) (he : w.queue.items = [])
      (hc : w.pubCancelled = true) :
      Step admin p w { w with pub := .returned s (p.abort s) }
  /-- The publisher handles a work item and marks it finished. -/
  | handle {w : World σ} {s : σ} {item : WorkItem} {q : WorkQueue}
      (hs : w.pub = .holding s (.work item)) (hq : w.queue.done = .ok q) :
      Step admin p w { w with pub := .waiting (p.work s item), queue := q }
  /-- The publisher marks the shutdown marker finished and returns. -/
  | finish {w : World σ} {s : σ} {q : WorkQueue} (hs : w.pub = .holding s .shutdown)
      (hq : w.queue.done = .ok q) :
      Step admin p w { w with pub := .returned s (p.finish s), queue := q }
  /-- The session's context is cancelled. -/
  | cancel {w : World σ} (hc : w.cancelled = false) (hp : ∀ err, w.phase ≠ .finished err) :
      Step admin p w { w with cancelled := true }

end TestDispatch.Coordinator
