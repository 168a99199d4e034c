import TestDispatch.Coordinator.Session
import TestDispatch.WorkQueue
import TestDispatch.Metrics.Counter
/-!
# The publisher, step by step

The publisher drains the work queue onto the work topic. It takes the items in order.

* A work item that cannot be written as a ticket is skipped: counted as skipped and marked
  finished at once.
* Any other work item is handed to the broker as a record, with a callback, and the publisher
  goes on without waiting. The broker calls each callback once, when the record is stored or
  refused. The callback counts the answer as published or failed, marks the item finished, and
  returns.
* At the shutdown marker the publisher flushes the broker, waits until every callback has
  returned, marks the marker finished and returns what it counted, with the flush's error if
  the flush was cut short by the context (`publisher flush: context canceled`).
* When its wait for an item is cancelled, it waits until every callback has returned and
  returns what it counted so far, with `publisher: context canceled`.

Every outcome is also counted in `testfleet_tickets_published_total`, by the label `result`:
`ok`, `failed` or `skipped`.

`Step` is one move of the publisher, of a callback, of the producer that puts the items, or of
the context. A callback is three moves, in the order of its body: it counts the broker's answer,
marks the item finished, and returns. The runs of the publisher are the sequences of steps from
`World.init`. A world also notes the items the publisher has handled and how often it marked an
item finished, which the code does not keep.
-/

namespace TestDispatch.Dispatch

open Coordinator (PublishResult)

/-- The published-tickets counters, by outcome. -/
def publishedCounters : CounterFamily :=
  { name := "testfleet_tickets_published_total",
    help := "Tickets handed to the broker, by outcome (ok, failed, skipped).",
    labels := ["result"] }

/-- The counter label of the broker's answer: `ok` when it stored the record. -/
def outcomeLabel (stored : Bool) : String := if stored then "ok" else "failed"

/-- The error returned when the flush at the shutdown marker is cut short by the context. -/
def flushError : String := "publisher flush: context canceled"

/-- The error returned when the wait for an item is cancelled. -/
def cancelError : String := "publisher: context canceled"

/-- How far the callback of a record has got. -/
inductive Callback where
  /-- Not yet called by the broker. -/
  | waiting
  /-- Called with the broker's answer, `true` when the record was stored, and the answer
  counted. -/
  | counted (stored : Bool)
  /-- Its item marked finished too. -/
  | marked (stored : Bool)
  /-- Returned. -/
  | returned (stored : Bool)
  deriving DecidableEq, Repr, Inhabited

namespace Callback

/-- The broker's answer, once it called the callback. -/
def answer : Callback → Option Bool
  | .waiting => none
  | .counted stored | .marked stored | .returned stored => some stored

/-- Whether the callback has marked its item finished. -/
def isMarked : Callback → Bool
  | .marked _ | .returned _ => true
  | _ => false

/-- Whether the callback has returned. -/
def isReturned : Callback → Bool
  | .returned _ => true
  | _ => false

end Callback

/-- A record handed to the broker: the ticket written, and how far its callback has got. -/
structure Sent where
  data : String
  callback : Callback
  deriving DecidableEq, Repr, Inhabited

/-- Where the publisher is. -/
inductive Phase where
  /-- Waiting for the next item. -/
  | getting
  /-- Handling the item it took. -/
  | holding (item : QueueItem)
  /-- Past the flush at the shutdown marker, with the error it will return: waiting for the
  callbacks. -/
  | flushed (err : Option String)
  /-- Its wait for an item was cancelled: waiting for the callbacks. -/
  | draining
  /-- Returned at the shutdown marker, with its result and its error. -/
  | returned (result : PublishResult) (err : Option String)
  /-- Returned after its wait for an item was cancelled, with its result and its error. -/
  | interrupted (result : PublishResult) (err : String)
  deriving DecidableEq, Repr

/-- The producer, the queue, the publisher and the records it handed to the broker. -/
structure World where
  /-- The items the producer has yet to put, in order. -/
  toPut : List QueueItem
  queue : WorkQueue
  /-- Whether the publisher's context is cancelled. -/
  cancelled : Bool
  phase : Phase := .getting
  published : Nat := 0
  failed : Nat := 0
  skipped : Nat := 0
  counters : CounterFamily
  /-- The records handed to the broker, in order. -/
  sent : List Sent := []
  /-- The items the publisher has handled, in order. -/
  handled : List QueueItem := []
  /-- How often an item was marked finished. -/
  dones : Nat := 0

/-- The items of a run: the work items in order, then the shutdown marker. -/
def content (ws : List WorkItem) : List QueueItem := ws.map .work ++ [.shutdown]

namespace World

/-- A run about to drain `ws` and then the shutdown marker, which the producer puts into a
queue of the given capacity, with the counters as they stand and the context cancelled from the
start when `cancelled`. -/
def init (ws : List WorkItem) (capacity : Int) (counters : CounterFamily) (cancelled : Bool) :
    World :=
  { toPut := content ws, queue := WorkQueue.create capacity, cancelled, counters }

/-- What the publisher has counted. -/
def result (w : World) : PublishResult := ⟨w.published, w.failed, w.skipped⟩

end World

/-- One step of a run. -/
inductive Step : World → World → Prop where
  /-- The producer puts its next item. -/
  | put {w : World} {item : QueueItem} {rest : List QueueItem} {q : WorkQueue}
      (ht : w.toPut = item :: rest) (hq : w.queue.put (some item) = .ok q) :
      Step w { w with toPut := rest, queue := q }
  /-- The context is cancelled. -/
  | cancel {w : World} (hc : w.cancelled = false) : Step w { w with cancelled := true }
  /-- The publisher takes the next item. -/
  | take {w : World} {item : QueueItem} {q : WorkQueue} (hp : w.phase = .getting)
      (hq : w.queue.get = .ok (item, q)) :
      Step w { w with phase := .holding item, queue := q }
  /-- The publisher's wait for an item is cancelled. -/
  | getFailed {w : World} (hp : w.phase = .getting) (he : w.queue.items = [])
      (hc : w.cancelled = true) :
      Step w { w with phase := .draining }
  /-- A work item that cannot be written as a ticket is skipped and marked finished. -/
  | skip {w : World} {item : WorkItem} {e : Ticket.TicketError} {q : WorkQueue}
      (hp : w.phase = .holding (.work item)) (he : Ticket.encode item = .error e)
      (hq : w.queue.done = .ok q) :
      Step w { w with phase := .getting, queue := q, skipped := w.skipped + 1,
                      counters := w.counters.inc ["skipped"], handled := w.handled ++ [.work item],
                      dones := w.dones + 1 }
  /-- Any other work item is handed to the broker, and the publisher goes on. -/
  | produce {w : World} {item : WorkItem} {data : String}
      (hp : w.phase = .holding (.work item)) (he : Ticket.encode item = .ok data) :
      Step w { w with phase := .getting, sent := w.sent ++ [⟨data, .waiting⟩],
                      handled := w.handled ++ [.work item] }
  /-- At the shutdown marker the publisher flushes the broker; the flush is cut short only when
  the context is cancelled. -/
  | flush {w : World} {cut : Bool} (hp : w.phase = .holding .shutdown)
      (hc : cut = true → w.cancelled = true) :
      Step w { w with phase := .flushed (if cut then some flushError else none),
                      handled := w.handled ++ [.shutdown] }
  /-- Once every callback has returned, the publisher marks the shutdown marker finished and
  returns what it counted. -/
  | finish {w : World} {err : Option String} {q : WorkQueue} (hp : w.phase = .flushed err)
      (hr : ∀ s ∈ w.sent, s.callback.isReturned = true) (hq : w.queue.done = .ok q) :
      Step w { w with phase := .returned w.result err, queue := q, dones := w.dones + 1 }
  /-- Once every callback has returned, a publisher whose wait was cancelled returns what it
  counted. -/
  | drained {w : World} (hp : w.phase = .draining)
      (hr : ∀ s ∈ w.sent, s.callback.isReturned = true) :
      Step w { w with phase := .interrupted w.result cancelError }
  /-- The broker calls the callback of record `i` with its answer, which the callback counts. -/
  | answer {w : World} {i : Nat} {s : Sent} {stored : Bool} (hs : w.sent[i]? = some s)
      (hw : s.callback = .waiting) :
      Step w { w with sent := w.sent.set i { s with callback := .counted stored },
                      published := if stored then w.published + 1 else w.published,
                      failed := if stored then w.failed else w.failed + 1,
                      counters := w.counters.inc [outcomeLabel stored] }
  /-- The callback of record `i` marks its item finished. -/
  | mark {w : World} {i : Nat} {s : Sent} {stored : Bool} {q : WorkQueue}
      (hs : w.sent[i]? = some s) (hc : s.callback = .counted stored) (hq : w.queue.done = .ok q) :
      Step w { w with sent := w.sent.set i { s with callback := .marked stored }, queue := q,
                      dones := w.dones + 1 }
  /-- The callback of record `i` returns. -/
  | release {w : World} {i : Nat} {s : Sent} {stored : Bool} (hs : w.sent[i]? = some s)
      (hc : s.callback = .marked stored) :
      Step w { w with sent := w.sent.set i { s with callback := .returned stored } }

end TestDispatch.Dispatch
