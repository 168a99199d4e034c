import TestDispatch.WorkItem
/-!
# The work queue

A FIFO queue of work items between the planner and the publisher, closed by a shutdown item.
It counts unfinished items: every successful put adds one, every `done` takes one away, and
`join` succeeds once the count is zero.

The operations here never wait. Where the queue would make its caller wait (a put on a full
bounded queue, a get on an empty queue, a join with unfinished items) the operation fails with
`wouldBlock`; a caller whose wait has been cancelled reports its cancellation instead.

* A put of a missing item fails with `missingItem`, and a put after a shutdown item with
  `closed`; a put of a shutdown item closes the queue.
* `done` with nothing unfinished is a programming error, `overDone`, and changes nothing.
-/

namespace TestDispatch

/-- What the queue holds: work, or the shutdown marker that ends it. -/
inductive QueueItem where
  | work (item : WorkItem)
  | shutdown
  deriving DecidableEq, Repr, Inhabited

/-- Why a queue operation did not happen. -/
inductive QueueError where
  /-- The queue was closed by a shutdown item. -/
  | closed
  /-- No item was given. -/
  | missingItem
  /-- The operation would have to wait. -/
  | wouldBlock
  /-- `done` was called more often than items were put. -/
  | overDone
  deriving DecidableEq, Repr, Inhabited

/-- The words of a queue error. -/
def QueueError.message : QueueError → String
  | .closed => "workqueue: closed"
  | .missingItem => "workqueue: nil item"
  | .wouldBlock => "context canceled"
  | .overDone => "workqueue: Done called more times than items were put"

/-- A work queue. A capacity of zero or less means no bound. -/
structure WorkQueue where
  capacity : Int := 0
  items : List QueueItem := []
  unfinished : Nat := 0
  closed : Bool := false
  deriving DecidableEq, Repr, Inhabited

namespace WorkQueue

/-- An empty queue with the given capacity. -/
def create (capacity : Int) : WorkQueue := { capacity }

/-- Whether one more item fits. -/
def hasRoom (q : WorkQueue) : Bool := q.capacity ≤ 0 || (q.items.length : Int) < q.capacity

/-- Puts an item at the back. -/
def put (q : WorkQueue) : Option QueueItem → Except QueueError WorkQueue
  | none => .error .missingItem
  | some item =>
    if q.closed then .error .closed
    else if q.hasRoom then
      .ok { q with items := q.items ++ [item], unfinished := q.unfinished + 1,
                   closed := item = .shutdown }
    else .error .wouldBlock

/-- Takes the item at the front. -/
def get (q : WorkQueue) : Except QueueError (QueueItem × WorkQueue) :=
  match q.items with
  | item :: rest => .ok (item, { q with items := rest })
  | [] => .error .wouldBlock

/-- Marks one item finished. -/
def done (q : WorkQueue) : Except QueueError WorkQueue :=
  if q.unfinished = 0 then .error .overDone
  else .ok { q with unfinished := q.unfinished - 1 }

/-- Succeeds when every item put has been marked finished. -/
def join (q : WorkQueue) : Except QueueError Unit :=
  if q.unfinished = 0 then .ok () else .error .wouldBlock

/-- The number of waiting items. -/
def length (q : WorkQueue) : Nat := q.items.length

end WorkQueue

end TestDispatch
