import TestDispatch.Ticket.Codec
import TestDispatch.Metrics.Counter
/-!
# The ticket consumer

A worker takes its tickets from one partition of the work topic, one record per poll, in offset
order, and processes each record:

* a record that is no ticket is dropped: counted as `invalid`, then committed;
* the stop message is counted as `stop`, committed, and ends the run without error;
* any other item is handed to the handler. When the handler succeeds the record is counted as
  `ok` and committed. When it fails the record is counted as `error` and left uncommitted, and
  the run ends with `handle ticket EX-1/net: ` followed by the handler's error; the group
  delivers an uncommitted record again to its next consumer.

The run looks at its context before every poll and again after it, and ends with the context's
error (`context canceled`, `context deadline exceeded`) as soon as a look finds it done. Once the
partition is drained, polls come back empty until then, so a run whose context never ends keeps
polling. Empty polls in between records only add looks at the context; a context is given here
by the first look that finds it done, whichever poll that look belongs to.
-/

namespace TestDispatch.Dispatch

/-- Why a context is done. -/
inductive ContextError where
  | canceled
  | deadlineExceeded
  deriving DecidableEq, Repr, Inhabited

/-- The words of a context error. -/
def ContextError.message : ContextError → String
  | .canceled => "context canceled"
  | .deadlineExceeded => "context deadline exceeded"

/-- A context as a loop sees it. The loop looks at it again and again; `doneAt` is the first
look, counted from zero, that finds it done, and a context that is done stays done. -/
structure Context where
  doneAt : Option Nat := none
  err : ContextError := .canceled
  deriving DecidableEq, Repr, Inhabited

/-- Whether the given look finds the context done. -/
def Context.isDone (ctx : Context) (look : Nat) : Bool :=
  match ctx.doneAt with
  | some n => decide (n ≤ look)
  | none => false

/-- A record of the work topic: its offset in the partition and its value. -/
structure Record where
  offset : Nat
  value : List UInt8
  deriving DecidableEq, Repr, Inhabited

/-- What others see a consumer do: hand an item to the handler, or commit a record. -/
inductive Event where
  | handle (item : WorkItem)
  | commit (offset : Nat)
  deriving DecidableEq, Repr, Inhabited

/-- A ticket handler. Given the items handed to it before, it answers what handling one more
item does: `none` when that succeeds, else the words of its error. -/
abbrev Handler := List WorkItem → WorkItem → Option String

/-- The counters of consumed tickets, none counted yet. -/
def consumedCounters : CounterFamily :=
  { name := "testfleet_tickets_consumed_total",
    help := "Tickets taken from the broker, by outcome (ok, invalid, stop, error).",
    labels := ["result"] }

/-- A consumer: what it has done, in order, and its counters. -/
structure Consumer where
  events : List Event := []
  consumed : CounterFamily := consumedCounters
  deriving DecidableEq, Repr, Inhabited

namespace Consumer

/-- The items handed to the handler, in order. -/
def handled (c : Consumer) : List WorkItem :=
  c.events.filterMap fun
    | .handle item => some item
    | .commit _ => none

/-- The consumer after one more event. -/
def emit (c : Consumer) (e : Event) : Consumer := { c with events := c.events ++ [e] }

/-- The consumer after it counted one more record with the given outcome. -/
def count (c : Consumer) (result : String) : Consumer :=
  { c with consumed := c.consumed.inc [result] }

end Consumer

/-- How processing a record ends: the run goes on, stops, or fails on the record's item. -/
inductive Processed where
  | next
  | stop
  | failed (item : WorkItem) (reason : String)
  deriving DecidableEq, Repr, Inhabited

/-- Processes one record. -/
def process (h : Handler) (c : Consumer) (r : Record) : Processed × Consumer :=
  match Ticket.decode r.value with
  | .error _ => (.next, (c.count "invalid").emit (.commit r.offset))
  | .ok item =>
    if item.isStop then (.stop, (c.count "stop").emit (.commit r.offset))
    else
      match h c.handled item with
      | some reason => (.failed item reason, (c.emit (.handle item)).count "error")
      | none => (.next, ((c.emit (.handle item)).count "ok").emit (.commit r.offset))

/-- How a run ends. `polling` is a run that never returns: its partition is drained and its
context never ends. -/
inductive RunEnd where
  | stopped
  | failed (item : WorkItem) (reason : String)
  | cancelled (e : ContextError)
  | polling
  deriving DecidableEq, Repr, Inhabited

/-- The error a run returns, none when it stops. -/
def RunEnd.error? : RunEnd → Option String
  | .stopped | .polling => none
  | .failed item reason => some s!"handle ticket {item.ticket}/{item.tag}: {reason}"
  | .cancelled e => some e.message

/-- The run over the records left in the partition, from the given look at the context on. -/
def runFrom (ctx : Context) (h : Handler) : List Record → Nat → Consumer → RunEnd × Consumer
  | [], _, c => (if ctx.doneAt.isSome then .cancelled ctx.err else .polling, c)
  | r :: rest, look, c =>
    -- one look before the poll, one after it
    if ctx.isDone look || ctx.isDone (look + 1) then (.cancelled ctx.err, c)
    else
      match process h c r with
      | (.next, c) => runFrom ctx h rest (look + 2) c
      | (.stop, c) => (.stopped, c)
      | (.failed item reason, c) => (.failed item reason, c)

/-- The run of a consumer over its partition. -/
def run (ctx : Context) (h : Handler) (records : List Record) (c : Consumer) : RunEnd × Consumer :=
  runFrom ctx h records 0 c

end TestDispatch.Dispatch
