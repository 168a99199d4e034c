import TestDispatch.TestResult
import TestDispatch.Metrics.Counter
import TestDispatch.Dispatch.Consumer
/-!
# The result notifier

The notifier hands finished tests on to be reported without making the worker wait. A result
given to it waits in a backlog of `size` results (256 when the size given is zero or less) until
its sending loop takes it, oldest first, and calls the sender with it. The loop makes one sender
call at a time, and goes on with the next result whatever the call answered.

* `notify` refuses a result once the notifier is closed (`notifier closed`), and a result that
  finds the backlog full (`notification queue full`, counted as `dropped`); otherwise it puts
  the result at the back of the backlog.
* A sender call that fails is counted as `failed`, one that succeeds as `sent`.
* `close` stops the notifier taking results; closing it again changes nothing more. The caller
  then waits until the loop has sent the backlog and ended, or until its own context is done,
  and then returns that context's error.

The callers and the loop run at the same time. A `Step` is one move of any of them, and a run is
a list of moves in the order they happen. A move that would have to wait (the loop with nothing
to take, a close whose loop has not ended) changes nothing and shows nothing.
-/

namespace TestDispatch.Reporting

open TestDispatch.Dispatch (ContextError)

/-- Why a result was refused. -/
inductive NotifyError where
  /-- The notifier was closed. -/
  | closed
  /-- The backlog was full. -/
  | queueFull
  deriving DecidableEq, Repr, Inhabited

/-- The words of a notify error. -/
def NotifyError.message : NotifyError → String
  | .closed => "notifier closed"
  | .queueFull => "notification queue full"

/-- The counters of notifications by outcome, none counted yet. -/
def notificationCounters : CounterFamily :=
  { name := "testfleet_notifications_total",
    help := "Result notifications queued by the worker, by outcome (sent, failed, dropped).",
    labels := ["outcome"] }

/-- The backlog of a notifier given no size. -/
def defaultBacklog : Nat := 256

/-- A notifier and its sending loop. -/
structure Notifier where
  /-- How many results may wait. -/
  capacity : Nat
  /-- The results waiting, oldest first. -/
  backlog : List TestResult := []
  closed : Bool := false
  /-- The result the sender is being called with, while a call is under way. -/
  sending : Option TestResult := none
  /-- Whether the loop has ended. -/
  stopped : Bool := false
  /-- How many close calls wait for the loop to end. -/
  closers : Nat := 0
  outcomes : CounterFamily := notificationCounters
  deriving DecidableEq, Repr, Inhabited

/-- One move of a caller or of the sending loop. -/
inductive Step where
  /-- A caller hands a result on. -/
  | notify (r : TestResult)
  /-- A caller closes the notifier and waits for the loop to end. -/
  | close
  /-- The loop takes the oldest waiting result and calls the sender with it. -/
  | take
  /-- The sender's call returns, with the words of its error when it failed. -/
  | finish (failure : Option String)
  /-- The loop finds the notifier closed and nothing left to send, and ends. -/
  | stop
  /-- A waiting close returns: without error once the loop has ended, or with the error of its
  context once that is done. -/
  | closeReturns (error : Option ContextError)
  deriving DecidableEq, Repr

/-- What a move shows: the error a notify returns, a call of the sender and its return, the
error a close returns; none when it returns without error. -/
inductive Event where
  | notified (r : TestResult) (error : Option NotifyError)
  | handed (r : TestResult)
  | returned (r : TestResult) (failure : Option String)
  | closeReturned (error : Option ContextError)
  deriving DecidableEq, Repr

namespace Notifier

/-- A new notifier with a backlog of `size` results, 256 when `size` is zero or less. -/
def create (size : Int) : Notifier :=
  { capacity := if size ≤ 0 then defaultBacklog else size.toNat }

/-- Hands a result on: the error, none when the result was taken. -/
def notify (n : Notifier) (r : TestResult) : Option NotifyError × Notifier :=
  if n.closed then (some .closed, n)
  else if n.backlog.length < n.capacity then (none, { n with backlog := n.backlog ++ [r] })
  else (some .queueFull, { n with outcomes := n.outcomes.inc ["dropped"] })

/-- Stops the notifier taking results. -/
def markClosed (n : Notifier) : Notifier := { n with closed := true }

/-- The loop takes the oldest waiting result, when no sender call is under way. -/
def take? (n : Notifier) : Option (TestResult × Notifier) :=
  match n.sending, n.backlog with
  | none, r :: rest => some (r, { n with backlog := rest, sending := some r })
  | _, _ => none

/-- The sender call under way returns; it is counted by its outcome. -/
def finish? (n : Notifier) (failure : Option String) : Option (TestResult × Notifier) :=
  n.sending.map fun r =>
    (r, { n with sending := none,
                 outcomes := n.outcomes.inc [if failure.isSome then "failed" else "sent"] })

/-- Whether the loop has nothing left to do: the notifier is closed, nothing waits and no call
is under way. -/
def drained (n : Notifier) : Bool := n.closed && n.backlog.isEmpty && n.sending.isNone

/-- One move, and what it shows. -/
def step (n : Notifier) : Step → Option Event × Notifier
  | .notify r =>
    let (error, n) := n.notify r
    (some (.notified r error), n)
  | .close => (none, { n.markClosed with closers := n.closers + 1 })
  | .take =>
    match n.take? with
    | some (r, n) => (some (.handed r), n)
    | none => (none, n)
  | .finish failure =>
    match n.finish? failure with
    | some (r, n) => (some (.returned r failure), n)
    | none => (none, n)
  | .stop => (none, if n.drained then { n with stopped := true } else n)
  | .closeReturns error =>
    -- a close that finds its context done may return at any time; one that finds the loop
    -- ended may return without error
    if n.closers ≠ 0 ∧ (n.stopped ∨ error.isSome) then
      (some (.closeReturned error), { n with closers := n.closers - 1 })
    else (none, n)

/-- Runs moves in order: what they show, in order, and the notifier after them. -/
def run (n : Notifier) : List Step → List Event × Notifier
  | [] => ([], n)
  | s :: rest =>
    let (e, n) := n.step s
    let (es, n) := run n rest
    (e.toList ++ es, n)

end Notifier

end TestDispatch.Reporting
