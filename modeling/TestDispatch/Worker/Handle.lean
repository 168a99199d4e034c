import TestDispatch.Executor.Command
import TestDispatch.Lock.Service
import TestDispatch.Reporting.Notifier
import TestDispatch.WorkItem
/-!
# Handling a ticket

A worker handles one work item at a time, within a deadline, through three services: a lock
service, an executor and a notifier (`Services`).

1. an item without candidate targets is dropped: nothing runs and nothing is reported;
2. the worker takes one of the candidates from the lock service; when none comes free before
   the deadline the item fails (`acquire target for EX-1: context deadline exceeded`) and
   nothing else happens;
3. the executor runs the item's tests on the target, within what is left of the deadline;
4. the target is given back, whatever the run gave, with thirty seconds of its own: a deadline
   that has passed does not keep the target from being given back;
5. every result the run gave is handed to the notifier, in order; a result it refuses is
   passed over;
6. a run that ended early fails the item (`run EX-1 on 10.0.0.1: context deadline exceeded`),
   after the results it did give were handed on.

A failed item was not completed and is to be delivered again. `handleTicket` handles an item
over any services; `TicketWorker.handle` is the worker of a lock table and a command executor.
-/

namespace TestDispatch.Worker

open TestDispatch.Executor

/-- Why an item failed. -/
inductive HandleError where
  /-- No target was taken. -/
  | acquire (ticket : String) (e : LockError)
  /-- The run ended early. -/
  | run (ticket target : String) (e : RunError)
  deriving DecidableEq, Repr, Inhabited

/-- The words of a handling error. -/
def HandleError.message : HandleError → String
  | .acquire ticket e => s!"acquire target for {ticket}: {e.message}"
  | .run ticket target e => s!"run {ticket} on {target}: {e.message}"

/-- Whether a handling error comes from the deadline. -/
def HandleError.isDeadline : HandleError → Bool
  | .acquire _ e => e = .deadline
  | .run _ _ e => e = .deadline

/-- What a worker calls on while it handles items, over a state `σ` they share: the lock
service, the executor and the notifier. Calls that may wait are given the nanoseconds left
before their deadline; a run answers the results it gave and the error that ended it early. -/
structure Services (σ : Type) where
  acquire : Nat → List String → σ → Except LockError String × σ
  run : Nat → RunRequest → σ → (List TestResult × Option RunError) × σ
  unlock : Nat → String → σ → Except LockError Bool × σ
  notify : TestResult → σ → Option Reporting.NotifyError × σ

/-- The nanoseconds a target is given back within: thirty seconds, whatever is left of the
item's own deadline. -/
def releaseTimeout : Nat := 30000000000

/-- The request that runs an item's tests on a target. -/
def runRequest (item : WorkItem) (target : String) : RunRequest :=
  { ticket := item.ticket, testIds := item.tests, target, build := item.build,
    buildType := item.buildType, testPlan := item.testPlan, parallel := item.parallel }

section Handling

variable {σ : Type}

/-- Hands results to the notifier in order; a result it refuses is passed over. -/
def Services.notifyAll (svc : Services σ) : List TestResult → σ → σ
  | [], st => st
  | r :: rs, st => svc.notifyAll rs (svc.notify r st).2

/-- Handles an item within `timeout` nanoseconds: the error it fails with, none when it was
completed, and the state after. -/
def handleTicket (svc : Services σ) (timeout : Nat) (item : WorkItem) (st : σ) :
    Option HandleError × σ :=
  match item.targetList with
  | [] => (none, st)
  | targets =>
    match svc.acquire timeout targets st with
    | (.error e, st) => (some (.acquire item.ticket e), st)
    | (.ok target, st) =>
      let ((results, runError), st) := svc.run timeout (runRequest item target) st
      let st := (svc.unlock releaseTimeout target st).2
      (runError.map (.run item.ticket target), svc.notifyAll results st)

/-- Handles items one after another, each within its own deadline: the error of each, in
order, and the state after the last. -/
def handleEach (svc : Services σ) : List (Nat × WorkItem) → σ → List (Option HandleError) × σ
  | [], st => ([], st)
  | (timeout, item) :: rest, st =>
    let (e, st) := handleTicket svc timeout item st
    let (es, st) := handleEach svc rest st
    (e :: es, st)

end Handling

/-- A worker: its name, under which it holds targets, and its executor. -/
structure TicketWorker where
  name : String
  executor : CommandExecutor
  deriving DecidableEq, Repr, Inhabited

/-- What handling an item gave: the results handed on, the error, the lock table and the
work directory after it. -/
structure Handled where
  notified : List TestResult := []
  error : Option HandleError := none
  store : TargetStore
  workspace : Workspace
  deriving Repr, Inhabited

/-- The services of a worker at time `now`: the lock service of a lock table, under the worker's
name; its executor, over a work directory; and a notifier that takes every result. -/
def TicketWorker.services (w : TicketWorker) (now : Instant) : Services Handled where
  acquire timeout targets h :=
    let (answer, _, store) := LockService.acquire (TargetStore.backend now) w.name targets timeout
      LockService.defaultRetryInterval h.store
    (answer, { h with store })
  run timeout req h :=
    let out := w.executor.run now (some timeout) req h.workspace
    ((out.results, out.error), { h with workspace := out.workspace })
  -- the lock table answers at once, so the release's deadline is never reached
  unlock _ target h :=
    let (answer, store) := LockService.unlock (TargetStore.backend now) w.name target h.store
    (answer, { h with store })
  notify r h := (none, { h with notified := h.notified ++ [r] })

/-- Handles an item at time `now` with a deadline `timeout` nanoseconds away, over a lock table
and a work directory. -/
def TicketWorker.handle (w : TicketWorker) (now : Instant) (timeout : Nat) (item : WorkItem)
    (store : TargetStore) (ws : Workspace) : Handled :=
  let (error, h) := handleTicket (w.services now) timeout item { store, workspace := ws }
  { h with error }

end TestDispatch.Worker
