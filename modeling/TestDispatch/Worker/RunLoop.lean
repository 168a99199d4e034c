import TestDispatch.Dispatch.Consumer
/-!
# The worker's run loop

A worker starts its reporting endpoint, when it has one, consumes tickets from its source until
the source returns, and then shuts down in order: it drains the notifier, then stops the
endpoint.

* An endpoint that does not start ends the run at once, with `start reporting endpoint: ...`.
* The source runs under the run context, a child of the caller's context that the worker can
  cancel with a cause. Beside the source runs a watcher: when it sees the endpoint exit, it
  cancels the run context with the cause `reporting endpoint exited`; when it sees the run
  context end, it returns. The watcher of a worker with no endpoint returns at once.
* Once the source has returned, the worker reads whether the endpoint's loss is the run
  context's cause, cancels the run context itself, and waits for the watcher to return.
* The run's own error is the endpoint's loss when the worker read that cause; none when the
  source returned none, or the context's cancellation or an error that wraps it; the source's
  error otherwise. A failed drain (`drain notifications: ...`) and a failed stop
  (`stop reporting endpoint: ...`) follow it, and the run returns the errors together.

The source, the endpoint and the caller's context are any: the source may return at any time
with any error, the endpoint may exit at any time, and its start, the drain and its stop may
fail with any words. `Step` is one move of the worker, of the watcher, of the source, of the
endpoint or of the caller's context; the runs of a worker are the sequences of steps from
`World.init`.
-/

namespace TestDispatch.Worker

open TestDispatch.Dispatch (ContextError)

/-- An error a source returns: its words, and whether it is the context's cancellation or wraps
it. -/
structure SourceError where
  message : String
  canceled : Bool
  deriving DecidableEq, Repr

/-- Why the run context ended. -/
inductive Cause where
  /-- The caller's context ended with this error. -/
  | parent (e : ContextError)
  /-- The worker cancelled it once the source had returned. -/
  | canceled
  /-- The watcher saw the endpoint exit. -/
  | endpointLost
  deriving DecidableEq, Repr

/-- One of the errors a worker's run returns. -/
inductive LoopError where
  /-- The endpoint did not start. -/
  | start (why : String)
  /-- The endpoint exited while the source ran. -/
  | endpointLost
  /-- The source's own error. -/
  | source (e : SourceError)
  /-- The notifier was not drained. -/
  | drain (why : String)
  /-- The endpoint did not stop. -/
  | stop (why : String)
  deriving DecidableEq, Repr

/-- The words of a run loop error. -/
def LoopError.message : LoopError → String
  | .start why => s!"start reporting endpoint: {why}"
  | .endpointLost => "reporting endpoint exited"
  | .source e => e.message
  | .drain why => s!"drain notifications: {why}"
  | .stop why => s!"stop reporting endpoint: {why}"

/-- The words of errors returned together, joined by `; `; none for no error. -/
def combinedMessage (errs : List LoopError) : Option String :=
  if errs = [] then none else some ("; ".intercalate (errs.map LoopError.message))

/-- The run's own error: the endpoint's loss when the worker read that cause; none when the
source returned none or the context's cancellation; the source's error otherwise. -/
def runError (lost : Bool) (err : Option SourceError) : Option LoopError :=
  if lost then some .endpointLost
  else
    match err with
    | some e => if e.canceled then none else some (.source e)
    | none => none

/-- What the worker calls on. -/
inductive Call where
  /-- Starts the endpoint. -/
  | start
  /-- Runs the source. -/
  | consume
  /-- Closes the notifier, draining it. -/
  | close
  /-- Stops the endpoint. -/
  | stop
  deriving DecidableEq, Repr

/-- Where the worker is. -/
inductive Phase where
  /-- About to start the endpoint. -/
  | starting
  /-- About to make the run context, start the watcher and run the source. -/
  | launching
  /-- The source runs. -/
  | consuming
  /-- The source has returned. -/
  | returned
  /-- Waiting for the watcher to return. -/
  | joining
  /-- About to close the notifier. -/
  | draining
  /-- About to stop the endpoint. -/
  | stopping
  /-- Returned. -/
  | finished
  deriving DecidableEq, Repr

/-- Where the watcher is. -/
inductive Watcher where
  /-- Not started. -/
  | idle
  /-- Waiting for the endpoint to exit or the run context to end. -/
  | watching
  /-- Returned. -/
  | returned
  deriving DecidableEq, Repr

/-- The worker and its watcher, with the contexts and the endpoint they see. -/
structure World where
  phase : Phase
  watcher : Watcher := .idle
  /-- Why the caller's context ended; none while it runs. -/
  parent : Option ContextError := none
  /-- Why the run context ended; none while it runs. Before the run context is made, the cause
  it is made with, the caller's. -/
  cause : Option Cause := none
  /-- Whether the endpoint has exited. -/
  exited : Bool := false
  /-- What the source returned. -/
  runErr : Option SourceError := none
  /-- Whether the worker read the endpoint's loss as the run context's cause. -/
  lost : Bool := false
  /-- The errors the run returns, together. -/
  errs : List LoopError := []
  /-- The worker's calls, in order. -/
  calls : List Call := []
  deriving DecidableEq, Repr

/-- A worker about to run, with an endpoint or none. -/
def World.init (endpoint : Bool) : World :=
  { phase := if endpoint then .starting else .launching }

/-- One step of a worker's run, with an endpoint or none: the worker's, the watcher's, the
source's, the endpoint's or the caller's context's. -/
inductive Step (endpoint : Bool) : World → World → Prop where
  /-- The endpoint does not start, and the run returns that. -/
  | startFailed {w : World} (why : String) (hp : w.phase = .starting) :
      Step endpoint w
        { w with phase := .finished, errs := [.start why], calls := w.calls ++ [.start] }
  /-- The endpoint starts. -/
  | started {w : World} (hp : w.phase = .starting) :
      Step endpoint w { w with phase := .launching, calls := w.calls ++ [.start] }
  /-- The worker makes the run context, starts the watcher and runs the source. -/
  | launch {w : World} (hp : w.phase = .launching) :
      Step endpoint w
        { w with phase := .consuming, watcher := if endpoint then .watching else .returned,
                 calls := w.calls ++ [.consume] }
  /-- The source returns. -/
  | sourceReturns {w : World} (err : Option SourceError) (hp : w.phase = .consuming) :
      Step endpoint w { w with phase := .returned, runErr := err }
  /-- The worker reads whether the endpoint's loss is the run context's cause, and cancels the
  run context. -/
  | check {w : World} (hp : w.phase = .returned) :
      Step endpoint w
        { w with phase := .joining, lost := decide (w.cause = some .endpointLost),
                 cause := w.cause.or (some .canceled) }
  /-- The watcher has returned, and the worker takes the run's own error. -/
  | join {w : World} (hp : w.phase = .joining) (hw : w.watcher = .returned) :
      Step endpoint w { w with phase := .draining, errs := (runError w.lost w.runErr).toList }
  /-- The worker closes the notifier, which may fail to drain. -/
  | drain {w : World} (why : Option String) (hp : w.phase = .draining) :
      Step endpoint w
        { w with phase := if endpoint then .stopping else .finished,
                 errs := w.errs ++ (why.map .drain).toList, calls := w.calls ++ [.close] }
  /-- The worker stops the endpoint, which may fail to stop. -/
  | stop {w : World} (why : Option String) (hp : w.phase = .stopping) :
      Step endpoint w
        { w with phase := .finished, errs := w.errs ++ (why.map .stop).toList,
                 calls := w.calls ++ [.stop] }
  /-- The watcher sees the endpoint exit, cancels the run context for the endpoint's loss, and
  returns. A run context that has ended keeps its cause. -/
  | watchExit {w : World} (hw : w.watcher = .watching) (hx : w.exited = true) :
      Step endpoint w { w with watcher := .returned, cause := w.cause.or (some .endpointLost) }
  /-- The watcher sees the run context end, and returns. -/
  | watchEnd {w : World} (hw : w.watcher = .watching) (hc : w.cause.isSome = true) :
      Step endpoint w { w with watcher := .returned }
  /-- The endpoint exits on its own. -/
  | exit {w : World} (he : endpoint = true) (hx : w.exited = false) :
      Step endpoint w { w with exited := true }
  /-- The caller's context ends, and the run context with it unless it has ended. -/
  | parentEnds {w : World} (e : ContextError) (hp : w.parent = none) :
      Step endpoint w { w with parent := some e, cause := w.cause.or (some (.parent e)) }

end TestDispatch.Worker
