import Mathlib.Data.List.Forall2
import TestDispatch.Worker.Handle
/-!
# A worker gives back every target it takes

Handling is run here over services that log every call made on them, with its reply
(`Services.logged`). Logging changes nothing the services do, so the log is the calls the
worker makes. `Handling` says declaratively which logs handling one item may leave, with the
error it returns:

* an item without candidates makes no call and returns no error;
* otherwise the worker asks for a target once; when that is refused it calls nothing else and
  returns the refusal, named with the ticket;
* when it gets a target, it runs the item's tests on it once, gives it back once, with the
  release's own deadline, whatever the run gave, and then hands each result the run gave to the
  notifier, in order; it returns the run's error, named with the ticket and the target.

`holding` follows the target a worker holds along a log: an acquire that answers a target takes
it, and an unlock of the target held gives it back. It fails on a log that takes a second target
while one is held, or gives back a target not held.

Main results:

* `handleTicket_logged`: for every lock service, executor and notifier, handling an item leaves
  a log that `Handling` allows, with the error `Handling` names.
* `worker_releases_each_target`: the same, and over every sequence of items the log is the logs
  of the items one after another; the worker never holds two targets, never gives back one it
  does not hold, and holds none between two items.
-/

namespace TestDispatch.Worker

open TestDispatch.Executor
open TestDispatch.Reporting (NotifyError)

/-- One call a worker made on its services, with the reply it got. -/
inductive Exchange where
  | acquire (timeout : Nat) (candidates : List String) (reply : Except LockError String)
  | run (timeout : Nat) (req : RunRequest) (results : List TestResult) (error : Option RunError)
  | unlock (timeout : Nat) (target : String) (reply : Except LockError Bool)
  | notify (result : TestResult) (error : Option NotifyError)

variable {σ : Type}

/-- The services with a log of every call made on them, each with its reply, in order. -/
def Services.logged (svc : Services σ) : Services (σ × List Exchange) where
  acquire timeout candidates s :=
    let (reply, st) := svc.acquire timeout candidates s.1
    (reply, st, s.2 ++ [.acquire timeout candidates reply])
  run timeout req s :=
    let (out, st) := svc.run timeout req s.1
    (out, st, s.2 ++ [.run timeout req out.1 out.2])
  unlock timeout target s :=
    let (reply, st) := svc.unlock timeout target s.1
    (reply, st, s.2 ++ [.unlock timeout target reply])
  notify r s :=
    let (error, st) := svc.notify r s.1
    (error, st, s.2 ++ [.notify r error])

/-- The calls handling an item within `timeout` nanoseconds may make, in order, and the error it
then returns. -/
inductive Handling (timeout : Nat) (item : WorkItem) : List Exchange → Option HandleError → Prop
  /-- An item without candidates is dropped: no call, no error. -/
  | dropped : item.targetList = [] → Handling timeout item [] none
  /-- A refused acquire is the only call; its error is returned, named with the ticket. -/
  | refused (e : LockError) : item.targetList ≠ [] →
      Handling timeout item [.acquire timeout item.targetList (.error e)]
        (some (.acquire item.ticket e))
  /-- A target taken: one run of the item's tests on it, whatever that gives; one release of it
  within the release's own deadline, whatever that answers; then each result handed on, in
  order, whatever the notifier answers. The run's error is returned, named with the ticket and
  the target. -/
  | ran (t : String) (results : List TestResult) (runError : Option RunError)
      (released : Except LockError Bool) (replies : List (Option NotifyError)) :
      item.targetList ≠ [] → replies.length = results.length →
      Handling timeout item
        ([.acquire timeout item.targetList (.ok t),
          .run timeout
            { ticket := item.ticket, testIds := item.tests, target := t, build := item.build,
              buildType := item.buildType, testPlan := item.testPlan, parallel := item.parallel }
            results runError,
          .unlock releaseTimeout t released] ++ List.zipWith .notify results replies)
        (runError.map (.run item.ticket t))

namespace Services

variable (svc : Services σ) (s : σ × List Exchange)

@[simp] theorem logged_acquire (timeout : Nat) (candidates : List String) :
    svc.logged.acquire timeout candidates s =
      ((svc.acquire timeout candidates s.1).1, (svc.acquire timeout candidates s.1).2,
        s.2 ++ [.acquire timeout candidates (svc.acquire timeout candidates s.1).1]) := rfl

@[simp] theorem logged_run (timeout : Nat) (req : RunRequest) :
    svc.logged.run timeout req s =
      ((svc.run timeout req s.1).1, (svc.run timeout req s.1).2,
        s.2 ++ [.run timeout req (svc.run timeout req s.1).1.1 (svc.run timeout req s.1).1.2]) :=
  rfl

@[simp] theorem logged_unlock (timeout : Nat) (target : String) :
    svc.logged.unlock timeout target s =
      ((svc.unlock timeout target s.1).1, (svc.unlock timeout target s.1).2,
        s.2 ++ [.unlock timeout target (svc.unlock timeout target s.1).1]) := rfl

@[simp] theorem logged_notify (r : TestResult) :
    svc.logged.notify r s =
      ((svc.notify r s.1).1, (svc.notify r s.1).2, s.2 ++ [.notify r (svc.notify r s.1).1]) := rfl

/-- Handing results on logs one notify per result, in order. -/
theorem notifyAll_logged (rs : List TestResult) (st : σ) (log : List Exchange) :
    ∃ replies : List (Option NotifyError), replies.length = rs.length ∧
      svc.logged.notifyAll rs (st, log) =
        (svc.notifyAll rs st, log ++ List.zipWith .notify rs replies) := by
  induction rs generalizing st log with
  | nil => exact ⟨[], rfl, by simp [notifyAll]⟩
  | cons r rs ih =>
    obtain ⟨replies, hlen, heq⟩ := ih (svc.notify r st).2 (log ++ [.notify r (svc.notify r st).1])
    refine ⟨(svc.notify r st).1 :: replies, by simp [hlen], ?_⟩
    simp [notifyAll, heq]

end Services

/-! ## What handling an item does -/

section Branches

variable (svc : Services σ) {timeout : Nat} {item : WorkItem} {st : σ}

theorem handleTicket_of_nil (h : item.targetList = []) :
    handleTicket svc timeout item st = (none, st) := by
  simp [handleTicket, h]

theorem handleTicket_of_refused (hne : item.targetList ≠ []) {e : LockError} {st₁ : σ}
    (ha : svc.acquire timeout item.targetList st = (.error e, st₁)) :
    handleTicket svc timeout item st = (some (.acquire item.ticket e), st₁) := by
  obtain ⟨c, cs, hc⟩ := List.exists_cons_of_ne_nil hne
  rw [hc] at ha
  simp [handleTicket, hc, ha]

/-- With a target taken, handling runs the item on it, gives it back, then hands the results on;
it returns the run's error. -/
theorem handleTicket_of_taken (hne : item.targetList ≠ []) {t : String} {st₁ : σ}
    (ha : svc.acquire timeout item.targetList st = (.ok t, st₁)) :
    handleTicket svc timeout item st =
      let ((results, runError), st₂) := svc.run timeout (runRequest item t) st₁
      (runError.map (.run item.ticket t),
        svc.notifyAll results (svc.unlock releaseTimeout t st₂).2) := by
  obtain ⟨c, cs, hc⟩ := List.exists_cons_of_ne_nil hne
  rw [hc] at ha
  simp [handleTicket, hc, ha]

end Branches

/-- Handling an item over logged services does what it does over the services themselves, and
leaves a log that `Handling` allows, with the error it names. -/
theorem handleTicket_logged (svc : Services σ) (timeout : Nat) (item : WorkItem) (st : σ)
    (log : List Exchange) :
    ∃ ex, handleTicket svc.logged timeout item (st, log) =
        ((handleTicket svc timeout item st).1, (handleTicket svc timeout item st).2, log ++ ex) ∧
      Handling timeout item ex (handleTicket svc timeout item st).1 := by
  by_cases hne : item.targetList = []
  · refine ⟨[], ?_, ?_⟩
    · simp [handleTicket_of_nil _ hne]
    · rw [handleTicket_of_nil _ hne]
      exact .dropped hne
  rcases ha : svc.acquire timeout item.targetList st with ⟨e | t, st₁⟩
  · -- refused: the acquire is the only call
    have hla : svc.logged.acquire timeout item.targetList (st, log) =
        (.error e, st₁, log ++ [.acquire timeout item.targetList (.error e)]) := by
      simp [ha]
    refine ⟨[.acquire timeout item.targetList (.error e)], ?_, ?_⟩
    · simp [handleTicket_of_refused _ hne hla, handleTicket_of_refused _ hne ha]
    · rw [handleTicket_of_refused _ hne ha]
      exact .refused e hne
  · -- a target taken: one run, one release, then the results handed on
    have hla : svc.logged.acquire timeout item.targetList (st, log) =
        (.ok t, st₁, log ++ [.acquire timeout item.targetList (.ok t)]) := by
      simp [ha]
    rcases hr : svc.run timeout (runRequest item t) st₁ with ⟨⟨results, runError⟩, st₂⟩
    rcases hu : svc.unlock releaseTimeout t st₂ with ⟨released, st₃⟩
    obtain ⟨replies, hlen, hn⟩ := svc.notifyAll_logged results st₃
      (log ++ [.acquire timeout item.targetList (.ok t),
        .run timeout (runRequest item t) results runError, .unlock releaseTimeout t released])
    refine ⟨[.acquire timeout item.targetList (.ok t),
      .run timeout (runRequest item t) results runError, .unlock releaseTimeout t released] ++
      List.zipWith .notify results replies, ?_, ?_⟩
    · simp [handleTicket_of_taken _ hne hla, handleTicket_of_taken _ hne ha, hr, hu, hn]
    · rw [handleTicket_of_taken _ hne ha, hr]
      exact .ran t results runError released replies hne hlen

/-! ## The target held along a log -/

/-- The target held after one more call, from the one held before; `none` when the call takes a
second target or gives back one not held. -/
def Exchange.hold : Option String → Exchange → Option (Option String)
  | none, .acquire _ _ (.ok t) => some (some t)
  | some _, .acquire _ _ (.ok _) => none
  | some t, .unlock _ t' _ => if t = t' then some none else none
  | none, .unlock _ _ _ => none
  | held, _ => some held

/-- The target held after a log, from the one held before it; `none` when the log takes a second
target or gives back one not held. -/
def holding (held : Option String) (log : List Exchange) : Option (Option String) :=
  log.foldlM Exchange.hold held

theorem holding_append (held : Option String) (l l' : List Exchange) :
    holding held (l ++ l') = (holding held l).bind fun h => holding h l' :=
  List.foldlM_append

/-- Handing results on neither takes nor gives back a target. -/
theorem holding_notify (held : Option String) (rs : List TestResult)
    (replies : List (Option NotifyError)) :
    holding held (List.zipWith .notify rs replies) = some held := by
  induction rs generalizing replies with
  | nil => rfl
  | cons r rs ih =>
    cases replies with
    | nil => rfl
    | cons e replies => simpa [holding, Exchange.hold] using ih replies

/-- Handling an item gives back every target it takes, and takes at most one. -/
theorem Handling.holding_eq {timeout : Nat} {item : WorkItem} {ex : List Exchange}
    {err : Option HandleError} (h : Handling timeout item ex err) : holding none ex = some none := by
  cases h with
  | dropped => rfl
  | refused e => rfl
  | ran t results runError released replies =>
    -- the target taken is the target given back, and handing results on changes nothing
    have hgiven : ∀ req, holding none [.acquire timeout item.targetList (.ok t),
        .run timeout req results runError, .unlock releaseTimeout t released] = some none := by
      simp [holding, Exchange.hold]
    rw [holding_append, hgiven, Option.bind_some, holding_notify]

/-- Logs that each give back what they take keep doing so one after another. -/
theorem holding_flatten (exs : List (List Exchange))
    (h : ∀ ex ∈ exs, holding none ex = some none) : holding none exs.flatten = some none := by
  induction exs with
  | nil => rfl
  | cons ex exs ih =>
    rw [List.flatten_cons, holding_append, h ex (List.mem_cons_self ..), Option.bind_some]
    exact ih fun ex' hex' => h ex' (List.mem_cons_of_mem _ hex')

/-- A log that keeps the discipline keeps it at each of its points. -/
theorem holding_prefix {p log : List Exchange} {held : Option String} (hp : p <+: log)
    (h : holding none log = some held) : ∃ held', holding none p = some held' := by
  obtain ⟨q, rfl⟩ := hp
  rw [holding_append] at h
  cases hpre : holding none p with
  | none => simp [hpre] at h
  | some held' => exact ⟨held', rfl⟩

/-! ## Items one after another -/

/-- Handling items one after another over logged services leaves the logs of the items, one
after another. -/
theorem handleEach_logged (svc : Services σ) (items : List (Nat × WorkItem)) (st : σ)
    (log : List Exchange) :
    ∃ exs : List (List Exchange),
      handleEach svc.logged items (st, log) =
          ((handleEach svc items st).1, (handleEach svc items st).2, log ++ exs.flatten) ∧
        List.Forall₂ (fun job ex => ∃ e, Handling job.1 job.2 ex e) items exs := by
  induction items generalizing st log with
  | nil => exact ⟨[], by simp [handleEach], .nil⟩
  | cons job items ih =>
    obtain ⟨timeout, item⟩ := job
    obtain ⟨ex, hex, hh⟩ := handleTicket_logged svc timeout item st log
    obtain ⟨exs, hexs, hall⟩ := ih (handleTicket svc timeout item st).2 (log ++ ex)
    refine ⟨ex :: exs, ?_, .cons ⟨_, hh⟩ hall⟩
    simp [handleEach, hex, hexs]

/-- For every lock service, executor and notifier: handling an item makes the calls `Handling`
allows, in its order, and returns the error it names: no call for an item without candidates;
one acquire, and nothing more when it is refused; else one run of the item on the target taken,
one release of it with the release's own deadline, whatever the run gave, and one notify per
result after it, in order; the error returned is the run's. Over every sequence of items, the
log is the items' logs one after another: the worker never holds two targets at once, never
gives back a target it does not hold, and holds none between two items. -/
theorem worker_releases_each_target (svc : Services σ) :
    (∀ (timeout : Nat) (item : WorkItem) (st : σ) (log : List Exchange),
      ∃ ex, handleTicket svc.logged timeout item (st, log) =
          ((handleTicket svc timeout item st).1, (handleTicket svc timeout item st).2,
            log ++ ex) ∧
        Handling timeout item ex (handleTicket svc timeout item st).1) ∧
      ∀ (items : List (Nat × WorkItem)) (st : σ), ∃ exs : List (List Exchange),
        (handleEach svc.logged items (st, [])).2.2 = exs.flatten ∧
          List.Forall₂ (fun job ex => ∃ e, Handling job.1 job.2 ex e) items exs ∧
          (∀ k, holding none (exs.take k).flatten = some none) ∧
          ∀ p, p <+: exs.flatten → ∃ held, holding none p = some held := by
  refine ⟨handleTicket_logged svc, fun items st => ?_⟩
  obtain ⟨exs, heq, hall⟩ := handleEach_logged svc items st []
  -- every item's log gives back what it takes
  have hret : ∀ ex ∈ exs, holding none ex = some none := by
    clear heq
    induction hall with
    | nil => simp
    | cons hh _ ih =>
      obtain ⟨e, hh⟩ := hh
      intro ex hex
      rcases List.mem_cons.mp hex with rfl | hex
      · exact hh.holding_eq
      · exact ih ex hex
  refine ⟨exs, by simp [heq], hall, fun k => holding_flatten _ fun ex hex => ?_, fun p hp => ?_⟩
  · exact hret ex (List.mem_of_mem_take hex)
  · exact holding_prefix hp (holding_flatten exs hret)

end TestDispatch.Worker
