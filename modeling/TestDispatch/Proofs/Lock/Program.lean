import TestDispatch.Lock.Session
/-!
# Lock-service calls as programs of backend primitives

A call of the lock service is a short program over its backend: it calls a primitive, looks at
the reply, and either answers or calls the next primitive. `Prog` writes such a program down as
a tree whose nodes are the primitive calls. Holders that share one backend run their calls at
the same time, and what one of them sees between two of its primitives may have been changed by
the others; with the calls written as trees, such runs can be taken apart one primitive at a
time.

* `Prog.run` performs a program against a backend, nobody else acting. The service's calls as
  programs (`lockProg`, `unlockProg`, `forceUnlockProg`, `findProg`, `sweepProg`, `acquireProg`)
  run so are the service's own functions: `run_lockProg`, `run_unlockProg`,
  `run_forceUnlockProg`, `run_findProg`, `run_sweepProg`, `run_acquireProg`.
* `Prog.Issues P` says that every call a program can make satisfies `P`, and `Prog.Decides P`
  that every answer comes right after a call whose reply `P` accepts for it. Both pass through
  `bind` (`Issues.bind`, `Decides.bind`), so they are proved of a call from its parts.
* `Op` is a call of the service by one holder; `Op.prog` is its program, answering as a lock
  session does. An `acquire` sweeps the candidates again while its deadline lasts; `rounds`
  says how many more sweeps it makes before the deadline passes.
-/

namespace TestDispatch

/-- A call of a backend primitive. -/
inductive Call where
  | search (q : TargetQuery)
  | create (r : TargetRecord)
  | update (filter : TargetQuery) (patch : TargetPatch)
  deriving DecidableEq, Repr

/-- What a primitive answers when it succeeds: the records found, nothing, or how many records
an update selected. -/
abbrev Call.Reply : Call → Type
  | .search _ => List TargetRecord
  | .create _ => Unit
  | .update _ _ => Nat

/-- Performs a call on the backend's state: its reply and the state after it. A call that fails
leaves the state as it was. -/
def LockBackend.perform {σ : Type} (b : LockBackend σ) : (c : Call) → σ → Except BackendError c.Reply × σ
  | .search q, st => (b.search q st, st)
  | .create r, st =>
    match b.create r st with
    | .ok st' => (.ok (), st')
    | .error e => (.error e, st)
  | .update f p, st =>
    match b.update f p st with
    | .ok (n, st') => (.ok n, st')
    | .error e => (.error e, st)

/-- A program over a lock backend: an answer, or a call and what to do with each reply. -/
inductive Prog (α : Type) where
  | done (a : α)
  | call (c : Call) (next : Except BackendError c.Reply → Prog α)

namespace Prog

variable {σ α β : Type}

/-- The program that goes on with `f` where `p` answers. -/
def bind : Prog α → (α → Prog β) → Prog β
  | .done a, f => f a
  | .call c next, f => .call c fun r => (next r).bind f

instance : Monad Prog where
  pure := .done
  bind := bind

/-- Searches the records a query selects. -/
def search (q : TargetQuery) : Prog (Except BackendError (List TargetRecord)) :=
  .call (.search q) .done

/-- Registers a record. -/
def create (r : TargetRecord) : Prog (Except BackendError Unit) := .call (.create r) .done

/-- Patches the records a filter selects, answering how many it selected. -/
def update (f : TargetQuery) (p : TargetPatch) : Prog (Except BackendError Nat) :=
  .call (.update f p) .done

/-- Performs a whole program against a backend, nobody else acting: its answer and the state at
its end. -/
def run (b : LockBackend σ) : Prog α → σ → α × σ
  | .done a, st => (a, st)
  | .call c next, st => (next (b.perform c st).1).run b (b.perform c st).2

@[simp] theorem pure_eq (a : α) : (pure a : Prog α) = .done a := rfl

@[simp] theorem done_bind (a : α) (f : α → Prog β) : (Prog.done a >>= f) = f a := rfl

@[simp] theorem call_bind (c : Call) (next : Except BackendError c.Reply → Prog α)
    (f : α → Prog β) : (Prog.call c next >>= f) = .call c fun r => next r >>= f := rfl

@[simp] theorem run_done (b : LockBackend σ) (a : α) (st : σ) : (Prog.done a).run b st = (a, st) :=
  rfl

theorem run_call (b : LockBackend σ) (c : Call) (next : Except BackendError c.Reply → Prog α)
    (st : σ) : (Prog.call c next).run b st = (next (b.perform c st).1).run b (b.perform c st).2 :=
  rfl

/-- A program followed by another runs as the first, then the second from where it ended. -/
theorem run_bind (b : LockBackend σ) (p : Prog α) (f : α → Prog β) (st : σ) :
    (p >>= f).run b st = (f (p.run b st).1).run b (p.run b st).2 := by
  induction p generalizing st with
  | done a => rfl
  | call c next ih => exact ih _ _

theorem run_search_bind (b : LockBackend σ) (q : TargetQuery)
    (k : Except BackendError (List TargetRecord) → Prog α) (st : σ) :
    (search q >>= k).run b st = (k (b.search q st)).run b st := rfl

theorem run_create_bind (b : LockBackend σ) (r : TargetRecord)
    (k : Except BackendError Unit → Prog α) (st : σ) :
    (create r >>= k).run b st =
      match b.create r st with
      | .ok st' => (k (.ok ())).run b st'
      | .error e => (k (.error e)).run b st := by
  simp only [create, call_bind, done_bind, run_call, LockBackend.perform]
  split <;> rfl

theorem run_update_bind (b : LockBackend σ) (f : TargetQuery) (p : TargetPatch)
    (k : Except BackendError Nat → Prog α) (st : σ) :
    (update f p >>= k).run b st =
      match b.update f p st with
      | .ok (n, st') => (k (.ok n)).run b st'
      | .error e => (k (.error e)).run b st := by
  simp only [update, call_bind, done_bind, run_call, LockBackend.perform]
  split <;> rfl

theorem bind_eq_done {p : Prog α} {f : α → Prog β} {b : β} (h : (p >>= f) = .done b) :
    ∃ a, p = .done a ∧ f a = .done b := by
  cases p with
  | done a => exact ⟨a, rfl, h⟩
  | call c next => cases h

/-! ## What a program may do -/

/-- Every call that a program can make satisfies `P`. -/
inductive Issues (P : Call → Prop) : Prog α → Prop
  | done (a : α) : Issues P (.done a)
  | call {c : Call} {next : Except BackendError c.Reply → Prog α} :
      P c → (∀ r, Issues P (next r)) → Issues P (.call c next)

/-- Every answer `a` that a program gives right after a call `c` with reply `r` satisfies
`P c r a`: what decided the answer was that call and that reply. -/
inductive Decides (P : (c : Call) → Except BackendError c.Reply → α → Prop) : Prog α → Prop
  | done (a : α) : Decides P (.done a)
  | call {c : Call} {next : Except BackendError c.Reply → Prog α} :
      (∀ r a, next r = .done a → P c r a) → (∀ r, Decides P (next r)) → Decides P (.call c next)

theorem Issues.next {P : Call → Prop} {c : Call} {next : Except BackendError c.Reply → Prog α}
    (h : Issues P (.call c next)) (r : Except BackendError c.Reply) : Issues P (next r) := by
  cases h with
  | call _ hnext => exact hnext r

theorem Issues.head {P : Call → Prop} {c : Call} {next : Except BackendError c.Reply → Prog α}
    (h : Issues P (.call c next)) : P c := by
  cases h with
  | call hc _ => exact hc

theorem Issues.bind {P : Call → Prop} {p : Prog α} {f : α → Prog β} (hp : Issues P p)
    (hf : ∀ a, Issues P (f a)) : Issues P (p >>= f) := by
  induction hp with
  | done a => exact hf a
  | call hc _ ih => exact .call hc ih

theorem Decides.next {P : (c : Call) → Except BackendError c.Reply → α → Prop} {c : Call}
    {next : Except BackendError c.Reply → Prog α} (h : Decides P (.call c next))
    (r : Except BackendError c.Reply) : Decides P (next r) := by
  cases h with
  | call _ hnext => exact hnext r

theorem Decides.head {P : (c : Call) → Except BackendError c.Reply → α → Prop} {c : Call}
    {next : Except BackendError c.Reply → Prog α} (h : Decides P (.call c next))
    {r : Except BackendError c.Reply} {a : α} (hr : next r = .done a) : P c r a := by
  cases h with
  | call hc _ => exact hc r a hr

/-- A call of `p >>= f` decides an answer `b` either inside `f`, or as the call of `p` that
decides the `a` for which `f a` answers `b` at once. -/
theorem Decides.bind {P : (c : Call) → Except BackendError c.Reply → β → Prop} {p : Prog α}
    {f : α → Prog β} (hp : Decides (fun c r a => ∀ b, f a = .done b → P c r b) p)
    (hf : ∀ a, Decides P (f a)) : Decides P (p >>= f) := by
  induction hp with
  | done a => exact hf a
  | call hc _ ih =>
    refine .call (fun r b hb => ?_) ih
    obtain ⟨a, ha, hfa⟩ := bind_eq_done hb
    exact hc r a ha b hfa

theorem Decides.mono {P Q : (c : Call) → Except BackendError c.Reply → α → Prop} {p : Prog α}
    (hp : Decides P p) (hPQ : ∀ c r a, P c r a → Q c r a) : Decides Q p := by
  induction hp with
  | done a => exact .done a
  | call hc _ ih => exact .call (fun r a h => hPQ _ _ _ (hc r a h)) ih

end Prog

/-! ## The service's calls -/

section Calls

variable (holder : String)

/-- One attempt by `holder` to lock `target`: `LockService.lock`. -/
def lockProg (target : String) : Prog Attempt := do
  let fail (e : BackendError) : Attempt := .failed (.backend s!"lock {target}" e)
  match ← Prog.update { id := some target, occupied := some false }
      { occupied := some true, holder := some holder } with
  | .error e => return fail e
  | .ok n =>
    if n > 0 then return .acquired
    else match ← Prog.search (LockService.only target) with
      | .error e => return fail e
      | .ok (_ :: _) => return .busy
      | .ok [] =>
        match ← Prog.create { id := target, occupied := true, holder } with
        | .ok () => return .registered
        | .error .registered => return .busy
        | .error e => return fail e

/-- Gives back `target` if `holder` holds it: `LockService.unlock`. -/
def unlockProg (target : String) : Prog (Except LockError Bool) := do
  match ← Prog.update { id := some target, occupied := some true, holder := some holder }
      { occupied := some false, holder := some "" } with
  | .error e => return .error (.backend s!"unlock {target}" e)
  | .ok n => return .ok (n > 0)

/-- Frees `target` whoever holds it: `LockService.forceUnlock`. -/
def forceUnlockProg (target : String) : Prog (Except LockError Bool) := do
  match ← Prog.update { id := some target, occupied := some true }
      { occupied := some false, holder := some "" } with
  | .error e => return .error (.backend s!"force unlock {target}" e)
  | .ok n => return .ok (n > 0)

/-- The first free candidate, registering candidates that have no record:
`LockService.findAvailable`. -/
def findProg : List String → Prog (Except LockError String)
  | [] => return .error .noTarget
  | id :: rest => do
    let isFree (rs : List TargetRecord) : Bool := TargetRecord.state rs.head? == .free
    match ← Prog.search (LockService.only id) with
    | .error _ => findProg rest
    | .ok [] =>
      match ← Prog.create { id } with
      | .ok () => return .ok id
      | .error .registered =>
        match ← Prog.search (LockService.only id) with
        | .ok (r :: rs) => if isFree (r :: rs) then return .ok id else findProg rest
        | .ok [] => findProg rest
        | .error _ => findProg rest
      | .error _ => findProg rest
    | .ok (r :: rs) => if isFree (r :: rs) then return .ok id else findProg rest

/-- One sweep over the candidates: `LockService.sweep`. -/
def sweepProg : Nat → List String → Prog (Option String × List Attempt)
  | 0, _ => return (none, [])
  | fuel + 1, candidates => do
    match ← findProg candidates with
    | .error _ => return (none, [])
    | .ok target =>
      match ← lockProg holder target with
      | .busy =>
        let rest := candidates.filter (· ≠ target)
        if rest.isEmpty then return (none, [.busy])
        else do
          let (taken, attempts) ← sweepProg fuel rest
          return (taken, .busy :: attempts)
      | .failed e => return (none, [.failed e])
      | .acquired => return (some target, [.acquired])
      | .registered => return (some target, [.registered])

/-- Sweeps until one takes a target, at most `rounds + 1` times: the target taken, if any, and
the lock attempts of all the sweeps. -/
def sweepsProg (candidates : List String) : Nat → Prog (Option String × List Attempt)
  | 0 => sweepProg holder candidates.length candidates
  | rounds + 1 => do
    let (taken, attempts) ← sweepProg holder candidates.length candidates
    match taken with
    | some target => return (some target, attempts)
    | none => do
      let (taken, more) ← sweepsProg candidates rounds
      return (taken, attempts ++ more)

/-- Takes one of the candidates before a deadline `timeout` nanoseconds away, sweeping
`rounds + 1` times at most: `LockService.acquire` when `rounds` is the number of pauses that end
before the deadline. -/
def acquireProg (candidates : List String) (timeout : Int) (rounds : Nat) :
    Prog (Except LockError String × List Attempt) :=
  if candidates.isEmpty then return (.error .noCandidates, [])
  else if timeout ≤ 0 then return (.error .deadline, [])
  else do
    match ← sweepsProg holder candidates rounds with
    | (some target, attempts) => return (.ok target, attempts)
    | (none, attempts) => return (.error .deadline, attempts)

end Calls

/-! ## Run alone, the programs are the service's functions -/

section Runs

variable {σ : Type} (b : LockBackend σ) (holder : String)

open Prog in
theorem run_lockProg (target : String) (st : σ) :
    (lockProg holder target).run b st = LockService.lock b holder target st := by
  simp only [lockProg, LockService.lock, run_update_bind]
  split <;> rename_i hu <;> simp only [hu, pure_eq, run_done]
  split
  · rfl
  · simp only [run_search_bind]
    -- the lookup after a failed lock: an error, a record (busy), or none (register the target)
    generalize b.search (LockService.only target) _ = found
    rcases found with e | _ | ⟨r, rs⟩
    · rfl
    · simp only [run_create_bind]
      generalize b.create _ _ = made
      rcases made with e | made
      · -- a failed registration: busy when the id was taken meanwhile, an error otherwise
        cases e <;> rfl
      · rfl
    · rfl

open Prog in
theorem run_unlockProg (target : String) (st : σ) :
    (unlockProg holder target).run b st = LockService.unlock b holder target st := by
  simp only [unlockProg, LockService.unlock, run_update_bind]
  split <;> rename_i hu <;> simp only [hu, pure_eq, run_done]

open Prog in
theorem run_forceUnlockProg (target : String) (st : σ) :
    (forceUnlockProg target).run b st = LockService.forceUnlock b target st := by
  simp only [forceUnlockProg, LockService.forceUnlock, run_update_bind]
  split <;> rename_i hu <;> simp only [hu, pure_eq, run_done]

open Prog in
theorem run_findProg (candidates : List String) (st : σ) :
    (findProg candidates).run b st = LockService.findAvailable b candidates st := by
  induction candidates generalizing st with
  | nil => rfl
  | cons id rest ih =>
    simp only [findProg, LockService.findAvailable, run_search_bind]
    split <;> rename_i hs <;> simp only [hs, ih]
    · -- no record: register it; when someone registered it first, read it again
      simp only [run_create_bind]
      split <;> rename_i hc <;> simp only [hc]
      · rfl
      · rename_i e
        cases e <;> simp only [run_search_bind, hs, ih]
    · split <;> simp [ih]

open Prog in
theorem run_sweepProg (fuel : Nat) (candidates : List String) (st : σ) :
    (sweepProg holder fuel candidates).run b st =
      let r := LockService.sweep b holder fuel candidates st
      ((r.1, r.2.1), r.2.2) := by
  induction fuel generalizing candidates st with
  | zero => rfl
  | succ fuel ih =>
    simp only [sweepProg, LockService.sweep, run_bind, run_findProg]
    rcases LockService.findAvailable b candidates st with ⟨_ | target, st⟩
    · rfl
    · simp only [run_bind, run_lockProg]
      rcases LockService.lock b holder target st with ⟨_ | _ | _ | e, st'⟩ <;>
        simp only [pure_eq, run_done]
      -- the target was found busy: sweep the others, if any are left
      split
      · rfl
      · simp only [run_bind, ih, run_done]

open Prog in
theorem run_sweepsProg (candidates : List String) (rounds : Nat) (st : σ) :
    (sweepsProg holder candidates rounds).run b st =
      let r := LockService.sweeps b holder candidates rounds st
      ((r.1, r.2.1), r.2.2) := by
  induction rounds generalizing st with
  | zero => exact run_sweepProg b holder _ candidates st
  | succ rounds ih =>
    simp only [sweepsProg, LockService.sweeps, run_bind, run_sweepProg]
    -- a sweep that took a target ends the acquire; one that did not is followed by the next
    rcases LockService.sweep b holder candidates.length candidates st with
      ⟨_ | target, attempts, st'⟩
    · simp only [run_bind, ih]
      rfl
    · rfl

open Prog in
theorem run_acquireProg (candidates : List String) (timeout : Int) (interval : Nat) (st : σ) :
    (acquireProg holder candidates timeout (LockService.retries timeout interval)).run b st =
      let r := LockService.acquire b holder candidates timeout interval st
      ((r.1, r.2.1), r.2.2) := by
  simp only [acquireProg, LockService.acquire]
  split
  · rfl
  · split
    · rfl
    · simp only [run_bind, run_sweepsProg]
      rcases LockService.sweeps b holder candidates (LockService.retries timeout interval) st with
        ⟨_ | target, _, _⟩ <;> rfl

end Runs

/-! ## Calls of the service by one holder -/

/-- A call of the lock service. -/
inductive Op where
  | findAvailable (candidates : List String)
  | lock (target : String)
  | unlock (target : String)
  | forceUnlock (target : String)
  /-- Acquire with a deadline `timeout` nanoseconds away, sweeping `rounds + 1` times at most
  before it passes. -/
  | acquire (candidates : List String) (timeout : Int) (rounds : Nat)
  deriving DecidableEq, Repr

/-- The program of a call by `holder`, answering as a lock session does. -/
def Op.prog (holder : String) : Op → Prog LockAnswer
  | .findAvailable candidates => do
    match ← findProg candidates with
    | .ok target => return .target target
    | .error e => return .failed e
  | .lock target => do
    match (← lockProg holder target).result with
    | .ok ok => return .held ok
    | .error e => return .failed e
  | .unlock target => do
    match ← unlockProg holder target with
    | .ok ok => return .held ok
    | .error e => return .failed e
  | .forceUnlock target => do
    match ← forceUnlockProg target with
    | .ok ok => return .held ok
    | .error e => return .failed e
  | .acquire candidates timeout rounds => do
    match (← acquireProg holder candidates timeout rounds).1 with
    | .ok target => return .target target
    | .error e => return .failed e

end TestDispatch
