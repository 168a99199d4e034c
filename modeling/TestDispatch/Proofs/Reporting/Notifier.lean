import TestDispatch.Reporting.Notifier
/-!
# The notifier sends every result it takes once, in order

A run of a notifier is any interleaving of notifies and closes with the moves of its sending
loop, whatever each sender call answers. Read off what the run showed are the results the
notifier took (`accepted`), the results the sender was called with (`handed`) and the results
whose sender call returned (`returned`).

`Accounts` relates a notifier to what its run showed: the results handed to the sender, then the
results waiting, are the results taken; the calls returned, then the call under way, are the
calls made; the backlog never holds more than the capacity; and the loop ends only once the
notifier is closed with nothing left to send. Every move keeps it (`Accounts.step`), hence so
does every run (`Accounts.run`).

Main results:

* `Notifier.notify_answers`: a notify takes the result exactly when the notifier is open and the
  backlog has room, is refused as closed exactly when it is closed, and as full otherwise; only
  a result taken joins the backlog.
* `notifier_sends_each_once`: over every run of a new notifier, the sender is called with the
  results taken, in the order they were taken, each once; a close returns without error only
  when every result taken has been handed to the sender and every call has returned; and once
  the loop has ended a further close returns at once, without error, and changes nothing.
-/

namespace TestDispatch.Reporting

/-- The results that notifies took, in order. -/
def accepted (evs : List Event) : List TestResult :=
  evs.filterMap fun
    | .notified r none => some r
    | _ => none

/-- The results the sender was called with, in order. -/
def handed (evs : List Event) : List TestResult :=
  evs.filterMap fun
    | .handed r => some r
    | _ => none

/-- The results whose sender call returned, in order. -/
def returned (evs : List Event) : List TestResult :=
  evs.filterMap fun
    | .returned r _ => some r
    | _ => none

@[simp] theorem accepted_append (evs evs' : List Event) :
    accepted (evs ++ evs') = accepted evs ++ accepted evs' := List.filterMap_append

@[simp] theorem handed_append (evs evs' : List Event) :
    handed (evs ++ evs') = handed evs ++ handed evs' := List.filterMap_append

@[simp] theorem returned_append (evs evs' : List Event) :
    returned (evs ++ evs') = returned evs ++ returned evs' := List.filterMap_append

namespace Notifier

variable {n : Notifier}

/-! ## What each move does -/

theorem notify_of_closed (h : n.closed = true) (r : TestResult) :
    n.notify r = (some .closed, n) := by
  simp [notify, h]

theorem notify_of_room (hc : n.closed = false) (hr : n.backlog.length < n.capacity)
    (r : TestResult) : n.notify r = (none, { n with backlog := n.backlog ++ [r] }) := by
  simp [notify, hc, hr]

theorem notify_of_full (hc : n.closed = false) (hr : n.capacity ≤ n.backlog.length)
    (r : TestResult) :
    n.notify r = (some .queueFull, { n with outcomes := n.outcomes.inc ["dropped"] }) := by
  simp [notify, hc, Nat.not_lt.mpr hr]

/-- A notify takes the result exactly when the notifier is open and the backlog has room; it is
refused as closed exactly when the notifier is closed, and as full otherwise. Only a result
taken joins the backlog, at its back. -/
theorem notify_answers (n : Notifier) (r : TestResult) :
    ((n.notify r).1 = none ↔ n.closed = false ∧ n.backlog.length < n.capacity) ∧
      ((n.notify r).1 = some .closed ↔ n.closed = true) ∧
      ((n.notify r).1 = some .queueFull ↔
        n.closed = false ∧ n.capacity ≤ n.backlog.length) ∧
      (n.notify r).2.backlog = if (n.notify r).1 = none then n.backlog ++ [r] else n.backlog := by
  cases hc : n.closed
  · by_cases hr : n.backlog.length < n.capacity
    · simp [notify_of_room hc hr, hr]
    · have hfull : n.capacity ≤ n.backlog.length := Nat.le_of_not_lt hr
      simp [notify_of_full hc hfull, hfull]
  · simp [notify_of_closed hc]

theorem take?_eq_some {r : TestResult} {n' : Notifier} (h : n.take? = some (r, n')) :
    n.sending = none ∧ ∃ rest, n.backlog = r :: rest ∧
      n' = { n with backlog := rest, sending := some r } := by
  unfold take? at h
  split at h
  · rename_i r' rest hs hb
    simp only [Option.some.injEq, Prod.mk.injEq] at h
    obtain ⟨rfl, rfl⟩ := h
    exact ⟨hs, rest, hb, rfl⟩
  · cases h

theorem finish?_eq_some {failure : Option String} {r : TestResult} {n' : Notifier}
    (h : n.finish? failure = some (r, n')) :
    n.sending = some r ∧ n'.backlog = n.backlog ∧ n'.sending = none ∧ n'.capacity = n.capacity ∧
      n'.stopped = n.stopped := by
  unfold finish? at h
  obtain ⟨r', hs, hr⟩ := Option.map_eq_some_iff.mp h
  simp only [Prod.mk.injEq] at hr
  obtain ⟨rfl, rfl⟩ := hr
  exact ⟨hs, rfl, rfl, rfl, rfl⟩

theorem step_notify (n : Notifier) (r : TestResult) :
    n.step (.notify r) = (some (.notified r (n.notify r).1), (n.notify r).2) := rfl

theorem step_take (n : Notifier) :
    n.step .take = match n.take? with
      | some (r, n') => (some (.handed r), n')
      | none => (none, n) := rfl

theorem step_finish (n : Notifier) (failure : Option String) :
    n.step (.finish failure) = match n.finish? failure with
      | some (r, n') => (some (.returned r failure), n')
      | none => (none, n) := rfl

theorem drained_eq_true : n.drained = true ↔
    n.closed = true ∧ n.backlog = [] ∧ n.sending = none := by
  simp [drained, Bool.and_eq_true, List.isEmpty_iff, Option.isNone_iff_eq_none, and_assoc]

theorem run_cons (n : Notifier) (s : Step) (rest : List Step) :
    n.run (s :: rest) =
      ((n.step s).1.toList ++ ((n.step s).2.run rest).1, ((n.step s).2.run rest).2) := rfl

end Notifier

/-! ## The notifier against what its run showed -/

/-- What a notifier of capacity `cap` holds after the moves that showed `evs`. -/
structure Accounts (cap : Nat) (evs : List Event) (n : Notifier) : Prop where
  capacity : n.capacity = cap
  /-- The results handed to the sender, then the results waiting, are the results taken. -/
  fifo : handed evs ++ n.backlog = accepted evs
  /-- The sender calls that returned, then the call under way, are the calls made. -/
  inFlight : returned evs ++ n.sending.toList = handed evs
  bounded : n.backlog.length ≤ cap
  /-- The loop ends only once the notifier is closed and nothing is left to send. -/
  stopped : n.stopped = true → n.drained = true

namespace Accounts

variable {cap : Nat} {evs : List Event} {n : Notifier}

theorem init (size : Int) :
    Accounts (Notifier.create size).capacity [] (Notifier.create size) where
  capacity := rfl
  fifo := rfl
  inFlight := rfl
  bounded := Nat.zero_le _
  stopped := fun h => by cases h

/-- A move that shows no result taken, handed or returned, and leaves the backlog and the call
under way alone, keeps the accounts, provided it does not reopen the notifier and ends the loop
only when nothing is left to send. -/
theorem quiet (h : Accounts cap evs n) {e : Option Event} {n' : Notifier}
    (he : accepted e.toList = [] ∧ handed e.toList = [] ∧ returned e.toList = [])
    (hcap : n'.capacity = n.capacity) (hb : n'.backlog = n.backlog)
    (hs : n'.sending = n.sending) (hclosed : n.closed = true → n'.closed = true)
    (hstop : n'.stopped = true → n.stopped = true ∨ n.drained = true) :
    Accounts cap (evs ++ e.toList) n' := by
  obtain ⟨hacc, hhand, hret⟩ := he
  refine ⟨hcap.trans h.capacity, ?_, ?_, hb ▸ h.bounded, fun hst => ?_⟩
  · simp [hacc, hhand, hb, h.fifo]
  · simp [hhand, hret, hs, h.inFlight]
  · -- the notifier was drained before the move, and the move kept what draining asks
    have hd : n.drained = true := (hstop hst).elim h.stopped id
    obtain ⟨hc, hbl, hsn⟩ := Notifier.drained_eq_true.mp hd
    exact Notifier.drained_eq_true.mpr ⟨hclosed hc, hb.trans hbl, hs.trans hsn⟩

/-- A move that changes nothing and shows nothing keeps the accounts. -/
theorem idle (h : Accounts cap evs n) : Accounts cap (evs ++ (none : Option Event).toList) n :=
  h.quiet ⟨rfl, rfl, rfl⟩ rfl rfl rfl id .inl

/-- A result taken joins the backlog. -/
theorem accept (h : Accounts cap evs n) (hc : n.closed = false)
    (hr : n.backlog.length < n.capacity) (r : TestResult) :
    Accounts cap (evs ++ [.notified r none]) { n with backlog := n.backlog ++ [r] } := by
  have hacc : accepted [.notified r none] = [r] := rfl
  have hhand : handed [.notified r none] = [] := rfl
  -- an open notifier has not ended its loop
  have hopen : n.stopped = false := by
    cases hst : n.stopped
    · rfl
    · have := (Notifier.drained_eq_true.mp (h.stopped hst)).1
      rw [hc] at this
      cases this
  refine ⟨h.capacity, ?_, ?_, ?_, fun hst => ?_⟩
  · simp [hacc, hhand, ← h.fifo]
  · simpa [hhand, returned] using h.inFlight
  · have := h.capacity
    simp only [List.length_append, List.length_singleton]
    omega
  · simp only [hopen] at hst
    cases hst

/-- The loop takes the oldest waiting result and calls the sender with it. -/
theorem take (h : Accounts cap evs n) {r : TestResult} {n' : Notifier}
    (ht : n.take? = some (r, n')) : Accounts cap (evs ++ [.handed r]) n' := by
  obtain ⟨hs, rest, hb, rfl⟩ := Notifier.take?_eq_some ht
  have hacc : accepted [.handed r] = [] := rfl
  have hhand : handed [.handed r] = [r] := rfl
  have hret : returned [.handed r] = [] := rfl
  refine ⟨h.capacity, ?_, ?_, ?_, fun hst => ?_⟩
  · simp [hacc, hhand, ← h.fifo, hb]
  · simp [hhand, hret, ← h.inFlight, hs]
  · have := h.bounded
    simp only [hb, List.length_cons] at this
    dsimp only
    omega
  · -- the loop had not ended, since a result was waiting
    have := (Notifier.drained_eq_true.mp (h.stopped hst)).2.1
    rw [hb] at this
    cases this

/-- The sender call under way returns, whatever it answered. -/
theorem finish (h : Accounts cap evs n) {failure : Option String} {r : TestResult}
    {n' : Notifier} (hf : n.finish? failure = some (r, n')) :
    Accounts cap (evs ++ [.returned r failure]) n' := by
  obtain ⟨hs, hb, hs', hcap, hst⟩ := Notifier.finish?_eq_some hf
  have hacc : accepted [.returned r failure] = [] := rfl
  have hhand : handed [.returned r failure] = [] := rfl
  have hret : returned [.returned r failure] = [r] := rfl
  refine ⟨hcap.trans h.capacity, ?_, ?_, hb ▸ h.bounded, fun hstop => ?_⟩
  · simpa [hb, hacc, hhand] using h.fifo
  · simp [hhand, hret, hs', ← h.inFlight, hs]
  · -- the loop had not ended, since a call was under way
    have := (Notifier.drained_eq_true.mp (h.stopped (hst ▸ hstop))).2.2
    rw [hs] at this
    cases this

/-- Every move keeps the accounts. -/
theorem step (h : Accounts cap evs n) (s : Step) :
    Accounts cap (evs ++ (n.step s).1.toList) (n.step s).2 := by
  cases s with
  | notify r =>
    rw [Notifier.step_notify]
    cases hc : n.closed
    · by_cases hr : n.backlog.length < n.capacity
      · rw [Notifier.notify_of_room hc hr]
        exact h.accept hc hr r
      · rw [Notifier.notify_of_full hc (Nat.le_of_not_lt hr)]
        exact h.quiet ⟨rfl, rfl, rfl⟩ rfl rfl rfl id .inl
    · rw [Notifier.notify_of_closed hc]
      exact h.quiet ⟨rfl, rfl, rfl⟩ rfl rfl rfl id .inl
  | close => exact h.quiet ⟨rfl, rfl, rfl⟩ rfl rfl rfl (fun _ => rfl) .inl
  | take =>
    rw [Notifier.step_take]
    cases ht : n.take? with
    | none => exact h.idle
    | some p => exact h.take ht
  | finish failure =>
    rw [Notifier.step_finish]
    cases hf : n.finish? failure with
    | none => exact h.idle
    | some p => exact h.finish hf
  | stop =>
    -- the loop ends only when drained, and ending changes nothing else
    by_cases hd : n.drained = true
    · simp only [Notifier.step, hd, if_true]
      exact h.quiet ⟨rfl, rfl, rfl⟩ rfl rfl rfl id fun _ => .inr hd
    · simp only [Notifier.step, hd]
      exact h.idle
  | closeReturns error =>
    simp only [Notifier.step]
    split
    · exact h.quiet ⟨rfl, rfl, rfl⟩ rfl rfl rfl id .inl
    · exact h.idle

/-- Every run keeps the accounts. -/
theorem run (h : Accounts cap evs n) (steps : List Step) :
    Accounts cap (evs ++ (n.run steps).1) (n.run steps).2 := by
  induction steps generalizing evs n with
  | nil => simpa [Notifier.run] using h
  | cons s rest ih =>
    rw [Notifier.run_cons, ← List.append_assoc]
    exact ih (h.step s)

/-- A close returns without error only once every result taken was handed to the sender and
every call of the sender has returned. -/
theorem returned_eq_accepted (h : Accounts cap evs n)
    (hret : (n.step (.closeReturns none)).1.isSome) :
    handed evs = accepted evs ∧ returned evs = handed evs := by
  have hst : n.stopped = true := by
    by_cases hs : n.stopped = true
    · exact hs
    · simp [Notifier.step, hs] at hret
  obtain ⟨-, hb, hs⟩ := Notifier.drained_eq_true.mp (h.stopped hst)
  exact ⟨by simpa [hb] using h.fifo, by simpa [hs] using h.inFlight⟩

/-- Once the loop has ended, a further close returns at once, without error, and leaves the
notifier as it was. -/
theorem close_after_stop (h : Accounts cap evs n) (hst : n.stopped = true) :
    n.run [.close, .closeReturns none] = ([.closeReturned none], n) := by
  have hc : n.closed = true := (Notifier.drained_eq_true.mp (h.stopped hst)).1
  -- closing again sets what is already set
  obtain ⟨_, _, closed, _, stopped, _, _⟩ := n
  simp only at hc hst
  subst hc hst
  simp [Notifier.run, Notifier.step, Notifier.markClosed]

end Accounts

/-- Over every run of a new notifier, whatever the sender answers: the backlog holds 256 results
when the size given is zero or less; a notify answers as `Notifier.notify_answers` says; the
sender is called with the results taken, in the order they were taken, each once, and the rest
wait; a close returns without error only when every result taken was handed to the sender and
every call has returned; and once the loop has ended, a further close returns at once, without
error, and changes nothing. -/
theorem notifier_sends_each_once (size : Int) :
    (Notifier.create size).capacity = (if size ≤ 0 then 256 else size.toNat) ∧
      (∀ (n : Notifier) (r : TestResult),
        ((n.notify r).1 = none ↔ n.closed = false ∧ n.backlog.length < n.capacity) ∧
          ((n.notify r).1 = some .closed ↔ n.closed = true) ∧
          ((n.notify r).1 = some .queueFull ↔
            n.closed = false ∧ n.capacity ≤ n.backlog.length) ∧
          (n.notify r).2.backlog =
            if (n.notify r).1 = none then n.backlog ++ [r] else n.backlog) ∧
      ∀ steps : List Step,
        let evs := ((Notifier.create size).run steps).1
        let n := ((Notifier.create size).run steps).2
        handed evs ++ n.backlog = accepted evs ∧
          returned evs ++ n.sending.toList = handed evs ∧
          n.backlog.length ≤ n.capacity ∧
          ((n.step (.closeReturns none)).1.isSome →
            handed evs = accepted evs ∧ returned evs = handed evs) ∧
          (n.stopped = true → n.run [.close, .closeReturns none] = ([.closeReturned none], n)) := by
  refine ⟨rfl, Notifier.notify_answers, fun steps => ?_⟩
  have h := (Accounts.init size).run steps
  simp only [List.nil_append] at h
  exact ⟨h.fifo, h.inFlight, h.capacity ▸ h.bounded, h.returned_eq_accepted,
    h.close_after_stop⟩

/-- Four results taken, the second refused by the sender, then a close: the sender gets all
four in order, the close returns without error, and a later result is refused. -/
example :
    let results : List TestResult := [{ testId := "T1" }, { testId := "bad" },
      { testId := "T2" }, { testId := "T3" }]
    let steps := results.map .notify ++
      [.close, .take, .finish none, .take, .finish (some "rejected"), .take, .finish none,
        .take, .finish none, .stop, .closeReturns none, .notify { testId := "late" }]
    let evs := ((Notifier.create 16).run steps).1
    handed evs = results ∧ returned evs = results ∧
      evs.getLast? = some (.notified { testId := "late" } (some .closed)) := by
  decide

end TestDispatch.Reporting
