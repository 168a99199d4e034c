import TestDispatch.Dispatch.Consumer
/-!
# The consumer's commit policy

A run splits its partition into the records it processed and the records it never polled. What
it did with the processed ones is fixed by how it ended:

* every record it got past was settled: its item, if it has one, handed to the handler, then
  the record committed;
* a run that stopped got past every record before the stop message, and settled that too;
* a run that failed got past every record before the one whose handler call failed, handed
  that record's item and committed nothing more;
* a run that ended with its context got past every record it polled, and had found the context
  done by the look after the last one;
* every processed record is counted once, by its outcome.

Main result:

* `consumer_commit_policy`: the above, for every partition, handler and context.
-/

namespace TestDispatch.Dispatch

namespace Record

/-- The item a record hands to the handler: its ticket's item, unless it is no ticket or the
stop message. -/
def work? (r : Record) : Option WorkItem :=
  match Ticket.decode r.value with
  | .ok item => if item.isStop then none else some item
  | .error _ => none

/-- Whether a record is the stop message. -/
def isStop (r : Record) : Bool :=
  match Ticket.decode r.value with
  | .ok item => item.isStop
  | .error _ => false

/-- The outcome a record is counted with when the run gets past it. -/
def label (r : Record) : String :=
  match Ticket.decode r.value with
  | .ok item => if item.isStop then "stop" else "ok"
  | .error _ => "invalid"

/-- What a consumer does with a record it gets past: hands over its item, if it has one, and
then commits it. -/
def settled (r : Record) : List Event := r.work?.toList.map .handle ++ [.commit r.offset]

end Record

/-- A counter family after one more count for each of the given outcomes, in order. -/
def countEach (f : CounterFamily) (results : List String) : CounterFamily :=
  results.foldl (fun f result => f.inc [result]) f

/-- A run gets past every record of a list, the handler having been handed `hist` before: no
record is the stop message, and the handler succeeds on each item, given the items before it. -/
def Passes (h : Handler) : List WorkItem → List Record → Prop
  | _, [] => True
  | hist, r :: rs =>
    r.isStop = false ∧ (∀ item, r.work? = some item → h hist item = none) ∧
      Passes h (hist ++ r.work?.toList) rs

namespace Consumer

/-- The consumer after it got past a record. -/
def settle (c : Consumer) (r : Record) : Consumer :=
  { events := c.events ++ r.settled, consumed := c.consumed.inc [r.label] }

/-- The consumer after it got past each of a list of records. -/
def settleAll (c : Consumer) (rs : List Record) : Consumer := rs.foldl settle c

theorem settle_handled (c : Consumer) (r : Record) :
    (c.settle r).handled = c.handled ++ r.work?.toList := by
  rcases hw : r.work? with _ | item <;>
    simp [settle, Record.settled, hw, handled, List.filterMap_append]

@[simp] theorem settleAll_nil (c : Consumer) : c.settleAll [] = c := rfl

@[simp] theorem settleAll_cons (c : Consumer) (r : Record) (rs : List Record) :
    c.settleAll (r :: rs) = (c.settle r).settleAll rs := rfl

theorem settleAll_events (c : Consumer) (rs : List Record) :
    (c.settleAll rs).events = c.events ++ rs.flatMap Record.settled := by
  induction rs generalizing c with
  | nil => simp
  | cons r rs ih => simp [ih, settle]

theorem settleAll_consumed (c : Consumer) (rs : List Record) :
    (c.settleAll rs).consumed = countEach c.consumed (rs.map Record.label) := by
  induction rs generalizing c with
  | nil => rfl
  | cons r rs ih => simp [ih, settle, countEach]

theorem settleAll_handled (c : Consumer) (rs : List Record) :
    (c.settleAll rs).handled = c.handled ++ rs.filterMap Record.work? := by
  induction rs generalizing c with
  | nil => simp
  | cons r rs ih =>
    rw [settleAll_cons, ih, settle_handled, List.filterMap_cons]
    rcases r.work? with _ | item <;> simp

end Consumer

/-- What processing one record can do: settle the stop message and stop, settle a record the
run gets past and go on, or hand over an item whose handler call fails and fail on it. -/
theorem process_cases (h : Handler) (c : Consumer) (r : Record) :
    (r.isStop = true ∧ process h c r = (.stop, c.settle r)) ∨
    (r.isStop = false ∧ (∀ item, r.work? = some item → h c.handled item = none) ∧
      process h c r = (.next, c.settle r)) ∨
    (∃ item reason, r.work? = some item ∧ h c.handled item = some reason ∧
      process h c r = (.failed item reason, (c.emit (.handle item)).count "error")) := by
  have hsettle : c.settle r =
      { events := c.events ++ r.work?.toList.map .handle ++ [.commit r.offset],
        consumed := c.consumed.inc [r.label] } := by
    simp [Consumer.settle, Record.settled]
  rw [hsettle]
  unfold process Record.isStop Record.work? Record.label
  rcases hdec : Ticket.decode r.value with err | item
  · -- no ticket
    simp [Consumer.emit, Consumer.count]
  · by_cases hstop : item.isStop = true
    · simp [Consumer.emit, Consumer.count, hstop]
    · cases hh : h c.handled item <;> simp [Consumer.emit, Consumer.count, hstop, hh]

/-- What a run from a given look did, by how it ended, having processed `done` and left `rest`
unpolled. -/
def RunSpec (ctx : Context) (h : Handler) (look : Nat) (c : Consumer) (done rest : List Record) :
    RunEnd × Consumer → Prop
  | (.stopped, c') => ∃ pre r, done = pre ++ [r] ∧ Passes h c.handled pre ∧ r.isStop = true ∧
      c' = c.settleAll done
  | (.failed item reason, c') => ∃ pre r, done = pre ++ [r] ∧ Passes h c.handled pre ∧
      r.work? = some item ∧ h (c.settleAll pre).handled item = some reason ∧
      c' = ((c.settleAll pre).emit (.handle item)).count "error"
  | (.cancelled e, c') => e = ctx.err ∧ Passes h c.handled done ∧ c' = c.settleAll done ∧
      ∃ d, ctx.doneAt = some d ∧ (rest ≠ [] → d ≤ look + 2 * done.length + 1)
  | (.polling, c') => ctx.doneAt = none ∧ rest = [] ∧ Passes h c.handled done ∧
      c' = c.settleAll done

/-- A run that got past one more record first, two looks earlier. -/
theorem RunSpec.cons {ctx : Context} {h : Handler} {look : Nat} {c : Consumer} {r : Record}
    {done rest : List Record} {e : RunEnd × Consumer} (hr : r.isStop = false)
    (hok : ∀ item, r.work? = some item → h c.handled item = none)
    (hspec : RunSpec ctx h (look + 2) (c.settle r) done rest e) :
    RunSpec ctx h look c (r :: done) rest e := by
  have hpass : ∀ rs, Passes h (c.settle r).handled rs → Passes h c.handled (r :: rs) :=
    fun rs hp => ⟨hr, hok, Consumer.settle_handled c r ▸ hp⟩
  obtain ⟨e, c'⟩ := e
  cases e with
  | stopped =>
    obtain ⟨pre, s, rfl, hp, hs, rfl⟩ := hspec
    exact ⟨r :: pre, s, rfl, hpass pre hp, hs, rfl⟩
  | failed item reason =>
    obtain ⟨pre, s, rfl, hp, hs, hh, rfl⟩ := hspec
    exact ⟨r :: pre, s, rfl, hpass pre hp, hs, hh, rfl⟩
  | cancelled e =>
    obtain ⟨rfl, hp, rfl, d, hd, hbound⟩ := hspec
    refine ⟨rfl, hpass done hp, rfl, d, hd, fun hne => ?_⟩
    have := hbound hne
    simp only [List.length_cons]
    omega
  | polling =>
    obtain ⟨hnone, rfl, hp, rfl⟩ := hspec
    exact ⟨hnone, rfl, hpass done hp, rfl⟩

theorem Context.isDone_iff {ctx : Context} {look : Nat} :
    ctx.isDone look = true ↔ ∃ d, ctx.doneAt = some d ∧ d ≤ look := by
  unfold Context.isDone
  split <;> simp_all

/-- The run lemma: from a look that does not yet find the context done, a run processes a prefix
of its records, and `RunSpec` says what it did with them. -/
theorem runFrom_spec (ctx : Context) (h : Handler) (rs : List Record) (look : Nat) (c : Consumer)
    (hlook : ∀ d, ctx.doneAt = some d → look ≤ d) :
    ∃ done rest, rs = done ++ rest ∧ (∀ d, ctx.doneAt = some d → look + 2 * done.length ≤ d) ∧
      RunSpec ctx h look c done rest (runFrom ctx h rs look c) := by
  induction rs generalizing look c with
  | nil =>
    refine ⟨[], [], rfl, by simpa using hlook, ?_⟩
    rcases hd : ctx.doneAt with _ | d <;> simp [runFrom, RunSpec, hd, Passes]
  | cons r rs ih =>
    by_cases hdone : (ctx.isDone look || ctx.isDone (look + 1)) = true
    · -- a look around the poll of `r` finds the context done
      obtain ⟨d, hd, hle⟩ : ∃ d, ctx.doneAt = some d ∧ d ≤ look + 1 := by
        simp only [Bool.or_eq_true, Context.isDone_iff] at hdone
        rcases hdone with ⟨d, hd, hle⟩ | ⟨d, hd, hle⟩ <;> exact ⟨d, hd, by omega⟩
      refine ⟨[], r :: rs, rfl, by simpa using hlook, ?_⟩
      simp only [runFrom, hdone, if_true]
      exact ⟨rfl, trivial, rfl, d, hd, fun _ => by simpa using hle⟩
    · -- both looks find the context running: the record is processed
      have hlater : ∀ d, ctx.doneAt = some d → look + 2 ≤ d := by
        intro d hd
        have : ¬d ≤ look + 1 := fun hle =>
          hdone (by simp [Context.isDone_iff.mpr ⟨d, hd, hle⟩])
        omega
      rcases process_cases h c r with ⟨hs, hp⟩ | ⟨hs, hok, hp⟩ | ⟨item, reason, hw, hh, hp⟩
      · refine ⟨[r], rs, rfl, fun d hd => by simpa using hlater d hd, ?_⟩
        simp only [runFrom, hdone, hp, Bool.false_eq_true, if_false]
        exact ⟨[], r, rfl, trivial, hs, rfl⟩
      · obtain ⟨done, rest, hrs, hbound, hspec⟩ := ih (look + 2) (c.settle r) hlater
        refine ⟨r :: done, rest, by rw [hrs]; rfl, fun d hd => ?_, ?_⟩
        · have := hbound d hd
          simp only [List.length_cons]
          omega
        · simp only [runFrom, hdone, hp, Bool.false_eq_true, if_false]
          exact RunSpec.cons hs hok hspec
      · refine ⟨[r], rs, rfl, fun d hd => by simpa using hlater d hd, ?_⟩
        simp only [runFrom, hdone, hp, Bool.false_eq_true, if_false]
        exact ⟨[], r, rfl, trivial, hw, hh, rfl⟩

/-- The consumer's commit policy. A run processes a prefix `done` of its partition and never
polls the rest. Every record it gets past is settled, in order: its item handed to the handler,
if it has one, and then the record committed. It gets past records until it meets the stop
message, which it settles and returns no error at; or a handler call that fails, after which it
commits nothing and returns the handler's error wrapped with the item's ticket and tag; or a look
at its context that finds it done, when it returns the context's error. A run whose partition
drains under a context that never ends keeps polling. Each processed record is counted once, by
its outcome. -/
theorem consumer_commit_policy (ctx : Context) (h : Handler) (rs : List Record) (c : Consumer) :
    ∃ done rest, rs = done ++ rest ∧ (∀ d, ctx.doneAt = some d → 2 * done.length ≤ d) ∧
      match run ctx h rs c with
      | (.stopped, c') =>
        ∃ pre r, done = pre ++ [r] ∧ Passes h c.handled pre ∧ r.isStop = true ∧
          RunEnd.stopped.error? = none ∧
          c'.events = c.events ++ done.flatMap Record.settled ∧
          c'.consumed = countEach c.consumed (done.map Record.label)
      | (.failed item reason, c') =>
        ∃ pre r, done = pre ++ [r] ∧ Passes h c.handled pre ∧ r.work? = some item ∧
          h (c.handled ++ pre.filterMap Record.work?) item = some reason ∧
          (RunEnd.failed item reason).error? =
            some ("handle ticket " ++ item.ticket ++ "/" ++ item.tag ++ ": " ++ reason) ∧
          c'.events = c.events ++ pre.flatMap Record.settled ++ [.handle item] ∧
          c'.consumed = countEach c.consumed (pre.map Record.label ++ ["error"])
      | (.cancelled e, c') =>
        e = ctx.err ∧ (RunEnd.cancelled e).error? = some ctx.err.message ∧
          (∃ d, ctx.doneAt = some d ∧ (rest ≠ [] → d ≤ 2 * done.length + 1)) ∧
          Passes h c.handled done ∧
          c'.events = c.events ++ done.flatMap Record.settled ∧
          c'.consumed = countEach c.consumed (done.map Record.label)
      | (.polling, c') =>
        ctx.doneAt = none ∧ rest = [] ∧ Passes h c.handled done ∧
          c'.events = c.events ++ done.flatMap Record.settled ∧
          c'.consumed = countEach c.consumed (done.map Record.label) := by
  obtain ⟨done, rest, hrs, hbound, hspec⟩ :=
    runFrom_spec ctx h rs 0 c (fun d _ => Nat.zero_le d)
  refine ⟨done, rest, hrs, by simpa using hbound, ?_⟩
  unfold run
  generalize runFrom ctx h rs 0 c = e at hspec
  obtain ⟨e, c'⟩ := e
  cases e with
  | stopped =>
    obtain ⟨pre, r, rfl, hp, hs, rfl⟩ := hspec
    exact ⟨pre, r, rfl, hp, hs, rfl, Consumer.settleAll_events c _,
      Consumer.settleAll_consumed c _⟩
  | failed item reason =>
    obtain ⟨pre, r, rfl, hp, hw, hh, rfl⟩ := hspec
    refine ⟨pre, r, rfl, hp, hw, Consumer.settleAll_handled c pre ▸ hh, rfl, ?_, ?_⟩
    · simp [Consumer.emit, Consumer.count, Consumer.settleAll_events]
    · simp [Consumer.emit, Consumer.count, Consumer.settleAll_consumed, countEach]
  | cancelled e =>
    obtain ⟨rfl, hp, rfl, d, hd, hle⟩ := hspec
    exact ⟨rfl, rfl, ⟨d, hd, fun hne => by simpa using hle hne⟩, hp,
      Consumer.settleAll_events c done, Consumer.settleAll_consumed c done⟩
  | polling =>
    obtain ⟨hnone, rfl, hp, rfl⟩ := hspec
    exact ⟨hnone, rfl, hp, Consumer.settleAll_events c done, Consumer.settleAll_consumed c done⟩

end TestDispatch.Dispatch
