import TestDispatch.Worker.RunLoop
import Mathlib.Logic.Relation
/-!
# Shutdown order of the worker's run loop

The runs of a worker, over every interleaving of the worker, its watcher, the source, the
endpoint and the caller's context, and every outcome of the source and of the endpoint's calls.

* `Step.cause_kept`: a run context that has ended keeps its cause.
* `CauseInv`: the run context ends for the endpoint's loss only once the endpoint has exited,
  for the caller's context only once that has ended, and by the worker's own cancel only after
  its check. `PhaseInv`: by where the worker is, what it has called and the errors it has
  gathered.
* `Inv.step`, `Inv.reachable`: every step keeps both, so every run does.

Main statement, `run_loop_shutdown`: a worker calls the endpoint's start, the source, the
notifier's drain and the endpoint's stop in that order, each at most once. A run that returns
either failed to start the endpoint, called nothing else and returns that failure alone; or it
made all four calls and returns the run's own error, then the drain's and the stop's failures.
The run's own error is the endpoint's loss exactly when the run context ended for that loss,
which happens only once the endpoint has exited, and which stays so once it has. A source that
returns only after its run context ended, under a caller's context that has not, thus makes the
run return the endpoint's loss.

The endpoint's exit does not decide that by itself: the watcher and the source race.
`endpoint_loss_races_source` gives a run where the endpoint exits while the source runs and the
run returns no error, and one where the source returns before the endpoint exits and the run
returns the endpoint's loss.
-/

open scoped List

namespace TestDispatch.Worker

/-- The calls before the source's: the endpoint's start, when there is an endpoint. -/
def openingCalls (endpoint : Bool) : List Call := if endpoint then [.start] else []

/-- The calls of a run whose endpoint started, in order: the start, the source, the drain and the
stop, with no start and no stop when there is no endpoint. -/
def shutdownCalls (endpoint : Bool) : List Call :=
  openingCalls endpoint ++ [.consume, .close] ++ if endpoint then [.stop] else []

/-- The errors a run whose endpoint started returns: its own, then the drain's and the stop's
failures. -/
def shutdownErrors (own : Option LoopError) (drain stop : Option String) : List LoopError :=
  own.toList ++ (drain.map .drain).toList ++ (stop.map .stop).toList

/-- The worker has read the run context's cause: the run context has ended, and the worker read
the endpoint's loss exactly when that is its cause. -/
def Settled (w : World) : Prop :=
  w.cause.isSome = true ∧ (w.lost = true ↔ w.cause = some .endpointLost)

/-- What the worker has called and gathered, by where it is. -/
def PhaseInv (endpoint : Bool) (w : World) : Prop :=
  match w.phase with
  | .starting => endpoint = true ∧ w.calls = []
  | .launching => w.calls = openingCalls endpoint
  | .consuming | .returned => w.calls = openingCalls endpoint ++ [.consume]
  | .joining => w.calls = openingCalls endpoint ++ [.consume] ∧ Settled w
  | .draining =>
    w.calls = openingCalls endpoint ++ [.consume] ∧ Settled w ∧
      w.errs = (runError w.lost w.runErr).toList
  | .stopping =>
    endpoint = true ∧ w.calls = openingCalls endpoint ++ [.consume, .close] ∧ Settled w ∧
      ∃ drain, w.errs = shutdownErrors (runError w.lost w.runErr) drain none
  | .finished =>
    (endpoint = true ∧ w.calls = [.start] ∧ ∃ why, w.errs = [.start why]) ∨
    (w.calls = shutdownCalls endpoint ∧ Settled w ∧
      ∃ drain stop, (endpoint = false → stop = none) ∧
        w.errs = shutdownErrors (runError w.lost w.runErr) drain stop)

/-- Whether the worker is past its check of the run context's cause, or has returned. -/
def Phase.afterCheck : Phase → Bool
  | .joining | .draining | .stopping | .finished => true
  | _ => false

/-- Why the run context has ended: for the endpoint's loss only once the endpoint has exited,
for the caller's context only once that has ended, and by the worker's own cancel only once the
worker is past its check. -/
structure CauseInv (w : World) : Prop where
  lost_exited : w.cause = some .endpointLost → w.exited = true
  parent_ended : ∀ e, w.cause = some (.parent e) → w.parent = some e
  canceled_checked : w.cause = some .canceled → w.phase.afterCheck = true

/-- The invariant of a worker's runs. -/
structure Inv (endpoint : Bool) (w : World) : Prop where
  cause : CauseInv w
  phase : PhaseInv endpoint w

variable {endpoint : Bool} {w w' : World}

/-! ## The run context's cause -/

/-- A run context that has ended keeps its cause. -/
theorem Step.cause_kept (h : Step endpoint w w') {c : Cause} (hc : w.cause = some c) :
    w'.cause = some c := by
  cases h <;> simp [hc]

theorem cause_kept_of_run (h : Relation.ReflTransGen (Step endpoint) w w') {c : Cause}
    (hc : w.cause = some c) : w'.cause = some c := by
  induction h with
  | refl => exact hc
  | tail _ hs ih => exact hs.cause_kept ih

/-- A cancel with the cause `c` leaves the run context with another cause `d` only when `d` was
already its cause. -/
theorem eq_of_or_eq {o : Option Cause} {c d : Cause} (h : o.or (some c) = some d) (hne : c ≠ d) :
    o = some d := by
  cases o with
  | none => exact absurd (Option.some.inj h) hne
  | some c' => exact h

/-- After the worker's check, the run context has ended, and the worker read the endpoint's loss
exactly when that is the cause. -/
theorem settled_check (w : World) :
    Settled { w with phase := .joining, lost := decide (w.cause = some .endpointLost),
                     cause := w.cause.or (some .canceled) } := by
  cases hc : w.cause <;> simp [Settled]

theorem Settled.kept (hs : Settled w) (hl : w'.lost = w.lost)
    (hk : ∀ c, w.cause = some c → w'.cause = some c) : Settled w' := by
  obtain ⟨hsome, hlost⟩ := hs
  obtain ⟨c, hc⟩ := Option.isSome_iff_exists.1 hsome
  rw [Settled, hl, hk c hc]
  rw [hc] at hlost
  exact ⟨rfl, hlost⟩

/-! ## The invariant -/

/-- A step that moves neither the worker nor its locals, and keeps an ended run context's cause,
keeps what the worker has called and gathered. -/
theorem PhaseInv.frame (h : PhaseInv endpoint w) (hp : w'.phase = w.phase)
    (hc : w'.calls = w.calls) (he : w'.errs = w.errs) (hl : w'.lost = w.lost)
    (hr : w'.runErr = w.runErr) (hk : ∀ c, w.cause = some c → w'.cause = some c) :
    PhaseInv endpoint w' := by
  have hs : Settled w → Settled w' := fun hs => hs.kept hl hk
  unfold PhaseInv at h ⊢
  rw [hp, hc, he, hl, hr]
  revert h
  cases w.phase with
  | starting | launching | consuming | returned => exact id
  | joining => exact fun ⟨h1, h2⟩ => ⟨h1, hs h2⟩
  | draining => exact fun ⟨h1, h2, h3⟩ => ⟨h1, hs h2, h3⟩
  | stopping => exact fun ⟨h1, h2, h3, h4⟩ => ⟨h1, h2, hs h3, h4⟩
  | finished => exact fun h => h.imp id fun ⟨h1, h2, h3⟩ => ⟨h1, hs h2, h3⟩

/-- A run context that has not ended has no cause to account for. -/
theorem CauseInv.of_running (h : w.cause = none) : CauseInv w :=
  ⟨fun hc => (nomatch h.symm.trans hc), fun _ hc => (nomatch h.symm.trans hc),
    fun hc => (nomatch h.symm.trans hc)⟩

/-- Before its check, the worker has not cancelled the run context. -/
theorem CauseInv.not_canceled (hi : CauseInv w) (hp : w.phase.afterCheck = false) :
    w.cause ≠ some .canceled := fun hc => by
  rw [hi.canceled_checked hc] at hp
  cases hp

/-- Every step keeps the account of the run context's cause. -/
theorem CauseInv.step (hi : CauseInv w) (h : Step endpoint w w') : CauseInv w' := by
  cases h with
  | startFailed why hp => exact ⟨hi.lost_exited, hi.parent_ended, fun _ => rfl⟩
  | started hp | launch hp | sourceReturns _ hp =>
    -- before its check the worker meets no cancel of its own
    exact ⟨hi.lost_exited, hi.parent_ended, fun hc => absurd hc (hi.not_canceled (by rw [hp]; rfl))⟩
  | check hp =>
    exact ⟨fun hc => hi.lost_exited (eq_of_or_eq hc nofun),
      fun e hc => hi.parent_ended e (eq_of_or_eq hc nofun), fun _ => rfl⟩
  | join hp hw => exact ⟨hi.lost_exited, hi.parent_ended, fun _ => rfl⟩
  | drain why hp =>
    refine ⟨hi.lost_exited, hi.parent_ended, fun _ => ?_⟩
    cases endpoint <;> rfl
  | stop why hp => exact ⟨hi.lost_exited, hi.parent_ended, fun _ => rfl⟩
  | watchExit hw hx =>
    exact ⟨fun _ => hx, fun e hc => hi.parent_ended e (eq_of_or_eq hc nofun),
      fun hc => hi.canceled_checked (eq_of_or_eq hc nofun)⟩
  | watchEnd hw hc => exact ⟨hi.lost_exited, hi.parent_ended, hi.canceled_checked⟩
  | exit he hx => exact ⟨fun _ => rfl, hi.parent_ended, hi.canceled_checked⟩
  | parentEnds e hp =>
    refine ⟨fun hc => hi.lost_exited (eq_of_or_eq hc nofun), fun e' hc => ?_,
      fun hc => hi.canceled_checked (eq_of_or_eq hc nofun)⟩
    -- the caller's context had not ended, so its cause is new only to a running run context
    cases hw : w.cause with
    | none =>
      rw [hw] at hc
      cases hc
      rfl
    | some c =>
      rw [hw] at hc
      have hparent := hi.parent_ended e' (hw.trans hc)
      rw [hp] at hparent
      cases hparent

/-- When the source returns, a run context that has ended while the caller's context has not
ended for the endpoint's loss. -/
theorem CauseInv.cause_of_returned (hi : CauseInv w) (hp : w.phase = .returned)
    (hparent : w.parent = none) {c : Cause} (hc : w.cause = some c) : c = .endpointLost := by
  cases c with
  | parent e =>
    have hended := hi.parent_ended e hc
    rw [hparent] at hended
    cases hended
  | canceled => exact absurd hc (hi.not_canceled (by rw [hp]; rfl))
  | endpointLost => rfl

theorem init_inv (endpoint : Bool) : Inv endpoint (World.init endpoint) := by
  -- a run context not yet made has not ended
  refine ⟨CauseInv.of_running rfl, ?_⟩
  cases endpoint
  · exact rfl
  · exact ⟨rfl, rfl⟩

/-- Every step keeps what the worker has called and gathered. -/
theorem PhaseInv.step (hi : PhaseInv endpoint w) (h : Step endpoint w w') :
    PhaseInv endpoint w' := by
  have hk : ∀ c, w.cause = some c → w'.cause = some c := fun c hc => h.cause_kept hc
  have hph := hi
  unfold PhaseInv at hph
  cases h with
  | startFailed why hp =>
    rw [hp] at hph
    obtain ⟨he, hcalls⟩ := hph
    exact .inl ⟨he, (by rw [hcalls]; rfl), why, rfl⟩
  | started hp =>
    rw [hp] at hph
    obtain ⟨he, hcalls⟩ := hph
    show _ = _
    rw [hcalls, he]
    rfl
  | launch hp =>
    rw [hp] at hph
    show _ = _
    rw [hph]
  | sourceReturns err hp =>
    rw [hp] at hph
    exact hph
  | check hp =>
    rw [hp] at hph
    exact ⟨hph, settled_check w⟩
  | join hp hw =>
    rw [hp] at hph
    exact ⟨hph.1, hph.2, rfl⟩
  | drain why hp =>
    rw [hp] at hph
    obtain ⟨hcalls, hs, herrs⟩ := hph
    cases endpoint
    · -- no endpoint to stop: the run returns
      refine .inr ⟨?_, hs, why, none, fun _ => rfl, ?_⟩
      · show w.calls ++ [.close] = _
        rw [hcalls]
        rfl
      · show w.errs ++ _ = _
        simp [herrs, shutdownErrors]
    · refine ⟨rfl, ?_, hs, why, ?_⟩
      · show w.calls ++ [.close] = _
        simp [hcalls]
      · show w.errs ++ _ = _
        simp [herrs, shutdownErrors]
  | stop why hp =>
    rw [hp] at hph
    obtain ⟨he, hcalls, hs, drain, herrs⟩ := hph
    subst he
    refine .inr ⟨?_, hs, drain, why, nofun, ?_⟩
    · show w.calls ++ [.stop] = _
      simp [hcalls, shutdownCalls, openingCalls]
    · show w.errs ++ _ = _
      simp [herrs, shutdownErrors]
  | watchExit _ _ | watchEnd _ _ | exit _ _ | parentEnds _ _ =>
    -- the watcher, the endpoint and the caller's context leave the worker where it is
    exact hi.frame rfl rfl rfl rfl rfl hk

/-- The step lemma: every step keeps the invariant. -/
theorem Inv.step (hi : Inv endpoint w) (h : Step endpoint w w') : Inv endpoint w' :=
  ⟨hi.cause.step h, hi.phase.step h⟩

/-- The run lemma: every world a run reaches keeps the invariant. -/
theorem Inv.reachable (h : Relation.ReflTransGen (Step endpoint) (World.init endpoint) w) :
    Inv endpoint w := by
  induction h with
  | refl => exact init_inv endpoint
  | tail _ hs ih => exact ih.step hs

theorem shutdownCalls_starts_with_consume (endpoint : Bool) :
    openingCalls endpoint ++ [.consume] <+: shutdownCalls endpoint :=
  ⟨.close :: if endpoint then [.stop] else [], by simp [shutdownCalls]⟩

/-- The calls so far are the first of a run's calls. -/
theorem PhaseInv.calls_prefix (h : PhaseInv endpoint w) : w.calls <+: shutdownCalls endpoint := by
  unfold PhaseInv at h
  revert h
  cases w.phase with
  | starting => exact fun ⟨_, h⟩ => h ▸ List.nil_prefix
  | launching =>
    exact fun h => h ▸ (List.prefix_append _ _).trans (shutdownCalls_starts_with_consume endpoint)
  | consuming | returned => exact fun h => h ▸ shutdownCalls_starts_with_consume endpoint
  | joining | draining => exact fun h => h.1 ▸ shutdownCalls_starts_with_consume endpoint
  | stopping =>
    rintro ⟨rfl, hc, -⟩
    exact ⟨[.stop], by simp [hc, shutdownCalls]⟩
  | finished =>
    rintro (⟨rfl, hc, -⟩ | ⟨hc, -⟩)
    · exact ⟨[.consume, .close, .stop], by rw [hc]; rfl⟩
    · exact hc ▸ List.prefix_refl _

/-! ## The shutdown order -/

/-- Whatever the source returns and whenever, whether or when the endpoint exits and the caller's
context ends, and whatever the endpoint's start, the drain and the endpoint's stop answer: the
worker's calls are always the first of the endpoint's start, the source, the drain and the
endpoint's stop, in that order. A run that returns either failed to start the endpoint, called
nothing else and returns that failure alone, or made all four calls (no start and no stop with
no endpoint) and returns its own error followed by the drain's and the stop's failures. Its own
error is the endpoint's loss exactly when the run context ended for that loss, which happens only
once the endpoint has exited, and a run context that ended for it stays so for the rest of the
run; otherwise it is the source's error, none when the source returned none or the context's
cancellation. A source that returns after its run context ended, while the caller's context has
not, returns after the run context ended for the endpoint's loss. -/
theorem run_loop_shutdown (endpoint : Bool) {w : World}
    (h : Relation.ReflTransGen (Step endpoint) (World.init endpoint) w) :
    w.calls <+: shutdownCalls endpoint ∧
    (w.cause = some .endpointLost → w.exited = true) ∧
    (∀ w', Relation.ReflTransGen (Step endpoint) w w' →
      ∀ c, w.cause = some c → w'.cause = some c) ∧
    (w.phase = .returned → w.parent = none → ∀ c, w.cause = some c → c = .endpointLost) ∧
    (w.phase = .finished →
      (endpoint = true ∧ w.calls = [.start] ∧ ∃ why, w.errs = [.start why]) ∨
      (w.calls = shutdownCalls endpoint ∧ (w.lost = true ↔ w.cause = some .endpointLost) ∧
        ∃ drain stop, (endpoint = false → stop = none) ∧
          w.errs = shutdownErrors (runError w.lost w.runErr) drain stop)) := by
  have hi := Inv.reachable h
  refine ⟨hi.phase.calls_prefix, hi.cause.lost_exited, fun w' hw' c hc => cause_kept_of_run hw' hc,
    fun hp hparent c hc => hi.cause.cause_of_returned hp hparent hc, fun hfin => ?_⟩
  have hph := hi.phase
  unfold PhaseInv at hph
  rw [hfin] at hph
  exact hph.imp id fun ⟨hc, hs, hrest⟩ => ⟨hc, hs.2, hrest⟩

/-- A source that stops with no error, an endpoint that starts and stops, and a drain that
succeeds: the run returns no error, after the endpoint's start, the source, the drain and the
endpoint's stop. -/
theorem stopped_source_shuts_down :
    ∃ w, Relation.ReflTransGen (Step true) (World.init true) w ∧ w.phase = .finished ∧
      w.errs = [] ∧ w.calls = [.start, .consume, .close, .stop] := by
  have hrun : Relation.ReflTransGen (Step true) (World.init true) _ :=
    .head (Step.started rfl) <| .head (Step.launch rfl) <| .head (Step.sourceReturns none rfl) <|
      .head (Step.check rfl) <| .head (Step.watchEnd rfl rfl) <| .head (Step.join rfl rfl) <|
      .head (Step.drain none rfl) <| .single (Step.stop none rfl)
  refine ⟨_, hrun, rfl, rfl, ?_⟩
  -- the calls are those of every run whose endpoint started
  have hfin := (run_loop_shutdown true hrun).2.2.2.2 rfl
  cases hfin with
  | inl h => exact absurd (congrArg List.length h.2.1) (by decide)
  | inr h => exact h.1

/-- The endpoint's exit and the source race, so the endpoint's exit alone does not decide the
run's error. In the first run the endpoint exits while the source runs, the source then stops
with no error before the watcher sees the exit, and the run returns no error. In the second the
source stops with no error before the endpoint exits, the watcher cancels the run context before
the worker reads its cause, and the run returns the endpoint's loss. -/
theorem endpoint_loss_races_source :
    (∃ w₁ w₂, Relation.ReflTransGen (Step true) (World.init true) w₁ ∧
      w₁.phase = .consuming ∧ w₁.exited = true ∧ Relation.ReflTransGen (Step true) w₁ w₂ ∧
      w₂.phase = .finished ∧ w₂.runErr = none ∧ w₂.errs = []) ∧
    (∃ w₁ w₂, Relation.ReflTransGen (Step true) (World.init true) w₁ ∧
      w₁.phase = .returned ∧ w₁.runErr = none ∧ w₁.exited = false ∧
      Relation.ReflTransGen (Step true) w₁ w₂ ∧ w₂.phase = .finished ∧
      w₂.errs = [.endpointLost]) := by
  refine ⟨⟨_, _,
      .head (Step.started rfl) <| .head (Step.launch rfl) <| .single (Step.exit rfl rfl), rfl, rfl,
      -- the worker reads the cause before the watcher runs
      .head (Step.sourceReturns none rfl) <| .head (Step.check rfl) <|
        .head (Step.watchEnd rfl rfl) <| .head (Step.join rfl rfl) <|
        .head (Step.drain none rfl) <| .single (Step.stop none rfl), rfl, rfl, rfl⟩,
    ⟨_, _,
      .head (Step.started rfl) <| .head (Step.launch rfl) <| .single (Step.sourceReturns none rfl),
      rfl, rfl, rfl,
      -- the watcher cancels the run context before the worker reads the cause
      .head (Step.exit rfl rfl) <| .head (Step.watchExit rfl rfl) <| .head (Step.check rfl) <|
        .head (Step.join rfl rfl) <| .head (Step.drain none rfl) <| .single (Step.stop none rfl),
      rfl, rfl⟩⟩

end TestDispatch.Worker
