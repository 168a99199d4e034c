import Mathlib.Data.Finset.Card
import TestDispatch.Proofs.Lock.Calls
/-!
# Each sweep of an acquire ends

An acquire sweeps its candidates: it finds one that looks free and tries to lock it; when
another holder took it in between, it drops every copy of that candidate and looks again. The
loop keeps no counter. What bounds it is the number of distinct candidates left, which drops by
one each round because finding only ever answers a candidate of the list it was given.

Everything here is said of the calls as programs (`Prog`), whatever the backend answers each
primitive: a backend of any behaviour, shared with any number of other holders.

* `Prog.Ensures P p`: every answer `p` can give satisfies `P`, whatever its calls are answered;
  it passes through `bind` (`Ensures.bind`), and a program continued alike on every answer it
  can give is one program (`bind_congr_of_ensures`).
* `findProg_mem`: finding answers only a candidate of its list.
* `card_filter_ne`: dropping every copy of a candidate leaves one distinct candidate fewer.
* `sweepProg_eq_of_card_le`: a sweep is the same program for every fuel that covers its distinct
  candidates, so the fuel never cuts a sweep short.
* `sweepProg_attempts`: a sweep makes at most one lock attempt per distinct candidate.
* `acquireProg_answers`: an acquire answers a candidate, or fails only at its deadline or for an
  empty list, which it refuses before any call.
* `acquire_sweeps_end`: all of it together, with the lock that decides each target taken.
-/

namespace TestDispatch

namespace Prog

variable {α β : Type}

/-- Every answer the program can give, whatever its calls are answered, satisfies `P`. -/
inductive Ensures (P : α → Prop) : Prog α → Prop
  | done {a : α} : P a → Ensures P (.done a)
  | call {c : Call} {next : Except BackendError c.Reply → Prog α} :
      (∀ r, Ensures P (next r)) → Ensures P (.call c next)

/-- Any program ensures what every answer satisfies. -/
theorem Ensures.of_forall {P : α → Prop} (hP : ∀ a, P a) (p : Prog α) : p.Ensures P := by
  induction p with
  | done a => exact .done (hP a)
  | call c next ih => exact .call ih

theorem Ensures.mono {P Q : α → Prop} {p : Prog α} (hp : p.Ensures P) (hPQ : ∀ a, P a → Q a) :
    p.Ensures Q := by
  induction hp with
  | done ha => exact .done (hPQ _ ha)
  | call _ ih => exact .call ih

theorem Ensures.bind {P : α → Prop} {Q : β → Prop} {p : Prog α} {f : α → Prog β}
    (hp : p.Ensures P) (hf : ∀ a, P a → (f a).Ensures Q) : (p >>= f).Ensures Q := by
  induction hp with
  | done ha => exact hf _ ha
  | call _ ih => exact .call ih

/-- Two continuations that agree on every answer a program can give continue it alike. -/
theorem bind_congr_of_ensures {P : α → Prop} {p : Prog α} {f g : α → Prog β}
    (hp : p.Ensures P) (hfg : ∀ a, P a → f a = g a) : p >>= f = p >>= g := by
  induction hp with
  | done ha => exact hfg _ ha
  | call _ ih =>
    simp only [call_bind]
    exact congrArg (Prog.call _) (funext ih)

end Prog

open Prog

/-- Dropping every copy of a candidate of the list leaves one distinct candidate fewer. -/
theorem card_filter_ne {cs : List String} {t : String} (ht : t ∈ cs) :
    (cs.filter (· ≠ t)).toFinset.card + 1 = cs.toFinset.card := by
  rw [List.toFinset_filter]
  simp only [decide_eq_true_eq]
  rw [Finset.filter_ne', Finset.card_erase_add_one (List.mem_toFinset.mpr ht)]

theorem card_pos_of_mem {cs : List String} {t : String} (ht : t ∈ cs) : 0 < cs.toFinset.card :=
  Finset.card_pos.mpr ⟨t, List.mem_toFinset.mpr ht⟩

section Sweep

variable (holder : String)

/-- Finding answers only a candidate of the list it was given. -/
theorem findProg_mem (cs : List String) :
    (findProg cs).Ensures fun r => ∀ t, r = .ok t → t ∈ cs := by
  induction cs with
  | nil => exact .done fun t h => by cases h
  | cons id rest ih =>
    -- every branch answers `id` itself or goes on with the rest of the list
    have hrest : (findProg rest).Ensures fun r => ∀ t, r = .ok t → t ∈ id :: rest :=
      ih.mono fun r hr t ht => List.mem_cons_of_mem id (hr t ht)
    have hid : ∀ t, (Except.ok id : Except LockError String) = .ok t → t ∈ id :: rest :=
      fun t ht => by cases ht; exact List.mem_cons_self
    refine (Ensures.of_forall (fun _ => trivial) _).bind fun r _ => ?_
    split
    · exact hrest
    · refine (Ensures.of_forall (fun _ => trivial) _).bind fun r _ => ?_
      split
      · exact .done hid
      · refine (Ensures.of_forall (fun _ => trivial) _).bind fun r _ => ?_
        split
        · split
          · exact .done hid
          · exact hrest
        · exact hrest
        · exact hrest
      · exact hrest
    · split
      · exact .done hid
      · exact hrest

/-- A sweep is one program whatever fuel it is given, as long as the fuel covers its distinct
candidates: each round drops one of them, so the fuel never runs out first. -/
theorem sweepProg_eq_of_card_le (fuel : Nat) (cs : List String) (h : cs.toFinset.card ≤ fuel) :
    sweepProg holder fuel cs = sweepProg holder cs.toFinset.card cs := by
  induction fuel generalizing cs with
  | zero => rw [Nat.le_zero.mp h]
  | succ fuel ih =>
    cases hcard : cs.toFinset.card with
    | zero =>
      -- no candidate at all: finding fails at once, whatever the fuel
      obtain rfl : cs = [] := (List.toFinset_eq_empty_iff cs).mp (Finset.card_eq_zero.mp hcard)
      rfl
    | succ k =>
      simp only [sweepProg]
      refine bind_congr_of_ensures (findProg_mem cs) fun r hr => ?_
      rcases r with e | target
      · rfl
      · have hmem := hr target rfl
        refine congrArg (lockProg holder target >>= ·) (funext fun a => ?_)
        cases a with
        | busy =>
          -- the rest has one distinct candidate fewer, which both fuels cover
          have hrest := card_filter_ne hmem
          have hk : (cs.filter (· ≠ target)).toFinset.card = k := by omega
          simp only
          rw [ih _ (by omega), hk]
        | _ => rfl

/-- A sweep makes at most one lock attempt per distinct candidate. -/
theorem sweepProg_attempts (fuel : Nat) (cs : List String) :
    (sweepProg holder fuel cs).Ensures fun x => x.2.length ≤ cs.toFinset.card := by
  induction fuel generalizing cs with
  | zero => exact .done (by simp)
  | succ fuel ih =>
    refine (findProg_mem cs).bind fun r hr => ?_
    rcases r with e | target
    · exact .done (by simp)
    · have hpos := card_pos_of_mem (hr target rfl)
      refine (Ensures.of_forall (fun _ => trivial) _).bind fun a _ => ?_
      cases a with
      | busy =>
        have hrest := card_filter_ne (hr target rfl)
        dsimp only
        split
        · exact .done (by simpa using hpos)
        · exact (ih _).bind fun y hy => .done (by simp; omega)
      | _ => exact .done (by simpa using hpos)

/-- A sweep answers only a candidate of its list. -/
theorem sweepProg_mem (fuel : Nat) (cs : List String) :
    (sweepProg holder fuel cs).Ensures fun x => ∀ t, x.1 = some t → t ∈ cs := by
  induction fuel generalizing cs with
  | zero => exact .done fun t h => by cases h
  | succ fuel ih =>
    refine (findProg_mem cs).bind fun r hr => ?_
    rcases r with e | target
    · exact .done fun t h => by cases h
    · refine (Ensures.of_forall (fun _ => trivial) _).bind fun a _ => ?_
      have hfound : ∀ t, some target = some t → t ∈ cs := fun t ht => by
        cases ht
        exact hr target rfl
      cases a with
      | busy =>
        dsimp only
        split
        · exact .done fun t h => by cases h
        · exact (ih _).bind fun y hy =>
            .done fun t ht => List.mem_of_mem_filter (hy t ht)
      | failed e => exact .done fun t h => by cases h
      | acquired => exact .done hfound
      | registered => exact .done hfound

theorem sweepsProg_mem (cs : List String) (rounds : Nat) :
    (sweepsProg holder cs rounds).Ensures fun x => ∀ t, x.1 = some t → t ∈ cs := by
  induction rounds with
  | zero => exact sweepProg_mem holder _ _
  | succ rounds ih =>
    refine (sweepProg_mem holder _ _).bind fun y hy => ?_
    obtain ⟨taken, attempts⟩ := y
    cases taken with
    | some target => exact .done hy
    | none => exact ih.bind fun z hz => .done hz

/-- An acquire answers a candidate of its list; it fails only when its deadline passes, or for an
empty list. -/
theorem acquireProg_answers (cs : List String) (timeout : Int) (rounds : Nat) :
    (acquireProg holder cs timeout rounds).Ensures fun x =>
      (∀ t, x.1 = .ok t → t ∈ cs) ∧
        ∀ e, x.1 = .error e → e = .deadline ∨ (e = .noCandidates ∧ cs = []) := by
  unfold acquireProg
  split
  · rename_i hnil
    exact .done ⟨fun t h => (by cases h), fun e h => by cases h; simpa using hnil⟩
  · split
    · exact .done ⟨fun t h => (by cases h), fun e h => by cases h; simp⟩
    · refine (sweepsProg_mem holder cs rounds).bind fun y hy => ?_
      split
      · exact .done ⟨fun t h => (by cases h; exact hy _ rfl), fun e h => by cases h⟩
      · exact .done ⟨fun t h => (by cases h), fun e h => by cases h; simp⟩

/-- An acquire of no candidates is refused before any call to the backend. -/
theorem acquireProg_nil (timeout : Int) (rounds : Nat) :
    acquireProg holder [] timeout rounds = .done (.error .noCandidates, []) := rfl

end Sweep

/-- Acquiring is correct and each of its sweeps ends, whatever the backend answers: the sweep an
acquire runs is the same program for every fuel that covers the distinct candidates, the
list's length among them, so it ends by itself, and it makes at most one lock attempt per
distinct candidate. An acquire answers a target only right after the primitive that won it for
its holder (a conditional update that selected it, or its registration as held: a lock that
answered `true`), and only a candidate of its list. Given no candidates it is refused with an
error that wraps the one of no target available, before any call. Otherwise it fails only when
its deadline passes. -/
theorem acquire_sweeps_end (holder : String) (cs : List String) (timeout : Int) (rounds : Nat) :
    (∀ extra, sweepProg holder (cs.toFinset.card + extra) cs =
      sweepProg holder cs.toFinset.card cs) ∧
    sweepProg holder cs.length cs = sweepProg holder cs.toFinset.card cs ∧
    (sweepProg holder cs.length cs).Ensures (fun x => x.2.length ≤ cs.toFinset.card) ∧
    (acquireProg holder cs timeout rounds).Decides
      (fun c r x => ∀ t, x.1 = .ok t → c.Wins holder t r) ∧
    (acquireProg holder cs timeout rounds).Ensures (fun x =>
      (∀ t, x.1 = .ok t → t ∈ cs) ∧
        ∀ e, x.1 = .error e → e = .deadline ∨ (e = .noCandidates ∧ cs = [])) ∧
    acquireProg holder [] timeout rounds = .done (.error .noCandidates, []) ∧
    LockError.noCandidates.message = "acquire: " ++ LockError.noTarget.message :=
  ⟨fun extra => sweepProg_eq_of_card_le holder _ cs (by omega),
    sweepProg_eq_of_card_le holder _ cs (List.toFinset_card_le cs),
    sweepProg_attempts holder _ cs,
    acquireProg_decides holder cs timeout rounds,
    acquireProg_answers holder cs timeout rounds,
    acquireProg_nil holder timeout rounds,
    rfl⟩

end TestDispatch
