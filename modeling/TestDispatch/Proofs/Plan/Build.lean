import TestDispatch.Plan
/-!
# Which requested ids a plan takes

`Plan.build` considers every requested id in request order. An id is planned when the universe
has it, it is not skipped and the index files it under a tag (`Plan.eligible`); it is planned once,
at its first request. Any other id is listed apart at each of its requests, in the list of the
first check it fails: the universe, then the skip list, then the index.

`Plan.Tracks ids p` says what a plan holds after the ids `ids` were requested: its planned ids are
the eligible ones of `ids` without repeats, in order of first request, each filed as the index
says, and its other lists are the occurrences of `ids` that fail each check.

* `Plan.Tracks.consider`: considering one more id keeps the plan so;
* `Plan.tracks_build`: so the plan of any requests tracks all the ids they name;
* `Plan.length_requested`: every requested id is counted once, as an eligible request or in
  exactly one of the three lists.

A batch is filed under its earliest requested id, found by a minimum search over positions
(`Plan.earliest`): the search answers one of its ids (`Plan.earliest_mem`), of least position
(`Plan.earliest_le`).
-/

namespace TestDispatch

namespace Plan

variable (u : Universe) (c : Classify.Classification)

/-- Whether a requested id gets planned: the universe has it, it is not skipped, and the index
files it under a tag. -/
def eligible (id : String) : Bool :=
  u.has id && !c.isSkipped id && (c.index.lookup? id).isSome

/-- What a plan holds after the ids `ids` were requested in order. -/
structure Tracks (ids : List String) (p : Plan) : Prop where
  /-- The planned ids are the eligible requested ones, each at its first request. -/
  planned_ids : p.planned.map (·.id) = (ids.filter (eligible u c)).eraseDups
  /-- Each planned test has the tag and mode the index files its id under. -/
  filed : ∀ t ∈ p.planned, (c.index.lookup? t.id).map (fun m => (m.tag, m.parallel)) =
    some (t.tag, t.parallel)
  unknown : p.unknown = ids.filter fun id => !u.has id
  skipped : p.skipped = ids.filter fun id => u.has id && c.isSkipped id
  unclassified : p.unclassified =
    ids.filter fun id => u.has id && !c.isSkipped id && (c.index.lookup? id).isNone

theorem tracks_nil : Tracks u c [] {} where
  planned_ids := rfl
  filed := fun _ h => by cases h
  unknown := rfl
  skipped := rfl
  unclassified := rfl

theorem find?_isSome_iff (p : Plan) (id : String) :
    (p.find? id).isSome ↔ id ∈ p.planned.map (·.id) := by
  simp [find?, List.find?_isSome, List.mem_map]

/-! ## The earliest of some ids -/

/-- One comparison of the minimum search: it goes on from the id of smaller position. -/
theorem earliest_cons (p : Plan) (first id : String) (rest : List String) :
    p.earliest first (id :: rest) =
      p.earliest (if p.position id < p.position first then id else first) rest := rfl

/-- The minimum search answers one of the ids it is given. -/
theorem earliest_mem (p : Plan) (first : String) (rest : List String) :
    p.earliest first rest ∈ first :: rest := by
  induction rest generalizing first with
  | nil => exact List.mem_singleton_self first
  | cons id rest ih =>
    rw [earliest_cons]
    have hmem := ih (if p.position id < p.position first then id else first)
    rcases List.mem_cons.mp hmem with heq | hrest
    · -- the search ended on the winner of the first comparison
      rw [heq]
      split
      · exact List.mem_cons_of_mem _ List.mem_cons_self
      · exact List.mem_cons_self
    · exact List.mem_cons_of_mem _ (List.mem_cons_of_mem _ hrest)

/-- No id given to the minimum search has a smaller position than its answer. -/
theorem earliest_le (p : Plan) (first : String) (rest : List String) :
    ∀ x ∈ first :: rest, p.position (p.earliest first rest) ≤ p.position x := by
  induction rest generalizing first with
  | nil =>
    intro x hx
    rw [List.mem_singleton.mp hx]
    exact Nat.le_refl _
  | cons id rest ih =>
    intro x hx
    rw [earliest_cons]
    -- the winner of the first comparison has a position no larger than `first` and `id`
    let w := if p.position id < p.position first then id else first
    have hw : p.position w ≤ p.position first ∧ p.position w ≤ p.position id := by
      by_cases h : p.position id < p.position first
      · simp only [w, if_pos h]
        omega
      · simp only [w, if_neg h]
        omega
    have hle := ih w
    rcases List.mem_cons.mp hx with rfl | hx
    · exact Nat.le_trans (hle w List.mem_cons_self) hw.1
    rcases List.mem_cons.mp hx with rfl | hx
    · exact Nat.le_trans (hle w List.mem_cons_self) hw.2
    · exact hle x (List.mem_cons_of_mem _ hx)

/-- One more request adds its id to the eligible ids without repeats, if it is eligible and
new. -/
theorem eraseDups_filter_append_singleton (f : String → Bool) (ids : List String) (id : String) :
    ((ids ++ [id]).filter f).eraseDups =
      (ids.filter f).eraseDups ++ if f id = true ∧ id ∉ ids then [id] else [] := by
  rw [List.filter_append, List.eraseDups_append]
  by_cases hf : f id = true
  · by_cases hid : id ∈ ids
    · simp [List.removeAll, hf, hid]
    · simp [List.removeAll, hf, hid, List.eraseDups_cons]
  · simp [hf]

variable {u c}

/-- Considering one more requested id keeps the plan tracking the ids requested. -/
theorem Tracks.consider {ids : List String} {p : Plan} (h : Tracks u c ids p) (ticket id : String) :
    Tracks u c (ids ++ [id]) (p.consider u c ticket id) := by
  have hplanned := h.planned_ids
  by_cases hp : (p.find? id).isSome
  · -- planned before: it was eligible, so it joins no list
    have hmem : id ∈ p.planned.map (·.id) := (find?_isSome_iff p id).mp hp
    rw [hplanned, List.mem_eraseDups, List.mem_filter] at hmem
    obtain ⟨hid, helig⟩ := hmem
    have helig' := helig
    simp only [eligible, Bool.and_eq_true, Bool.not_eq_true', Option.isSome_iff_exists] at helig'
    obtain ⟨⟨hhas, hskip⟩, m, hlook⟩ := helig'
    simp only [Plan.consider, hp, if_true]
    refine ⟨?_, h.filed, ?_, ?_, ?_⟩
    · rw [hplanned, eraseDups_filter_append_singleton]
      simp [hid]
    · simp [h.unknown, hhas]
    · simp [h.skipped, hskip]
    · simp [h.unclassified, hlook]
  · have hnew : id ∉ p.planned.map (·.id) := fun hm => hp ((find?_isSome_iff p id).mpr hm)
    have hnew' : ¬ (id ∈ ids ∧ eligible u c id = true) := by
      rw [hplanned, List.mem_eraseDups, List.mem_filter] at hnew
      exact hnew
    simp only [Plan.consider, hp, Bool.false_eq_true, if_false]
    by_cases hhas : u.has id = true
    · by_cases hskip : c.isSkipped id = true
      · -- skipped: listed apart with the skipped ids
        simp only [hhas, hskip, Bool.not_true, Bool.false_eq_true, if_true, if_false]
        refine ⟨?_, h.filed, ?_, ?_, ?_⟩
        · simp [hplanned, eligible, hskip]
        · simp [h.unknown, hhas]
        · simp [h.skipped, hhas, hskip]
        · simp [h.unclassified, hskip]
      · cases hlook : c.index.lookup? id with
        | none =>
          -- without a tag: listed apart with the unclassified ids
          simp only [hhas, hskip, Bool.not_true, Bool.false_eq_true, if_false]
          refine ⟨?_, h.filed, ?_, ?_, ?_⟩
          · simp [hplanned, eligible, hlook]
          · simp [h.unknown, hhas]
          · simp [h.skipped, hskip]
          · simp [h.unclassified, hhas, hskip, hlook]
        | some m =>
          -- eligible and new: planned, filed as the index says
          have helig : eligible u c id = true := by simp [eligible, hhas, hskip, hlook]
          have hid : id ∉ ids := fun hid => hnew' ⟨hid, helig⟩
          simp only [hhas, hskip, Bool.not_true, Bool.false_eq_true, if_false]
          refine ⟨?_, ?_, ?_, ?_, ?_⟩
          · rw [List.map_append, hplanned, eraseDups_filter_append_singleton]
            simp [helig, hid]
          · intro t ht
            rcases List.mem_append.mp ht with ht | ht
            · exact h.filed t ht
            · simp only [List.mem_singleton] at ht
              subst ht
              simp [hlook]
          · simp [h.unknown, hhas]
          · simp [h.skipped, hskip]
          · simp [h.unclassified, hlook]
    · -- not in the universe: listed apart with the unknown ids
      simp only [hhas, Bool.not_false, if_true]
      refine ⟨?_, h.filed, ?_, ?_, ?_⟩
      · simp [hplanned, eligible, hhas]
      · simp [h.unknown, hhas]
      · simp [h.skipped, hhas]
      · simp [h.unclassified, hhas]

theorem Tracks.foldl {ids : List String} {p : Plan} (h : Tracks u c ids p) (ticket : String)
    (more : List String) :
    Tracks u c (ids ++ more) (more.foldl (fun p id => p.consider u c ticket id) p) := by
  induction more generalizing ids p with
  | nil => simpa using h
  | cons id more ih => simpa using ih (h.consider ticket id)

variable (u c)

/-- The plan of any requests tracks all the ids they name, in order. -/
theorem tracks_build (rs : List Request) : Tracks u c (rs.flatMap (·.testIds)) (build rs u c) := by
  -- the plan of the first requests tracks their ids; each further request extends both
  suffices h : ∀ ids p, Tracks u c ids p →
      Tracks u c (ids ++ rs.flatMap (·.testIds))
        (rs.foldl (fun p r => r.testIds.foldl (fun p id => p.consider u c r.ticket id) p) p) by
    simpa [build] using h [] {} (tracks_nil u c)
  induction rs with
  | nil => simp
  | cons r rs ih =>
    intro ids p hp
    simpa using ih _ _ (hp.foldl r.ticket r.testIds)

/-- Every requested id is counted once: as a request of an eligible id, or in exactly one of the
lists of unknown, skipped and unclassified ids. -/
theorem length_requested (rs : List Request) :
    (rs.flatMap (·.testIds)).length =
      ((rs.flatMap (·.testIds)).filter (eligible u c)).length + (build rs u c).unknown.length +
        (build rs u c).skipped.length + (build rs u c).unclassified.length := by
  have h := tracks_build u c rs
  rw [h.unknown, h.skipped, h.unclassified]
  induction rs.flatMap (·.testIds) with
  | nil => rfl
  | cons id ids ih =>
    simp only [List.length_cons, List.filter_cons]
    -- each id passes the checks in order until the first it fails
    cases hhas : u.has id <;> cases hskip : c.isSkipped id <;>
      cases hlook : c.index.lookup? id <;> simp [eligible, hhas, hskip, hlook] <;> omega

end Plan

end TestDispatch
