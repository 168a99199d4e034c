import TestDispatch.Proofs.Plan.Layout
/-!
# Positions and tickets of planned tests

A plan numbers its tests by their first request, counting planned tests only, and files each
under the ticket of the first request that names it. Main result, `plan_ticket_attribution`: for
the plan of any requests,

* the order maps the planned ids one to one onto `0, …, size - 1`, and one id comes before
  another exactly when it is first requested before it in the requested ids taken in order;
* the ticket of an id is the ticket of the first request that names it, and an id that is not
  planned has none;
* a sequential item carries the ticket of its one test, and a parallel batch the ticket of its
  test of least position, whatever the byte order of the batch: the minimum search over the
  batch's positions picks that test (`Plan.batchTicket_first`).

The position of an id is where it stands among the planned ids (`Plan.order_lookup`), and those
are the eligible requested ids without repeats, in order of first request: dropping repeats and
dropping ineligible ids both keep the order of first occurrences (`idxOf_lt_idxOf_eraseDups`,
`idxOf_lt_idxOf_filter`). The ticket of each planned test is that of the first request of its id
(`Plan.FiledFirst`), an invariant of considering one requested id after another.
-/

namespace TestDispatch

/-! ## First occurrences -/

section FirstOccurrence

variable {α : Type} [BEq α] [LawfulBEq α]

/-- Dropping the elements that fail a test keeps the order of the first occurrences of those that
pass. -/
theorem idxOf_lt_idxOf_filter (f : α → Bool) {a b : α} (ha : f a = true) (hb : f b = true) :
    ∀ l : List α, (l.filter f).idxOf a < (l.filter f).idxOf b ↔ l.idxOf a < l.idxOf b
  | [] => Iff.rfl
  | x :: l => by
    have ih := idxOf_lt_idxOf_filter f ha hb l
    by_cases hxa : x = a
    · subst hxa
      rw [List.filter_cons_of_pos ha]
      by_cases hxb : x = b
      · subst hxb
        simp
      · simp [List.idxOf_cons_ne _ hxb]
    · by_cases hxb : x = b
      · subst hxb
        rw [List.filter_cons_of_pos hb]
        simp [List.idxOf_cons_ne _ hxa]
      · rw [List.idxOf_cons_ne _ hxa, List.idxOf_cons_ne _ hxb, Nat.succ_lt_succ_iff]
        by_cases hx : f x = true
        · rw [List.filter_cons_of_pos hx, List.idxOf_cons_ne _ hxa, List.idxOf_cons_ne _ hxb,
            Nat.succ_lt_succ_iff, ih]
        · rw [List.filter_cons_of_neg hx, ih]

/-- Dropping repeats keeps the order of first occurrences. -/
theorem idxOf_lt_idxOf_eraseDups (a b : α) :
    ∀ l : List α, l.eraseDups.idxOf a < l.eraseDups.idxOf b ↔ l.idxOf a < l.idxOf b
  | [] => Iff.rfl
  | x :: l => by
    rw [List.eraseDups_cons]
    by_cases hxa : x = a
    · subst hxa
      by_cases hxb : x = b
      · subst hxb
        simp
      · simp [List.idxOf_cons_ne _ hxb]
    · by_cases hxb : x = b
      · subst hxb
        simp [List.idxOf_cons_ne _ hxa]
      · -- past the head, both lists drop `x`, which neither `a` nor `b` is
        rw [List.idxOf_cons_ne _ hxa, List.idxOf_cons_ne _ hxb, List.idxOf_cons_ne _ hxa,
          List.idxOf_cons_ne _ hxb, Nat.succ_lt_succ_iff, Nat.succ_lt_succ_iff,
          idxOf_lt_idxOf_eraseDups a b (l.filter fun y => !y == x),
          idxOf_lt_idxOf_filter _ (by simpa using Ne.symm hxa) (by simpa using Ne.symm hxb)]
termination_by l => l.length
decreasing_by
  simp only [List.length_cons]
  exact Nat.lt_succ_of_le (List.length_filter_le _ _)

/-- An element of a list numbered from `n` is found at `n` plus its first position. -/
theorem lookup_zipIdx (a : α) :
    ∀ (l : List α) (n : Nat), (l.zipIdx n).lookup a = if a ∈ l then some (n + l.idxOf a) else none
  | [], _ => rfl
  | x :: l, n => by
    rw [List.zipIdx_cons, List.lookup_cons, lookup_zipIdx a l (n + 1)]
    by_cases hxa : x = a
    · subst hxa
      simp
    · have hax : (a == x) = false := by simpa using Ne.symm hxa
      rw [hax, List.idxOf_cons_ne _ hxa]
      by_cases hmem : a ∈ l
      · simp [hmem, Ne.symm hxa]
        omega
      · simp [hmem, Ne.symm hxa]

end FirstOccurrence

namespace Plan

/-! ## Positions and tickets of any plan -/

/-- The ids of the planned tests, in request order. -/
theorem order_eq_zipIdx (p : Plan) : p.order = (p.planned.map (·.id)).zipIdx := by
  rw [List.zipIdx_map]
  rfl

/-- The position of an id is where it stands among the planned ids. -/
theorem order_lookup (p : Plan) (id : String) :
    p.order.lookup id =
      if id ∈ p.planned.map (·.id) then some ((p.planned.map (·.id)).idxOf id) else none := by
  rw [order_eq_zipIdx, lookup_zipIdx, Nat.zero_add]

/-- The ticket of an id is the ticket of its planned test. -/
theorem tickets_lookup (p : Plan) (id : String) :
    p.tickets.lookup id = (p.find? id).map (·.ticket) := by
  unfold tickets find?
  induction p.planned with
  | nil => rfl
  | cons t ts ih =>
    by_cases h : t.id = id
    · simp [h]
    · have hne : (id == t.id) = false := by simpa using Ne.symm h
      simp [List.lookup_cons, hne, h, ih]

/-- Over distinct planned ids, the planned test of an id is the one that carries it. -/
theorem find?_of_mem {p : Plan} (hnd : (p.planned.map (·.id)).Nodup) {t : PlannedTest}
    (ht : t ∈ p.planned) : p.find? t.id = some t := by
  obtain ⟨t', ht'⟩ := Option.isSome_iff_exists.mp
    ((find?_isSome_iff p t.id).mpr (List.mem_map_of_mem ht))
  have hid : t'.id = t.id := by simpa using List.find?_some ht'
  rw [ht', List.inj_on_of_nodup_map hnd (List.mem_of_find?_eq_some ht') ht hid]

/-! ## Tickets filed under the first request -/

/-- The requested ids, each with the ticket of its request, in request order. -/
def ticketedIds (rs : List Request) : List (String × String) :=
  rs.flatMap fun r => r.testIds.map (r.ticket, ·)

/-- Planning considers the requested ids one after another, each with its ticket. -/
theorem build_eq_foldl (rs : List Request) (u : Universe) (c : Classify.Classification) :
    build rs u c = (ticketedIds rs).foldl (fun p q => p.consider u c q.1 q.2) {} := by
  simp [build, ticketedIds, List.foldl_flatMap, List.foldl_map]

/-- The ticket of the first request of an id. -/
theorem find?_ticketedIds (rs : List Request) (id : String) :
    ((ticketedIds rs).find? (·.2 = id)).map (·.1) =
      (rs.find? fun r => r.testIds.contains id).map (·.ticket) := by
  induction rs with
  | nil => rfl
  | cons r rs ih =>
    rw [ticketedIds, List.flatMap_cons, ← ticketedIds, List.find?_append, List.find?_cons]
    by_cases hid : id ∈ r.testIds
    · have hfind : (r.testIds.map (r.ticket, ·)).find? (·.2 = id) = some (r.ticket, id) := by
        obtain ⟨q, hq⟩ : ∃ q, (r.testIds.map (r.ticket, ·)).find? (·.2 = id) = some q :=
          Option.isSome_iff_exists.mp
            (List.find?_isSome.mpr ⟨(r.ticket, id), List.mem_map_of_mem hid, by simp⟩)
        obtain ⟨x, -, rfl⟩ := List.mem_map.mp (List.mem_of_find?_eq_some hq)
        have hx : x = id := by simpa using List.find?_some hq
        rw [hq, hx]
      simp [hfind, hid]
    · have hfind : (r.testIds.map (r.ticket, ·)).find? (·.2 = id) = none := by
        refine List.find?_eq_none.mpr fun q hq he => hid ?_
        obtain ⟨x, hx, rfl⟩ := List.mem_map.mp hq
        simpa using (show x = id by simpa using he) ▸ hx
      simp [hfind, hid, ih]

variable {u : Universe} {c : Classify.Classification}

/-- Considering an id leaves the planned tests as they are, or plans that id, new and eligible,
under the ticket that requests it, as the index files it. -/
theorem consider_planned_cases (p : Plan) (ticket id : String) :
    (p.consider u c ticket id).planned = p.planned ∨
      (id ∉ p.planned.map (·.id) ∧ eligible u c id = true ∧ ∃ m : Classify.Membership,
        (p.consider u c ticket id).planned = p.planned ++ [⟨id, ticket, m.tag, m.parallel⟩]) := by
  unfold consider
  split
  · exact .inl rfl
  · rename_i hnew
    have hnew : id ∉ p.planned.map (·.id) := fun h => hnew ((find?_isSome_iff p id).mpr h)
    split
    · exact .inl rfl
    · rename_i hhas
      split
      · exact .inl rfl
      · rename_i hskip
        split
        · exact .inl rfl
        · rename_i m hlook
          refine .inr ⟨hnew, ?_, m, rfl⟩
          simp_all [eligible]

/-- Every planned test is filed under the ticket of the first request of its id, among the
requests `qs` considered. -/
def FiledFirst (qs : List (String × String)) (p : Plan) : Prop :=
  ∀ t ∈ p.planned, (qs.find? (·.2 = t.id)).map (·.1) = some t.ticket

/-- Considering one more requested id keeps every planned test filed under its first request. -/
theorem FiledFirst.consider {qs : List (String × String)} {p : Plan}
    (htr : Tracks u c (qs.map (·.2)) p) (hf : FiledFirst qs p) (ticket id : String) :
    FiledFirst (qs ++ [(ticket, id)]) (p.consider u c ticket id) := by
  -- a test planned before keeps the first request found among the earlier ones
  have hold : ∀ t ∈ p.planned,
      ((qs ++ [(ticket, id)]).find? (·.2 = t.id)).map (·.1) = some t.ticket := by
    intro t ht
    obtain ⟨q, hq, hq1⟩ := Option.map_eq_some_iff.mp (hf t ht)
    simp [List.find?_append, hq, hq1]
  rcases @consider_planned_cases u c p ticket id with heq | ⟨hnew, helig, m, heq⟩
  · intro t ht
    exact hold t (heq ▸ ht)
  · intro t ht
    rw [heq] at ht
    rcases List.mem_append.mp ht with ht | ht
    · exact hold t ht
    · -- the new test: its id was not requested before, or it would have been planned then
      rw [List.mem_singleton] at ht
      subst ht
      have hfresh : id ∉ qs.map (·.2) := fun h => hnew (by
        rw [htr.planned_ids, List.mem_eraseDups, List.mem_filter]
        exact ⟨h, helig⟩)
      have hnone : qs.find? (·.2 = id) = none :=
        List.find?_eq_none.mpr fun q hq he => hfresh (List.mem_map.mpr ⟨q, hq, by simpa using he⟩)
      simp [List.find?_append, hnone]

/-- Considering requested ids in turn keeps every planned test filed under its first request. -/
theorem FiledFirst.foldl {qs : List (String × String)} {p : Plan}
    (htr : Tracks u c (qs.map (·.2)) p) (hf : FiledFirst qs p) (more : List (String × String)) :
    FiledFirst (qs ++ more) (more.foldl (fun p q => p.consider u c q.1 q.2) p) := by
  induction more generalizing qs p with
  | nil => simpa using hf
  | cons q more ih =>
    have htr' : Tracks u c ((qs ++ [q]).map (·.2)) (p.consider u c q.1 q.2) := by
      simpa using htr.consider q.1 q.2
    simpa using ih htr' (hf.consider htr q.1 q.2)

/-- Every test of the plan of some requests is filed under the first request of its id. -/
theorem filedFirst_build (rs : List Request) : FiledFirst (ticketedIds rs) (build rs u c) := by
  rw [build_eq_foldl]
  simpa using @FiledFirst.foldl u c [] {} (tracks_nil u c) (fun _ h => by cases h) (ticketedIds rs)

/-- The ticket of an eligible id is that of the first request that names it; other ids have
none. -/
theorem tickets_lookup_build (rs : List Request) (id : String) :
    (build rs u c).tickets.lookup id =
      if eligible u c id = true then (rs.find? fun r => r.testIds.contains id).map (·.ticket)
      else none := by
  rw [tickets_lookup]
  by_cases hplanned : id ∈ (build rs u c).planned.map (·.id)
  · obtain ⟨t, ht, rfl⟩ := List.mem_map.mp hplanned
    rw [find?_of_mem (nodup_planned_ids rs u c) ht, if_pos (mem_planned_ids.mp hplanned).2,
      ← find?_ticketedIds]
    exact (filedFirst_build rs t ht).symm
  · have hnone : (build rs u c).find? id = none := by
      rw [← Option.not_isSome_iff_eq_none, find?_isSome_iff]
      exact hplanned
    rw [hnone]
    split
    · -- an eligible id that is not planned was not requested
      rename_i helig
      have hreq : id ∉ rs.flatMap (·.testIds) := fun h => hplanned (mem_planned_ids.mpr ⟨h, helig⟩)
      have hfind : rs.find? (fun r => r.testIds.contains id) = none :=
        List.find?_eq_none.mpr fun r hr hc => hreq (List.mem_flatMap.mpr ⟨r, hr, by simpa using hc⟩)
      rw [hfind]
      rfl
    · rfl

/-- The position of an id in the plan of some requests is its place among the planned ids. -/
theorem order_lookup_eq_some {rs : List Request} {id : String} {k : Nat} :
    (build rs u c).order.lookup id = some k ↔
      id ∈ (build rs u c).planned.map (·.id) ∧ k = ((build rs u c).planned.map (·.id)).idxOf id := by
  rw [order_lookup]
  split
  · rename_i h
    simp [h, eq_comm]
  · rename_i h
    simp [h]

/-- The position of a planned id is its place among the planned ids. -/
theorem position_of_mem {p : Plan} {id : String} (h : id ∈ p.planned.map (·.id)) :
    p.position id = (p.planned.map (·.id)).idxOf id := by
  simp [position, order_lookup, h]

/-- A batch of planned ids is filed under the ticket of the test the minimum search picks, which
stands before every other test of the batch. -/
theorem batchTicket_first {p : Plan} (hnd : (p.planned.map (·.id)).Nodup) {ids : List String}
    (hne : ids ≠ []) (hplanned : ∀ id ∈ ids, id ∈ p.planned.map (·.id)) :
    ∃ t ∈ p.planned, t.id ∈ ids ∧ p.batchTicket ids = t.ticket ∧
      ∀ id ∈ ids, (p.planned.map (·.id)).idxOf t.id ≤ (p.planned.map (·.id)).idxOf id := by
  obtain ⟨first, rest, rfl⟩ := List.exists_cons_of_ne_nil hne
  have hmem := earliest_mem p first rest
  obtain ⟨t, ht, hid⟩ := List.mem_map.mp (hplanned _ hmem)
  refine ⟨t, ht, hid ▸ hmem, ?_, fun id hid' => ?_⟩
  · rw [batchTicket, ← hid]
    simp [ticketOf, find?_of_mem hnd ht]
  · -- on planned ids a position is a place, and the search picks the least
    have hle := earliest_le p first rest id hid'
    rwa [position_of_mem (hplanned _ hmem), position_of_mem (hplanned id hid'), ← hid] at hle

/-- A planned test is filed under its own ticket. -/
theorem tickets_lookup_of_mem {p : Plan} (hnd : (p.planned.map (·.id)).Nodup) {t : PlannedTest}
    (ht : t ∈ p.planned) : p.tickets.lookup t.id = some t.ticket := by
  rw [tickets_lookup, find?_of_mem hnd ht]
  rfl

/-- Positions follow first requests: dropping ineligible ids and repeats keeps their order. -/
theorem order_lt_iff {rs : List Request} {a b : String} {ka kb : Nat}
    (ha : (build rs u c).order.lookup a = some ka) (hb : (build rs u c).order.lookup b = some kb) :
    ka < kb ↔ (rs.flatMap (·.testIds)).idxOf a < (rs.flatMap (·.testIds)).idxOf b := by
  obtain ⟨ha', rfl⟩ := order_lookup_eq_some.mp ha
  obtain ⟨hb', rfl⟩ := order_lookup_eq_some.mp hb
  have hea := (mem_planned_ids.mp ha').2
  have heb := (mem_planned_ids.mp hb').2
  rw [(tracks_build u c rs).planned_ids, idxOf_lt_idxOf_eraseDups, idxOf_lt_idxOf_filter _ hea heb]

/-- A sequential work item carries the ticket of its one test. -/
theorem sequential_item_ticket (rs : List Request) (m : PlanMeta) {w : WorkItem}
    (hw : w ∈ (build rs u c).workItems m) (hpar : w.parallel = false) :
    ∃ id, w.testIds = some [id] ∧ (build rs u c).tickets.lookup id = some w.ticket := by
  have hw' := mem_workItems hw
  generalize w.tag = tag at hw'
  rcases mem_tagItems hw' with ⟨-, rfl⟩ | ⟨id, hid, rfl⟩
  · cases hpar
  · obtain ⟨t, ht, rfl, -, -⟩ := mem_members_iff.mp hid
    refine ⟨t.id, rfl, ?_⟩
    rw [tickets_lookup_of_mem (nodup_planned_ids rs u c) ht]
    simp [itemOf, ticketOf, find?_of_mem (nodup_planned_ids rs u c) ht]

/-- A parallel batch carries the ticket of its test of least position. -/
theorem batch_item_ticket (rs : List Request) (m : PlanMeta) {w : WorkItem}
    (hw : w ∈ (build rs u c).workItems m) (hpar : w.parallel = true) :
    ∃ first ∈ w.tests, ∃ k, (build rs u c).order.lookup first = some k ∧
      (∀ id ∈ w.tests, ∃ k', (build rs u c).order.lookup id = some k' ∧ k ≤ k') ∧
      (build rs u c).tickets.lookup first = some w.ticket := by
  have hw' := mem_workItems hw
  generalize w.tag = tag at hw'
  rcases mem_tagItems hw' with ⟨hne, rfl⟩ | ⟨id, hid, rfl⟩
  · -- the batch is filed under its earliest test, all its tests being planned
    have hplanned : ∀ id ∈ (build rs u c).members tag true,
        id ∈ (build rs u c).planned.map (·.id) := fun id hid => by
      obtain ⟨t, ht, rfl, -, -⟩ := mem_members_iff.mp hid
      exact List.mem_map_of_mem ht
    obtain ⟨t, ht, hid, hbatch, hle⟩ := batchTicket_first (nodup_planned_ids rs u c) hne hplanned
    refine ⟨t.id, hid, _, order_lookup_eq_some.mpr ⟨List.mem_map_of_mem ht, rfl⟩,
      fun id hid' => ?_, ?_⟩
    · obtain ⟨t', ht', rfl, -, -⟩ := mem_members_iff.mp hid'
      exact ⟨_, order_lookup_eq_some.mpr ⟨List.mem_map_of_mem ht', rfl⟩, hle _ hid'⟩
    · rw [tickets_lookup_of_mem (nodup_planned_ids rs u c) ht]
      simp [itemOf, hbatch]
  · cases hpar

end Plan

/-- Positions and tickets in the plan of any requests. The order maps the planned ids one to one
onto `0, …, size - 1`, and one id comes before another exactly when it is first requested before
it. The ticket of an id is that of the first request naming it, if it is eligible, and none
otherwise. A sequential item carries the ticket of its one test, and a parallel batch the ticket
of its test of least position. -/
theorem plan_ticket_attribution (rs : List Request) (u : Universe) (c : Classify.Classification)
    (m : PlanMeta) :
    let p := Plan.build rs u c
    let ids := rs.flatMap (·.testIds)
    (∀ id, (p.order.lookup id).isSome ↔ id ∈ ids ∧ Plan.eligible u c id = true) ∧
      (∀ id k, p.order.lookup id = some k → k < p.size) ∧
      (∀ a b k, p.order.lookup a = some k → p.order.lookup b = some k → a = b) ∧
      (∀ k < p.size, ∃ id, p.order.lookup id = some k) ∧
      (∀ a b ka kb, p.order.lookup a = some ka → p.order.lookup b = some kb →
        (ka < kb ↔ ids.idxOf a < ids.idxOf b)) ∧
      (∀ id, p.tickets.lookup id =
        if Plan.eligible u c id = true then (rs.find? fun r => r.testIds.contains id).map (·.ticket)
        else none) ∧
      (∀ w ∈ p.workItems m, w.parallel = false →
        ∃ id, w.testIds = some [id] ∧ p.tickets.lookup id = some w.ticket) ∧
      (∀ w ∈ p.workItems m, w.parallel = true → ∃ first ∈ w.tests, ∃ k,
        p.order.lookup first = some k ∧
        (∀ id ∈ w.tests, ∃ k', p.order.lookup id = some k' ∧ k ≤ k') ∧
        p.tickets.lookup first = some w.ticket) := by
  intro p ids
  have hnd : (p.planned.map (·.id)).Nodup := Plan.nodup_planned_ids rs u c
  have hsize : p.size = (p.planned.map (·.id)).length := by simp [Plan.size]
  refine ⟨fun id => ?_, fun id k h => ?_, fun a b k ha hb => ?_, fun k hk => ?_,
    fun a b ka kb ha hb => Plan.order_lt_iff ha hb, Plan.tickets_lookup_build rs,
    fun w hw hpar => Plan.sequential_item_ticket rs m hw hpar,
    fun w hw hpar => Plan.batch_item_ticket rs m hw hpar⟩
  · refine Iff.trans ?_ Plan.mem_planned_ids
    constructor
    · intro h
      obtain ⟨k, hk⟩ := Option.isSome_iff_exists.mp h
      exact (Plan.order_lookup_eq_some.mp hk).1
    · intro h
      exact Option.isSome_iff_exists.mpr ⟨_, Plan.order_lookup_eq_some.mpr ⟨h, rfl⟩⟩
  · obtain ⟨hmem, rfl⟩ := Plan.order_lookup_eq_some.mp h
    rw [hsize]
    exact List.idxOf_lt_length_of_mem hmem
  · obtain ⟨ha', rfl⟩ := Plan.order_lookup_eq_some.mp ha
    obtain ⟨-, hk⟩ := Plan.order_lookup_eq_some.mp hb
    exact (List.idxOf_inj ha').mp hk
  · rw [hsize] at hk
    exact ⟨_, Plan.order_lookup_eq_some.mpr ⟨List.getElem_mem hk, (hnd.idxOf_getElem k hk).symm⟩⟩

/-- A batch requested by two tickets in the reverse of its byte order is filed under the ticket
that requested its tests first. -/
example :
    ((Plan.build [⟨"T-2", ["b"]⟩, ⟨"T-1", ["a"]⟩]
        ⟨[{ id := "a", tags := ["A"], parallel := true }, { id := "b", tags := ["A"], parallel := true }]⟩
        (({} : Classify.Options).classify
          [{ id := "a", tags := ["A"], parallel := true }, { id := "b", tags := ["A"], parallel := true }])
        ).workItems {}).map (fun w => (w.testIds, w.ticket)) = [(some ["a", "b"], "T-2")] := by
  cbv

end TestDispatch
