import TestDispatch.Proofs.Text.ByteOrder
import TestDispatch.Proofs.Plan.Build
/-!
# Work items run every planned test exactly once

`Plan.workItems` groups the planned tests by tag, and within a tag into one parallel batch and
one item per sequential test. Whatever the plan, the tests of all its work items are its planned
ids in another order (`Plan.workItems_tests_perm`): grouping by tag and mode loses and repeats
nothing (`perm_groups`).

With the plan of `Plan.build`, whose planned ids are the eligible requested ones without repeats,
`plan_exactly_once` follows: every eligible requested id is in exactly one work item, once, and
no other id is in any; the keys of the tickets and of the order are those ids, once each, and
the size counts them; every other request is listed by the first check it fails.
-/

namespace TestDispatch

/-! ## Counting -/

/-- Among lists whose joined list holds `a` at most once, as many hold `a` as it occurs. -/
theorem length_filter_contains {β : Type} (xs : List β) (g : β → List String) (a : String)
    (h : (xs.flatMap g).count a ≤ 1) :
    (xs.filter fun x => (g x).contains a).length = (xs.flatMap g).count a := by
  induction xs with
  | nil => rfl
  | cons x xs ih =>
    rw [List.flatMap_cons, List.count_append] at h ⊢
    by_cases hx : a ∈ g x
    · have hpos : 0 < (g x).count a := List.count_pos_iff.mpr hx
      have hone : (g x).count a = 1 := by omega
      have hrest : (xs.flatMap g).count a = 0 := by omega
      rw [List.filter_cons_of_pos (by simpa using hx), List.length_cons, ih (by omega), hone, hrest]
    · rw [List.filter_cons_of_neg (by simpa using hx), ih (by omega),
        List.count_eq_zero_of_not_mem hx, Nat.zero_add]

/-! ## Work items -/

namespace Plan

/-- The tests of the work items, per tag: the parallel members, then the sequential ones. -/
theorem workItems_tests (p : Plan) (m : PlanMeta) :
    (p.workItems m).flatMap WorkItem.tests =
      p.tags.flatMap fun tag => p.members tag true ++ p.members tag false := by
  rw [workItems, List.flatMap_assoc]
  refine List.flatMap_congr fun tag _ => ?_
  rw [List.flatMap_append]
  congr 1
  · split
    · rename_i h
      simp [List.isEmpty_iff.mp h]
    · simp [WorkItem.tests]
  · simp [List.flatMap_map, WorkItem.tests]

/-- Whatever the plan, its work items run exactly its planned ids, in another order. -/
theorem workItems_tests_perm (p : Plan) (m : PlanMeta) :
    ((p.workItems m).flatMap WorkItem.tests).Perm (p.planned.map (·.id)) := by
  rw [workItems_tests]
  exact perm_groups p.planned (·.id) (·.tag) (·.parallel)

theorem tickets_keys (p : Plan) : p.tickets.map (·.1) = p.planned.map (·.id) := by
  simp [tickets]

theorem order_keys (p : Plan) : p.order.map (·.1) = p.planned.map (·.id) := by
  simp only [order, List.map_map]
  conv_rhs => rw [← List.zipIdx_map_fst 0 p.planned, List.map_map]
  rfl

end Plan

/-- Every eligible requested id is run by exactly one work item, once, and no other id is run;
the keys of the tickets and of the order are the eligible requested ids, once each, and the size
counts them; every other request is listed by the first check it fails: the universe, then the
skip list, then the index. -/
theorem plan_exactly_once (rs : List Request) (u : Universe) (c : Classify.Classification)
    (m : PlanMeta) :
    let p := Plan.build rs u c
    let ids := rs.flatMap (·.testIds)
    (∀ id, ((p.workItems m).filter fun w => w.tests.contains id).length =
        if id ∈ ids ∧ Plan.eligible u c id = true then 1 else 0) ∧
      (∀ id, ((p.workItems m).flatMap WorkItem.tests).count id =
        if id ∈ ids ∧ Plan.eligible u c id = true then 1 else 0) ∧
      (p.tickets.map (·.1)).Nodup ∧
      (∀ id, id ∈ p.tickets.map (·.1) ↔ id ∈ ids ∧ Plan.eligible u c id = true) ∧
      (p.order.map (·.1)).Nodup ∧
      (∀ id, id ∈ p.order.map (·.1) ↔ id ∈ ids ∧ Plan.eligible u c id = true) ∧
      p.size = (ids.filter (Plan.eligible u c)).eraseDups.length ∧
      p.unknown = ids.filter (fun id => !u.has id) ∧
      p.skipped = ids.filter (fun id => u.has id && c.isSkipped id) ∧
      p.unclassified =
        ids.filter (fun id => u.has id && !c.isSkipped id && (c.index.lookup? id).isNone) := by
  intro p ids
  have htr := Plan.tracks_build u c rs
  have hnodup : (p.planned.map (·.id)).Nodup := htr.planned_ids ▸ nodup_eraseDups _
  have hmem : ∀ id, id ∈ p.planned.map (·.id) ↔ id ∈ ids ∧ Plan.eligible u c id = true := by
    intro id
    rw [htr.planned_ids, List.mem_eraseDups, List.mem_filter]
  -- each eligible requested id is planned once, and the work items run the planned ids
  have hcount : ∀ id, ((p.workItems m).flatMap WorkItem.tests).count id =
      if id ∈ ids ∧ Plan.eligible u c id = true then 1 else 0 := by
    intro id
    rw [(p.workItems_tests_perm m).count_eq]
    split
    · exact List.count_eq_one_of_mem hnodup ((hmem id).mpr ‹_›)
    · exact List.count_eq_zero_of_not_mem fun h => ‹¬_› ((hmem id).mp h)
  refine ⟨fun id => ?_, hcount, ?_, ?_, ?_, ?_, ?_, htr.unknown, htr.skipped, htr.unclassified⟩
  · rw [length_filter_contains _ _ _ (by rw [hcount id]; split <;> omega), hcount id]
  · rw [Plan.tickets_keys]
    exact hnodup
  · simpa [Plan.tickets_keys] using hmem
  · rw [Plan.order_keys]
    exact hnodup
  · simpa [Plan.order_keys] using hmem
  · rw [Plan.size, ← List.length_map (f := (·.id)), htr.planned_ids]

end TestDispatch
