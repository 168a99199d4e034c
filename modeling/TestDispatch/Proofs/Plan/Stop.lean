import TestDispatch.Proofs.Classify.Index
import TestDispatch.Proofs.Plan.WorkItems
import TestDispatch.Proofs.Ticket.Roundtrip
/-!
# Planned work and the stop message

A consumer stops at the first ticket whose execution ticket is `STOP`. The planner files each
work item under the execution ticket of one of its requests, and nothing keeps a request from
naming `STOP`. Main results:

* `planned_items_stop_iff`: every work item of a plan built over a classification is written as
  a ticket that reads back as the normalized item, which is the stop message exactly when the
  item is filed under `STOP`, and every item is filed under a requested ticket. So planned work
  reads as work whenever no request names `STOP`;
* `stop_request_planned_as_stop`: a request named `STOP` for a test the universe has gives a
  work item that reads back as the stop message.

Underneath: classification files every test under a non-empty tag
(`Classify.filings_tag_ne_empty`), planning keeps each test's requested ticket
(`Plan.planned_ticket_requested`), and every work item carries a planned tag, planned tests and a
planned ticket (`Plan.workItem_planned`).
-/

namespace TestDispatch

namespace Plan

variable {u : Universe} {c : Classify.Classification}

/-- Considering an id plans it, if at all, under the ticket that requests it. -/
theorem consider_planned (p : Plan) (ticket id : String) :
    ∀ t ∈ (p.consider u c ticket id).planned, t ∈ p.planned ∨ t.ticket = ticket := by
  intro t ht
  unfold consider at ht
  split at ht
  · exact .inl ht
  · split at ht
    · exact .inl ht
    · split at ht
      · exact .inl ht
      · split at ht
        · exact .inl ht
        · rcases List.mem_append.mp ht with ht | ht
          · exact .inl ht
          · rw [List.mem_singleton] at ht
            exact .inr (ht ▸ rfl)

/-- Considering ids in turn plans them, if at all, under the ticket that requests them. -/
theorem foldl_consider_planned (p : Plan) (ticket : String) (ids : List String) :
    ∀ t ∈ (ids.foldl (fun p id => p.consider u c ticket id) p).planned,
      t ∈ p.planned ∨ t.ticket = ticket := by
  induction ids generalizing p with
  | nil => exact fun t ht => .inl ht
  | cons id ids ih =>
    intro t ht
    rcases ih _ t ht with ht | ht
    · exact consider_planned p ticket id t ht
    · exact .inr ht

/-- Every test of the plan of some requests is planned under the ticket of one of them. -/
theorem planned_ticket_requested (rs : List Request) :
    ∀ t ∈ (build rs u c).planned, t.ticket ∈ rs.map (·.ticket) := by
  -- tests planned by the first requests keep their tickets; each further request adds its own
  suffices h : ∀ (tickets : List String) (p : Plan), (∀ t ∈ p.planned, t.ticket ∈ tickets) →
      ∀ t ∈ (rs.foldl (fun p r => r.testIds.foldl (fun p id => p.consider u c r.ticket id) p)
        p).planned, t.ticket ∈ tickets ++ rs.map (·.ticket) by
    simpa [build] using h [] {} (fun _ ht => by cases ht)
  induction rs with
  | nil => simp
  | cons r rs ih =>
    intro tickets p hp
    refine List.append_cons tickets r.ticket _ ▸ ih (tickets ++ [r.ticket]) _ fun t ht => ?_
    rcases foldl_consider_planned p r.ticket r.testIds t ht with ht | ht
    · exact List.mem_append_left _ (hp t ht)
    · rw [ht]
      exact List.mem_append_right _ (List.mem_singleton_self _)

/-- A planned test carries the tag the index files its id under: over an index whose tags are
non-empty, a non-empty tag. -/
theorem planned_tag_ne_empty (rs : List Request) (hc : ∀ f ∈ c.index.filings, f.2.tag ≠ "") :
    ∀ t ∈ (build rs u c).planned, t.tag ≠ "" := by
  intro t ht
  obtain ⟨m, hlook, hm⟩ := Option.map_eq_some_iff.mp ((tracks_build u c rs).filed t ht)
  obtain ⟨id', hmem⟩ := Classify.TagIndex.lookup?_mem hlook
  have htag : m.tag = t.tag := congrArg Prod.fst hm
  rw [← htag]
  exact hc _ hmem

/-- The members of a tag are planned ids. -/
theorem mem_members {p : Plan} {tag : String} {parallel : Bool} {id : String}
    (h : id ∈ p.members tag parallel) : ∃ t ∈ p.planned, t.id = id ∧ t.tag = tag := by
  unfold members at h
  obtain ⟨t, ht, rfl⟩ := List.mem_map.mp ((sortTexts_perm _).mem_iff.mp h)
  obtain ⟨ht, hsel⟩ := List.mem_filter.mp ht
  simp only [Bool.and_eq_true, decide_eq_true_eq] at hsel
  exact ⟨t, ht, rfl, hsel.1⟩

/-- The ticket of a planned id is the ticket of a planned test. -/
theorem ticketOf_planned {p : Plan} {t : PlannedTest} (ht : t ∈ p.planned) :
    p.ticketOf t.id ∈ p.planned.map (·.ticket) := by
  unfold ticketOf find?
  cases hfind : p.planned.find? (·.id = t.id) with
  | some t' => exact List.mem_map_of_mem (List.mem_of_find?_eq_some hfind)
  | none =>
    rw [List.find?_eq_none] at hfind
    exact absurd (by simp) (hfind t ht)

/-- The ticket of a batch of planned ids is the ticket of a planned test. -/
theorem batchTicket_planned {p : Plan} {ids : List String} (hne : ids ≠ [])
    (hplanned : ∀ id ∈ ids, ∃ t ∈ p.planned, t.id = id) :
    p.batchTicket ids ∈ p.planned.map (·.ticket) := by
  obtain ⟨first, rest, rfl⟩ := List.exists_cons_of_ne_nil hne
  -- the batch is filed under the ticket of the id the minimum search picks, a planned one
  obtain ⟨t, ht, hid⟩ := hplanned _ (earliest_mem p first rest)
  rw [batchTicket, ← hid]
  exact ticketOf_planned ht

/-- Every work item names some tests, and carries the tag and the ticket of planned tests. -/
theorem workItem_planned (p : Plan) (m : PlanMeta) :
    ∀ w ∈ p.workItems m, w.tests ≠ [] ∧ w.tag ∈ p.planned.map (·.tag) ∧
      w.ticket ∈ p.planned.map (·.ticket) := by
  intro w hw
  unfold workItems at hw
  obtain ⟨tag, htag, hw⟩ := List.mem_flatMap.mp hw
  have hplanned : tag ∈ p.planned.map (·.tag) := mem_sortedDistinct.mp htag
  rcases List.mem_append.mp hw with hw | hw
  · -- the parallel batch, which is there only when the tag has parallel members
    split at hw
    · cases hw
    · rename_i hpar
      rw [List.mem_singleton] at hw
      subst hw
      refine ⟨by simpa [WorkItem.tests] using hpar, hplanned,
        batchTicket_planned (by simpa using hpar) fun id hid => ?_⟩
      obtain ⟨t, ht, rfl, -⟩ := mem_members hid
      exact ⟨t, ht, rfl⟩
  · -- one item per sequential member
    obtain ⟨id, hid, rfl⟩ := List.mem_map.mp hw
    obtain ⟨t, ht, rfl, -⟩ := mem_members hid
    exact ⟨by simp [WorkItem.tests], hplanned, ticketOf_planned ht⟩

end Plan

/-- Every work item of a plan built over a classification is written as a ticket that reads back
as the normalized item; that item is the stop message exactly when the work item is filed under
`STOP`, and every work item is filed under the ticket of one of the requests. -/
theorem planned_items_stop_iff (rs : List Request) (u : Universe) (o : Classify.Options)
    (m : PlanMeta) :
    ∀ w ∈ (Plan.build rs u (o.classify u.records)).workItems m,
      (∃ s, Ticket.encode w = .ok s ∧ Ticket.decode s.toUTF8.toList = .ok (Ticket.normalize w)) ∧
      ((Ticket.normalize w).isStop = true ↔ w.ticket = stopTicket) ∧
      w.ticket ∈ rs.map (·.ticket) := by
  intro w hw
  obtain ⟨htests, htag, hticket⟩ := Plan.workItem_planned _ m w hw
  -- the item's tag is that of a planned test, which classification files under a non-empty tag
  have htag_ne : w.tag ≠ "" := by
    obtain ⟨t, ht, htw⟩ := List.mem_map.mp htag
    rw [← htw]
    exact Plan.planned_tag_ne_empty rs (Classify.filings_tag_ne_empty o u.records) t ht
  refine ⟨?_, by simp [Ticket.normalize, WorkItem.isStop], ?_⟩
  · rcases Ticket.encode_cases w with ⟨-, ht, -⟩ | ⟨-, -, hx, -⟩ | ⟨-, he⟩
    · exact absurd ht htag_ne
    · exact absurd hx htests
    · refine ⟨_, he, ?_⟩
      rw [Utf8.toUTF8_toList]
      exact Ticket.decode_write rfl rfl
  · obtain ⟨t, ht, htw⟩ := List.mem_map.mp hticket
    rw [← htw]
    exact Plan.planned_ticket_requested rs t ht

/-- A test requested under an ordinary ticket is planned as an item that reads back as work. -/
theorem planned_item_reads_as_work :
    ∃ w ∈ (Plan.build [⟨"T-1", ["a"]⟩] ⟨[{ id := "a", tags := ["A"] }]⟩
        (({} : Classify.Options).classify [{ id := "a", tags := ["A"] }])).workItems {},
      ∃ s, Ticket.encode w = .ok s ∧ ∃ w', Ticket.decode s.toUTF8.toList = .ok w' ∧
        w'.isStop = false := by
  let w : WorkItem :=
    { tag := "A", testIds := some ["a"], ticket := "T-1", targets := some [], build := "000" }
  have hmem : w ∈ (Plan.build [⟨"T-1", ["a"]⟩] ⟨[{ id := "a", tags := ["A"] }]⟩
      (({} : Classify.Options).classify [{ id := "a", tags := ["A"] }])).workItems {} := by
    decide +kernel
  obtain ⟨⟨s, he, hd⟩, -, -⟩ := planned_items_stop_iff _ _ {} {} w hmem
  exact ⟨w, hmem, s, he, _, hd, rfl⟩

/-- A request named `STOP` for a test the universe has is planned as an item that is written as a
ticket and reads back as the stop message. -/
theorem stop_request_planned_as_stop :
    ∃ w ∈ (Plan.build [⟨"STOP", ["a"]⟩] ⟨[{ id := "a", tags := ["A"] }]⟩
        (({} : Classify.Options).classify [{ id := "a", tags := ["A"] }])).workItems {},
      ∃ s, Ticket.encode w = .ok s ∧ ∃ w', Ticket.decode s.toUTF8.toList = .ok w' ∧
        w'.isStop = true := by
  let w : WorkItem :=
    { tag := "A", testIds := some ["a"], ticket := "STOP", targets := some [], build := "000" }
  have hmem : w ∈ (Plan.build [⟨"STOP", ["a"]⟩] ⟨[{ id := "a", tags := ["A"] }]⟩
      (({} : Classify.Options).classify [{ id := "a", tags := ["A"] }])).workItems {} := by
    decide +kernel
  have he : Ticket.encode w = .ok ((Ticket.normalize w).toJson.write true) :=
    Ticket.encode_of_complete (.inr ⟨by decide, by decide⟩)
  refine ⟨w, hmem, _, he, Ticket.normalize w, ?_, rfl⟩
  rw [Utf8.toUTF8_toList]
  exact Ticket.decode_write rfl rfl

end TestDispatch
