import Mathlib.Data.String.Basic
import TestDispatch.Proofs.Plan.Stop
/-!
# The layout of a plan's work items

`Plan.workItems` walks the planned tags in byte order and gives each tag its parallel batch, if
it has parallel tests, then one item per sequential test. Main result, `workItems_layout`: for the
plan of any requests,

* the items' tags never decrease, so each tag's items stand together and the tags follow each
  other in strictly increasing byte order;
* the items of a tag are at most one batch, which comes first, is there exactly when the tag has
  a planned parallel test and runs all of them in strictly increasing order, and then one item per
  planned sequential test of the tag, in strictly increasing order, each with only that test;
* the index files every test of every item under the item's tag and mode, and every item carries
  the targets, build type and test plan of the meta, and its build or the default build.

Underneath: the items of a tag are `Plan.tagItems` (`Plan.workItems_filter_tag`), because
grouping over distinct tags picks out one group (`filter_flatMap_of_nodup`), and the members of a
tag are the requested eligible tests the index files under it (`Plan.mem_members_build`).
-/

namespace TestDispatch

/-! ## Grouping by key -/

/-- Grouping by key over distinct keys, where each key's group holds only elements of that key:
the elements of one key are its group, if the key is listed. -/
theorem filter_flatMap_of_nodup {α β : Type} [DecidableEq β] (key : α → β) (f : β → List α)
    (hf : ∀ k, ∀ x ∈ f k, key x = k) (k : β) :
    ∀ {ks : List β}, ks.Nodup → (ks.flatMap f).filter (key · = k) = if k ∈ ks then f k else []
  | [], _ => rfl
  | k' :: ks, hks => by
    obtain ⟨hk', hks⟩ := List.nodup_cons.mp hks
    rw [List.flatMap_cons, List.filter_append, filter_flatMap_of_nodup key f hf k hks]
    by_cases hk : k' = k
    · -- the group of `k` itself, and `k` is not listed again
      subst hk
      rw [List.filter_eq_self.mpr fun x hx => by simp [hf k' x hx]]
      simp [hk']
    · rw [List.filter_eq_nil_iff.mpr fun x hx => by simp [hf k' x hx, hk]]
      simp [Ne.symm hk]

namespace Plan

/-! ## The items of a tag -/

/-- A work item of a tag, with what the meta gives every item. -/
def itemOf (m : PlanMeta) (tag : String) (ids : List String) (parallel : Bool) (ticket : String) :
    WorkItem :=
  { tag, testIds := some ids, parallel, ticket, targets := some m.targets,
    build := if m.build = "" then defaultBuild else m.build, buildType := m.buildType,
    testPlan := m.testPlan }

/-- The work items of one tag: the parallel batch, if there are parallel tests, then one item per
sequential test. -/
def tagItems (p : Plan) (m : PlanMeta) (tag : String) : List WorkItem :=
  (if (p.members tag true).isEmpty then []
    else [itemOf m tag (p.members tag true) true (p.batchTicket (p.members tag true))]) ++
    (p.members tag false).map fun id => itemOf m tag [id] false (p.ticketOf id)

theorem workItems_eq_flatMap (p : Plan) (m : PlanMeta) :
    p.workItems m = p.tags.flatMap (p.tagItems m) := rfl

/-- An item of a tag is its batch, there when it has parallel members, or the item of one
sequential member. -/
theorem mem_tagItems {p : Plan} {m : PlanMeta} {tag : String} {w : WorkItem}
    (hw : w ∈ p.tagItems m tag) :
    (p.members tag true ≠ [] ∧
        w = itemOf m tag (p.members tag true) true (p.batchTicket (p.members tag true))) ∨
      ∃ id ∈ p.members tag false, w = itemOf m tag [id] false (p.ticketOf id) := by
  unfold tagItems at hw
  rcases List.mem_append.mp hw with hw | hw
  · split at hw
    · cases hw
    · rename_i hne
      exact .inl ⟨by simpa using hne, List.mem_singleton.mp hw⟩
  · obtain ⟨id, hid, rfl⟩ := List.mem_map.mp hw
    exact .inr ⟨id, hid, rfl⟩

theorem tagItems_tag {p : Plan} {m : PlanMeta} {tag : String} :
    ∀ w ∈ p.tagItems m tag, w.tag = tag := by
  intro w hw
  rcases mem_tagItems hw with ⟨-, rfl⟩ | ⟨id, -, rfl⟩ <;> rfl

/-- The batch of a tag, when it has parallel members. -/
theorem tagItems_parallel (p : Plan) (m : PlanMeta) (tag : String) :
    (p.tagItems m tag).filter (·.parallel) =
      if (p.members tag true).isEmpty then []
      else [itemOf m tag (p.members tag true) true (p.batchTicket (p.members tag true))] := by
  unfold tagItems
  split <;> simp [List.filter_map, Function.comp_def, itemOf]

/-- The tests of the sequential items of a tag, one item per sequential member. -/
theorem tagItems_sequential (p : Plan) (m : PlanMeta) (tag : String) :
    ((p.tagItems m tag).filter (!·.parallel)).map (·.testIds) =
      (p.members tag false).map fun id => some [id] := by
  unfold tagItems
  split <;> simp [List.filter_map, Function.comp_def, itemOf]

/-- The batch of a tag comes before its sequential items. -/
theorem tagItems_batch_first (p : Plan) (m : PlanMeta) (tag : String) :
    p.tagItems m tag = (p.tagItems m tag).filter (·.parallel) ++
      (p.tagItems m tag).filter (!·.parallel) := by
  unfold tagItems
  split <;> simp [List.filter_map, Function.comp_def, itemOf]

/-- The members of a tag are the planned tests of the tag in that mode. -/
theorem mem_members_iff {p : Plan} {tag : String} {parallel : Bool} {id : String} :
    id ∈ p.members tag parallel ↔ ∃ t ∈ p.planned, t.id = id ∧ t.tag = tag ∧ t.parallel = parallel := by
  unfold members
  rw [(sortTexts_perm _).mem_iff, List.mem_map]
  simp only [List.mem_filter, Bool.and_eq_true, decide_eq_true_eq]
  constructor
  · rintro ⟨t, ⟨ht, htag, hpar⟩, rfl⟩
    exact ⟨t, ht, rfl, htag, hpar⟩
  · rintro ⟨t, ht, rfl, htag, hpar⟩
    exact ⟨t, ⟨ht, htag, hpar⟩, rfl⟩

/-- A tag that no planned test carries has no items. -/
theorem tagItems_eq_nil {p : Plan} (m : PlanMeta) {tag : String} (h : tag ∉ p.tags) :
    p.tagItems m tag = [] := by
  have hnone : ∀ parallel, p.members tag parallel = [] := by
    intro parallel
    refine List.eq_nil_iff_forall_not_mem.mpr fun id hid => h ?_
    obtain ⟨t, ht, -, rfl, -⟩ := mem_members_iff.mp hid
    exact mem_sortedDistinct.mpr (List.mem_map_of_mem ht)
  simp [tagItems, hnone]

/-- The items of a tag are its batch and its sequential items. -/
theorem workItems_filter_tag (p : Plan) (m : PlanMeta) (tag : String) :
    (p.workItems m).filter (·.tag = tag) = p.tagItems m tag := by
  have hnd : p.tags.Nodup := sortedDistinct_nodup _
  rw [workItems_eq_flatMap, filter_flatMap_of_nodup WorkItem.tag (p.tagItems m)
    (fun _ => tagItems_tag) tag hnd]
  split
  · rfl
  · exact (tagItems_eq_nil m ‹_›).symm

/-- An item stands among the items of its own tag. -/
theorem mem_workItems {p : Plan} {m : PlanMeta} {w : WorkItem} (hw : w ∈ p.workItems m) :
    w ∈ p.tagItems m w.tag := by
  rw [← workItems_filter_tag]
  exact List.mem_filter.mpr ⟨hw, by simp⟩

/-- The items' tags never decrease. -/
theorem workItems_tags_sorted (p : Plan) (m : PlanMeta) :
    (p.workItems m).Pairwise fun a b => a.tag ≤ b.tag := by
  rw [workItems_eq_flatMap, List.pairwise_flatMap]
  refine ⟨fun tag _ => List.pairwise_of_forall_mem_list fun a ha b hb => ?_, ?_⟩
  · rw [tagItems_tag a ha, tagItems_tag b hb]
  · refine (sortTexts_sorted _).imp fun {t t'} hle a ha b hb => ?_
    rwa [tagItems_tag a ha, tagItems_tag b hb]

/-- Over distinct planned ids, the members of a tag are in strictly increasing byte order. -/
theorem members_strict {p : Plan} (hnd : (p.planned.map (·.id)).Nodup) (tag : String)
    (parallel : Bool) : (p.members tag parallel).Pairwise (· < ·) :=
  sortTexts_strict (hnd.sublist (List.Sublist.map _ List.filter_sublist))

/-! ## The plan of some requests -/

variable {rs : List Request} {u : Universe} {c : Classify.Classification}

theorem nodup_planned_ids (rs : List Request) (u : Universe) (c : Classify.Classification) :
    ((build rs u c).planned.map (·.id)).Nodup :=
  (tracks_build u c rs).planned_ids ▸ nodup_eraseDups _

theorem mem_planned_ids {id : String} :
    id ∈ (build rs u c).planned.map (·.id) ↔ id ∈ rs.flatMap (·.testIds) ∧ eligible u c id = true := by
  rw [(tracks_build u c rs).planned_ids, List.mem_eraseDups, List.mem_filter]

/-- The index files a planned test under its tag and mode. -/
theorem lookup_planned {t : PlannedTest} (ht : t ∈ (build rs u c).planned) :
    c.index.lookup? t.id = some ⟨t.tag, t.parallel⟩ := by
  obtain ⟨m, hm, heq⟩ := Option.map_eq_some_iff.mp ((tracks_build u c rs).filed t ht)
  obtain ⟨tag, parallel⟩ := m
  simp only [Prod.mk.injEq] at heq
  rw [hm, heq.1, heq.2]

/-- The members of a tag in a mode are the requested eligible ids that the index files under that
tag and mode. -/
theorem mem_members_build {tag : String} {parallel : Bool} {id : String} :
    id ∈ (build rs u c).members tag parallel ↔
      id ∈ rs.flatMap (·.testIds) ∧ eligible u c id = true ∧
        c.index.lookup? id = some ⟨tag, parallel⟩ := by
  rw [mem_members_iff]
  constructor
  · rintro ⟨t, ht, rfl, rfl, rfl⟩
    exact ⟨(mem_planned_ids.mp (List.mem_map_of_mem ht)).1,
      (mem_planned_ids.mp (List.mem_map_of_mem ht)).2, lookup_planned ht⟩
  · rintro ⟨hreq, helig, hlook⟩
    obtain ⟨t, ht, rfl⟩ := List.mem_map.mp (mem_planned_ids.mpr ⟨hreq, helig⟩)
    rw [lookup_planned ht, Option.some.injEq, Classify.Membership.mk.injEq] at hlook
    exact ⟨t, ht, rfl, hlook.1, hlook.2⟩

/-- A tag has a batch exactly when some requested, eligible test is filed under it as
parallel. -/
theorem batch_ne_nil_iff (m : PlanMeta) (tag : String) :
    ((build rs u c).tagItems m tag).filter (·.parallel) ≠ [] ↔
      ∃ id, id ∈ rs.flatMap (·.testIds) ∧ eligible u c id = true ∧
        c.index.lookup? id = some ⟨tag, true⟩ := by
  rw [tagItems_parallel]
  split
  · rename_i hnil
    simp only [ne_eq, not_true_eq_false, false_iff, not_exists]
    intro id hid
    have hmem := mem_members_build.mpr hid
    rw [List.isEmpty_iff.mp hnil] at hmem
    exact List.not_mem_nil hmem
  · rename_i hne
    obtain ⟨id, hid⟩ := List.exists_mem_of_ne_nil _ (by simpa using hne)
    exact iff_of_true (by simp) ⟨id, mem_members_build.mp hid⟩

/-- Every item's tests are filed under its tag and kind, and it carries the plan's metadata. -/
theorem workItem_fields (m : PlanMeta) {w : WorkItem} (hw : w ∈ (build rs u c).workItems m) :
    (∀ id ∈ w.tests, c.index.lookup? id = some ⟨w.tag, w.parallel⟩) ∧
      w.targets = some m.targets ∧ w.buildType = m.buildType ∧ w.testPlan = m.testPlan ∧
      w.build = if m.build = "" then defaultBuild else m.build := by
  -- the index files the tests of the batch and of a sequential item as the item says
  have hlook : ∀ parallel, ∀ id ∈ (build rs u c).members w.tag parallel,
      c.index.lookup? id = some ⟨w.tag, parallel⟩ :=
    fun _ _ hid => (mem_members_build.mp hid).2.2
  rcases mem_tagItems (mem_workItems hw) with ⟨-, hweq⟩ | ⟨id, hid, hweq⟩ <;>
    rw [hweq] <;> refine ⟨fun x hx => ?_, rfl, rfl, rfl, rfl⟩
  · exact hlook true x hx
  · rw [show x = id by simpa [WorkItem.tests, itemOf] using hx]
    exact hlook false id hid

end Plan

/-- The work items of the plan of any requests: their tags never decrease; a tag's items are at
most one parallel batch, first, there exactly when the tag has a planned parallel test and running
all of them in strictly increasing order, then one item per planned sequential test of the tag, in
strictly increasing order; the index files each test of an item under the item's tag and mode;
and every item carries the meta's targets, build type and test plan, and its build or the default
one. A test is planned under a tag and mode when it is requested, eligible, and filed there. -/
theorem workItems_layout (rs : List Request) (u : Universe) (c : Classify.Classification)
    (m : PlanMeta) :
    let items := (Plan.build rs u c).workItems m
    let planned (tag : String) (parallel : Bool) (id : String) : Prop :=
      id ∈ rs.flatMap (·.testIds) ∧ Plan.eligible u c id = true ∧
        c.index.lookup? id = some ⟨tag, parallel⟩
    items.Pairwise (fun a b => a.tag ≤ b.tag) ∧
      (∀ tag, let group := items.filter (·.tag = tag)
        group = group.filter (·.parallel) ++ group.filter (!·.parallel) ∧
        (group.filter (·.parallel)).length ≤ 1 ∧
        (group.filter (·.parallel) ≠ [] ↔ ∃ id, planned tag true id) ∧
        (∀ w ∈ group.filter (·.parallel), ∃ ids : List String, w.testIds = some ids ∧
          ids.Pairwise (· < ·) ∧ ∀ id, id ∈ ids ↔ planned tag true id) ∧
        ∃ ids : List String, ids.Pairwise (· < ·) ∧ (∀ id, id ∈ ids ↔ planned tag false id) ∧
          (group.filter (!·.parallel)).map (·.testIds) = ids.map fun id => some [id]) ∧
      ∀ w ∈ items, (∀ id ∈ w.tests, c.index.lookup? id = some ⟨w.tag, w.parallel⟩) ∧
        w.targets = some m.targets ∧ w.buildType = m.buildType ∧ w.testPlan = m.testPlan ∧
        w.build = if m.build = "" then defaultBuild else m.build := by
  intro items planned
  have hnd := Plan.nodup_planned_ids rs u c
  refine ⟨Plan.workItems_tags_sorted _ m, fun tag => ?_, fun w hw => Plan.workItem_fields m hw⟩
  simp only [items, Plan.workItems_filter_tag]
  refine ⟨Plan.tagItems_batch_first _ m tag, ?_, Plan.batch_ne_nil_iff m tag, ?_, _,
    Plan.members_strict hnd tag false, fun id => Plan.mem_members_build,
    Plan.tagItems_sequential _ m tag⟩
  · rw [Plan.tagItems_parallel]
    split <;> simp
  · rw [Plan.tagItems_parallel]
    split
    · simp
    · intro w hw
      rw [List.mem_singleton] at hw
      subst hw
      exact ⟨_, rfl, Plan.members_strict hnd tag true, fun id => Plan.mem_members_build⟩

end TestDispatch
