import TestDispatch.Proofs.Text.ByteOrder
import TestDispatch.Classify.TagIndex
/-!
# The reverse tag index

The index is one list of filings, and its groups, tags and size are read off that list. Once
every id is filed at most once (`TagIndex.FiledOnce`, kept by `TagIndex.add`), the list reads as
the groups of a map from tags to two sets:

* `TagIndex.mem_members_iff`: an id is in the group of a tag and mode exactly when the index
  looks it up there, so it is in one group and one of its two sets;
* `TagIndex.mem_tags_iff`, `TagIndex.tags_strict`: the tags are the tags something is filed
  under, in strictly increasing byte order, and each has a non-empty group;
* `TagIndex.groups_perm`: the groups of all tags are the filed ids in another order, so the size
  counts them.

`Classifies` says what classifying some records gives, record by record: the index looks an id
up where the first record of that id that is neither skipped nor without tag files it, and the
skipped and dropped lists hold, once each, the ids of the records skipped and of those without
tag. Classifying one more record keeps it (`Classifies.classifyOne`), hence so does
classifying them all (`classifies`).

Main result, `classify_reverse_index`: the index of every classification has the shape above,
no tag of it is empty, and over distinct ids the skipped, the dropped and the indexed ids
partition the ids of the records.
-/

namespace TestDispatch.Classify

namespace TagIndex

/-- Every id has at most one filing. -/
def FiledOnce (x : TagIndex) : Prop := (x.filings.map (·.1)).Nodup

variable {x : TagIndex}

/-- An id the index looks up is filed under the tag of one of its filings. -/
theorem lookup?_mem {id : String} {m : Membership}
    (h : x.lookup? id = some m) : ∃ id', (id', m) ∈ x.filings := by
  obtain ⟨filings⟩ := x
  unfold TagIndex.lookup? at h
  induction filings with
  | nil => cases h
  | cons f fs ih =>
    obtain ⟨k, v⟩ := f
    rw [List.lookup_cons] at h
    cases hk : id == k with
    | true =>
      rw [hk, Option.some.injEq] at h
      exact ⟨k, h ▸ List.mem_cons_self ..⟩
    | false =>
      rw [hk] at h
      obtain ⟨id', hmem⟩ := ih h
      exact ⟨id', List.mem_cons_of_mem _ hmem⟩

theorem lookup?_eq_none_iff {id : String} : x.lookup? id = none ↔ id ∉ x.filings.map (·.1) := by
  rw [lookup?, List.lookup_eq_none_iff, List.mem_map, not_exists]
  refine forall_congr' fun f => ?_
  rw [not_and, bne_iff_ne, ne_comm]

/-- In a list whose keys are distinct, a key is looked up exactly at its entry. -/
theorem lookup_eq_some_iff_of_nodup {α β : Type} [BEq α] [LawfulBEq α] {l : List (α × β)}
    (h : (l.map (·.1)).Nodup) {a : α} {b : β} : l.lookup a = some b ↔ (a, b) ∈ l := by
  induction l with
  | nil => simp
  | cons f fs ih =>
    obtain ⟨k, v⟩ := f
    obtain ⟨hk, hfs⟩ := List.nodup_cons.mp h
    by_cases ha : a = k
    · -- the first entry is the key's own, and the key has no other
      subst ha
      have hrest : (a, b) ∉ fs := fun hm => hk (List.mem_map.mpr ⟨_, hm, rfl⟩)
      simp [eq_comm, hrest]
    · simp only [List.lookup_cons, beq_eq_false_iff_ne.mpr ha, ih hfs, List.mem_cons,
        Prod.mk.injEq, ha, false_and, false_or]

/-- Where every id is filed once, the index looks an id up exactly at its filing. -/
theorem lookup?_eq_some_iff (h : x.FiledOnce) {id : String} {m : Membership} :
    x.lookup? id = some m ↔ (id, m) ∈ x.filings :=
  lookup_eq_some_iff_of_nodup h

/-- Filing an id adds a lookup only for an id not filed yet. -/
theorem lookup?_add (x : TagIndex) (id tag : String) (parallel : Bool) (id' : String) :
    (x.add id tag parallel).lookup? id' =
      (x.lookup? id').or (if id' = id then some ⟨tag, parallel⟩ else none) := by
  unfold add
  split
  · rename_i hfiled
    by_cases hid : id' = id
    · subst hid
      rw [Option.or_of_isSome hfiled]
    · simp [hid]
  · rw [lookup?, List.lookup_append]
    congr 1
    by_cases hid : id' = id
    · subst hid
      simp
    · simp [List.lookup_cons, beq_eq_false_iff_ne.mpr hid, hid]

theorem FiledOnce.add (h : x.FiledOnce) (id tag : String) (parallel : Bool) :
    (x.add id tag parallel).FiledOnce := by
  unfold TagIndex.add
  split
  · exact h
  · rename_i hnew
    have hid : id ∉ x.filings.map (·.1) :=
      lookup?_eq_none_iff.mp (Option.not_isSome_iff_eq_none.mp hnew)
    unfold FiledOnce
    rw [List.map_append, List.nodup_append]
    exact ⟨h, List.nodup_singleton _, fun a ha b hb => by
      rw [List.map_singleton, List.mem_singleton] at hb
      exact fun hab => hid (by rw [hab, hb] at ha; exact ha)⟩

/-! ## Groups and tags -/

/-- An id is in the group of a tag and mode exactly when one of its filings is there. -/
theorem mem_members_iff_mem {tag id : String} {parallel : Bool} :
    id ∈ x.members tag parallel ↔ (id, ⟨tag, parallel⟩) ∈ x.filings := by
  unfold members
  rw [(sortTexts_perm _).mem_iff, List.mem_map]
  simp only [List.mem_filter, Bool.and_eq_true, decide_eq_true_eq]
  constructor
  · rintro ⟨⟨id', ⟨tag', parallel'⟩⟩, ⟨hf, htag, hpar⟩, rfl⟩
    dsimp only at htag hpar ⊢
    rw [← htag, ← hpar]
    exact hf
  · intro hf
    exact ⟨_, ⟨hf, rfl, rfl⟩, rfl⟩

/-- An id is in the group of a tag and mode exactly when the index looks it up there. -/
theorem mem_members_iff (h : x.FiledOnce) {tag id : String} {parallel : Bool} :
    id ∈ x.members tag parallel ↔ x.lookup? id = some ⟨tag, parallel⟩ :=
  mem_members_iff_mem.trans (lookup?_eq_some_iff h).symm

theorem members_nodup (h : x.FiledOnce) (tag : String) (parallel : Bool) :
    (x.members tag parallel).Nodup :=
  (sortTexts_perm _).nodup_iff.mpr (h.sublist (List.Sublist.map _ List.filter_sublist))

theorem mem_tags_iff_mem {tag : String} : tag ∈ x.tags ↔ ∃ f ∈ x.filings, f.2.tag = tag := by
  rw [tags, mem_sortedDistinct, List.mem_map]

/-- The tags are the tags something is filed under. -/
theorem mem_tags_iff (h : x.FiledOnce) {tag : String} :
    tag ∈ x.tags ↔ ∃ id parallel, x.lookup? id = some ⟨tag, parallel⟩ := by
  rw [mem_tags_iff_mem]
  constructor
  · rintro ⟨⟨id, ⟨tag', parallel⟩⟩, hf, rfl⟩
    exact ⟨id, parallel, (lookup?_eq_some_iff h).mpr hf⟩
  · rintro ⟨id, parallel, hlook⟩
    exact ⟨_, (lookup?_eq_some_iff h).mp hlook, rfl⟩

theorem tags_strict (x : TagIndex) : x.tags.Pairwise (· < ·) := sortTexts_strict (nodup_eraseDups _)

/-- The group of a listed tag is not empty. -/
theorem group_ne_nil {tag : String} (ht : tag ∈ x.tags) :
    x.members tag true ++ x.members tag false ≠ [] := by
  obtain ⟨⟨id, ⟨tag', parallel⟩⟩, hf, rfl⟩ := mem_tags_iff_mem.mp ht
  have hmem : id ∈ x.members tag' parallel := mem_members_iff_mem.mpr hf
  cases parallel with
  | true => exact List.ne_nil_of_mem (List.mem_append_left _ hmem)
  | false => exact List.ne_nil_of_mem (List.mem_append_right _ hmem)

/-- The groups of all tags are the filed ids in another order. -/
theorem groups_perm (x : TagIndex) :
    (x.tags.flatMap fun tag => x.members tag true ++ x.members tag false).Perm
      (x.filings.map (·.1)) :=
  perm_groups x.filings (·.1) (·.2.tag) (·.2.parallel)

/-- The size counts the ids of all groups. -/
theorem size_eq_groups (x : TagIndex) :
    x.size = (x.tags.flatMap fun tag => x.members tag true ++ x.members tag false).length := by
  rw [(groups_perm x).length_eq, List.length_map, size]

end TagIndex

/-! ## Classifying records -/

theorem mem_addDistinct {xs : List String} {id x : String} :
    x ∈ addDistinct xs id ↔ x ∈ xs ∨ x = id := by
  unfold addDistinct
  split
  · rename_i h
    constructor
    · exact .inl
    · rintro (hx | rfl)
      · exact hx
      · exact List.contains_iff_mem.mp h
  · simp

theorem nodup_addDistinct {xs : List String} (h : xs.Nodup) (id : String) :
    (addDistinct xs id).Nodup := by
  unfold addDistinct
  split
  · exact h
  · rename_i hid
    exact h.append (List.nodup_singleton _)
      (List.disjoint_singleton.mpr fun hm => hid (List.contains_iff_mem.mpr hm))

theorem exists_mem_append_singleton {records : List TestRecord} {r : TestRecord}
    {p : TestRecord → Prop} : (∃ r' ∈ records ++ [r], p r') ↔ (∃ r' ∈ records, p r') ∨ p r := by
  simp [or_and_right, exists_or]

/-- What classifying some records gives, said record by record. -/
structure Classifies (o : Options) (records : List TestRecord) (c : Classification) : Prop where
  filedOnce : c.index.FiledOnce
  /-- An id is looked up where the first record of that id that is filed puts it. -/
  lookup : ∀ id, c.index.lookup? id =
    (records.find? fun r => r.id == id && !o.isSkipped r && o.primaryTag r != "").map
      fun r => ⟨o.primaryTag r, o.isParallel r⟩
  skipped : ∀ id, id ∈ c.skipped ↔ ∃ r ∈ records, r.id = id ∧ o.isSkipped r = true
  dropped : ∀ id, id ∈ c.dropped ↔
    ∃ r ∈ records, r.id = id ∧ o.isSkipped r = false ∧ o.primaryTag r = ""
  skipped_nodup : c.skipped.Nodup
  dropped_nodup : c.dropped.Nodup

variable {o : Options}

theorem Classifies.init (o : Options) : Classifies o [] {} where
  filedOnce := List.nodup_nil
  lookup _ := rfl
  skipped _ := by simp
  dropped _ := by simp
  skipped_nodup := List.nodup_nil
  dropped_nodup := List.nodup_nil

/-- The first filed record of an id among some records and one more. -/
theorem find?_append_singleton (records : List TestRecord) (r : TestRecord) (id : String) :
    ((records ++ [r]).find? fun r => r.id == id && !o.isSkipped r && o.primaryTag r != "").map
        (fun r => (⟨o.primaryTag r, o.isParallel r⟩ : Membership)) =
      ((records.find? fun r => r.id == id && !o.isSkipped r && o.primaryTag r != "").map
        fun r => ⟨o.primaryTag r, o.isParallel r⟩).or
        (if r.id = id ∧ o.isSkipped r = false ∧ o.primaryTag r ≠ "" then
          some ⟨o.primaryTag r, o.isParallel r⟩ else none) := by
  rw [List.find?_append, Option.map_or, List.find?_singleton]
  congr 1
  split <;> simp_all

/-- Classifying one more record keeps what the classification says of the records before. -/
theorem Classifies.classifyOne {records : List TestRecord} {c : Classification}
    (h : Classifies o records c) (r : TestRecord) :
    Classifies o (records ++ [r]) (o.classifyOne c r) := by
  unfold Options.classifyOne
  by_cases hskip : o.isSkipped r = true
  · -- a skipped record is only listed as skipped
    rw [if_pos hskip]
    refine ⟨h.filedOnce, fun id => ?_, fun id => ?_, fun id => ?_,
      nodup_addDistinct h.skipped_nodup r.id, h.dropped_nodup⟩
    · rw [find?_append_singleton, if_neg (by simp [hskip]), Option.or_none]
      exact h.lookup id
    · rw [mem_addDistinct, h.skipped, exists_mem_append_singleton]
      exact or_congr_right ⟨fun hid => ⟨hid.symm, hskip⟩, fun hr => hr.1.symm⟩
    · rw [h.dropped, exists_mem_append_singleton]
      simp [hskip]
  · rw [if_neg hskip]
    simp only [Bool.not_eq_true] at hskip
    by_cases htag : o.primaryTag r = ""
    · -- a record without tag is only listed as dropped
      rw [if_pos htag]
      refine ⟨h.filedOnce, fun id => ?_, fun id => ?_, fun id => ?_,
        h.skipped_nodup, nodup_addDistinct h.dropped_nodup r.id⟩
      · rw [find?_append_singleton, if_neg (by simp [htag]), Option.or_none]
        exact h.lookup id
      · rw [h.skipped, exists_mem_append_singleton]
        simp [hskip]
      · rw [mem_addDistinct, h.dropped, exists_mem_append_singleton]
        exact or_congr_right ⟨fun hid => ⟨hid.symm, hskip, htag⟩, fun hr => hr.1.symm⟩
    · -- any other record is filed, unless its id already is
      rw [if_neg htag]
      refine ⟨h.filedOnce.add _ _ _, fun id => ?_, fun id => ?_, fun id => ?_,
        h.skipped_nodup, h.dropped_nodup⟩
      · rw [TagIndex.lookup?_add, find?_append_singleton, h.lookup id]
        congr 1
        by_cases hid : r.id = id
        · simp [hid, hskip, htag]
        · simp [hid, Ne.symm hid]
      · rw [h.skipped, exists_mem_append_singleton]
        simp [hskip]
      · rw [h.dropped, exists_mem_append_singleton]
        simp [htag]

theorem Classifies.foldl {records : List TestRecord} {c : Classification}
    (h : Classifies o records c) (rest : List TestRecord) :
    Classifies o (records ++ rest) (rest.foldl o.classifyOne c) := by
  induction rest generalizing records c with
  | nil => simpa using h
  | cons r rest ih => simpa using ih (h.classifyOne r)

theorem classifies (o : Options) (records : List TestRecord) :
    Classifies o records (o.classify records) := by
  have h := (Classifies.init o).foldl records
  rwa [List.nil_append] at h

/-- Classifying one more record files it, if at all, under a non-empty tag. -/
theorem classifyOne_tag_ne_empty (o : Options) {c : Classification}
    (hc : ∀ f ∈ c.index.filings, f.2.tag ≠ "") (r : TestRecord) :
    ∀ f ∈ (o.classifyOne c r).index.filings, f.2.tag ≠ "" := by
  unfold Options.classifyOne
  split
  · exact hc
  · dsimp only
    split
    · exact hc
    · rename_i htag
      intro f hf
      unfold TagIndex.add at hf
      split at hf
      · exact hc f hf
      · rcases List.mem_append.mp hf with hf | hf
        · exact hc f hf
        · rw [List.mem_singleton] at hf
          subst hf
          exact htag

/-- Classification files every test under a non-empty tag. -/
theorem filings_tag_ne_empty (o : Options) (records : List TestRecord) :
    ∀ f ∈ (o.classify records).index.filings, f.2.tag ≠ "" := by
  unfold Options.classify
  -- the filings of the empty classification and of every step have non-empty tags
  suffices h : ∀ c : Classification, (∀ f ∈ c.index.filings, f.2.tag ≠ "") →
      ∀ f ∈ (records.foldl o.classifyOne c).index.filings, f.2.tag ≠ "" from
    h {} (fun _ hf => by cases hf)
  induction records with
  | nil => exact fun c hc => hc
  | cons r rs ih => exact fun c hc => ih _ (classifyOne_tag_ne_empty o hc r)

/-! ## Skipped, dropped and indexed ids -/

section Partition

variable {records : List TestRecord} {c : Classification}

/-- An id is skipped, dropped or indexed exactly when some record has it. -/
theorem Classifies.mem_ids_iff (h : Classifies o records c) (id : String) :
    id ∈ records.map (·.id) ↔ id ∈ c.skipped ∨ id ∈ c.dropped ∨ (c.index.lookup? id).isSome := by
  rw [h.skipped, h.dropped, h.lookup, Option.isSome_map, List.find?_isSome, List.mem_map]
  constructor
  · rintro ⟨r, hr, rfl⟩
    cases hskip : o.isSkipped r
    · by_cases htag : o.primaryTag r = ""
      · exact .inr (.inl ⟨r, hr, rfl, hskip, htag⟩)
      · exact .inr (.inr ⟨r, hr, by simp [hskip, htag]⟩)
    · exact .inl ⟨r, hr, rfl, hskip⟩
  · rintro (⟨r, hr, rfl, -⟩ | ⟨r, hr, rfl, -⟩ | ⟨r, hr, hp⟩)
    · exact ⟨r, hr, rfl⟩
    · exact ⟨r, hr, rfl⟩
    · simp only [Bool.and_eq_true, beq_iff_eq] at hp
      exact ⟨r, hr, hp.1.1⟩

/-- Over distinct ids, a skipped id is neither dropped nor indexed, and a dropped id is not
indexed. -/
theorem Classifies.disjoint (h : Classifies o records c) (hd : (records.map (·.id)).Nodup)
    (id : String) :
    (id ∈ c.skipped → id ∉ c.dropped ∧ c.index.lookup? id = none) ∧
      (id ∈ c.dropped → c.index.lookup? id = none) := by
  -- two records of one id are one record
  have hone := List.inj_on_of_nodup_map hd
  have hfiled : ∀ r ∈ records, r.id = id → c.index.lookup? id ≠ none →
      o.isSkipped r = false ∧ o.primaryTag r ≠ "" := by
    intro r hr hid hlook
    rw [h.lookup, ne_eq, Option.map_eq_none_iff, List.find?_eq_none] at hlook
    simp only [Bool.and_eq_true, beq_iff_eq, Bool.not_eq_true', bne_iff_ne, ne_eq, not_forall,
      not_not] at hlook
    obtain ⟨r', hr', ⟨hid', hskip'⟩, htag'⟩ := hlook
    obtain rfl := hone hr hr' (hid.trans hid'.symm)
    exact ⟨hskip', htag'⟩
  refine ⟨fun hs => ?_, fun hdr => ?_⟩
  · obtain ⟨r, hr, hid, hskip⟩ := (h.skipped id).mp hs
    refine ⟨fun hdr => ?_, by_contra fun hlook => by simp [(hfiled r hr hid hlook).1] at hskip⟩
    obtain ⟨r', hr', hid', hskip', -⟩ := (h.dropped id).mp hdr
    obtain rfl := hone hr hr' (hid.trans hid'.symm)
    simp [hskip] at hskip'
  · obtain ⟨r, hr, hid, -, htag⟩ := (h.dropped id).mp hdr
    exact by_contra fun hlook => (hfiled r hr hid hlook).2 htag

end Partition

/-- The reverse tag index of every classification: each indexed id is in exactly the group and
set of its lookup, the sets hold no id twice, every listed tag has a non-empty group, the size
counts the ids of all groups, the tags are exactly the group keys in strictly increasing byte
order and none is empty, and an id is looked up where the first record of it that is neither
skipped nor without tag files it. Over distinct ids, the skipped ids (each once), the dropped
ids (each once) and the indexed ids partition the ids of the records. -/
theorem classify_reverse_index (o : Options) (records : List TestRecord) :
    let c := o.classify records
    let x := c.index
    (∀ id tag parallel, id ∈ x.members tag parallel ↔ x.lookup? id = some ⟨tag, parallel⟩) ∧
      (∀ tag parallel, (x.members tag parallel).Nodup) ∧
      (∀ tag ∈ x.tags, x.members tag true ++ x.members tag false ≠ []) ∧
      x.size = (x.tags.flatMap fun tag => x.members tag true ++ x.members tag false).length ∧
      x.tags.Pairwise (· < ·) ∧
      (∀ tag, tag ∈ x.tags ↔ ∃ id parallel, x.lookup? id = some ⟨tag, parallel⟩) ∧
      (∀ id, x.lookup? id =
        (records.find? fun r => r.id == id && !o.isSkipped r && o.primaryTag r != "").map
          fun r => ⟨o.primaryTag r, o.isParallel r⟩) ∧
      "" ∉ x.tags ∧
      c.skipped.Nodup ∧ c.dropped.Nodup ∧
      ((records.map (·.id)).Nodup → ∀ id,
        (id ∈ records.map (·.id) ↔ id ∈ c.skipped ∨ id ∈ c.dropped ∨ (x.lookup? id).isSome) ∧
        (id ∈ c.skipped → id ∉ c.dropped ∧ x.lookup? id = none) ∧
        (id ∈ c.dropped → x.lookup? id = none)) := by
  intro c x
  have h := classifies o records
  have hempty : "" ∉ x.tags := fun ht => by
    obtain ⟨f, hf, htag⟩ := TagIndex.mem_tags_iff_mem.mp ht
    exact filings_tag_ne_empty o records f hf htag
  exact ⟨fun _ _ _ => TagIndex.mem_members_iff h.filedOnce, TagIndex.members_nodup h.filedOnce,
    fun _ => TagIndex.group_ne_nil, TagIndex.size_eq_groups x, TagIndex.tags_strict x,
    fun _ => TagIndex.mem_tags_iff h.filedOnce, h.lookup, hempty, h.skipped_nodup,
    h.dropped_nodup, fun hd id => ⟨h.mem_ids_iff id, h.disjoint hd id⟩⟩

end TestDispatch.Classify
