import TestDispatch.Universe
import TestDispatch.Proofs.Text.OctetOrder
/-!
# Building the universe

`Universe.ofRecords` checks the records in order, refusing the first one whose id is empty or was
seen before, and files each record it accepts into a list kept in id order.

Main statement, `universe_of_records`: a list of records gives a universe exactly when every id
is set and no id repeats (`IdsValid`). A list that fails is refused at its first record that has
an empty id or repeats an earlier one, and the error gives that record's position and which of the
two it is. A universe so built holds the given records, one per id, listed in strictly increasing
byte order of their ids; each record is found under its id, and no other id is found.

The building loop is described once (`build_eq_ok_iff`, `build_eq_error_iff`) over any universe
built so far; the lookups follow from the order alone (`get?_of_mem`, `has_iff`).
-/

open scoped List

namespace TestDispatch

/-- Records that make a universe: every id is set and no two records share one. -/
def IdsValid (rs : List TestRecord) : Prop := (∀ r ∈ rs, r.id ≠ "") ∧ (rs.map (·.id)).Nodup

theorem idsValid_nil : IdsValid [] := by simp [IdsValid]

theorem idsValid_cons {r : TestRecord} {rs : List TestRecord} :
    IdsValid (r :: rs) ↔ r.id ≠ "" ∧ r.id ∉ rs.map (·.id) ∧ IdsValid rs := by
  simp only [IdsValid, List.mem_cons, forall_eq_or_imp, List.map_cons, List.nodup_cons]
  tauto

/-! ## Filing a record in id order -/

/-- Records in strictly increasing id order. -/
def IdOrdered (l : List TestRecord) : Prop := l.Pairwise (·.id < ·.id)

theorem insertById_perm (r : TestRecord) (l : List TestRecord) : insertById r l ~ r :: l := by
  induction l with
  | nil => rfl
  | cons s rest ih =>
    unfold insertById
    split
    · rfl
    · exact (ih.cons s).trans (List.Perm.swap r s rest)

theorem ids_insertById_perm (r : TestRecord) (l : List TestRecord) :
    (insertById r l).map (·.id) ~ r.id :: l.map (·.id) :=
  (insertById_perm r l).map _

/-- Filing a record whose id is new keeps a list in strictly increasing id order. -/
theorem insertById_ordered {r : TestRecord} {l : List TestRecord} (hl : IdOrdered l)
    (hr : r.id ∉ l.map (·.id)) : IdOrdered (insertById r l) := by
  induction l with
  | nil => simp [insertById, IdOrdered]
  | cons s rest ih =>
    rw [IdOrdered, List.pairwise_cons] at hl
    have hs : r.id ≠ s.id := fun h => hr (by simp [h])
    have hrest : r.id ∉ rest.map (·.id) := fun h => hr (List.mem_cons_of_mem _ h)
    unfold insertById
    split
    · next hlt =>
      refine List.pairwise_cons.2 ⟨fun t ht => ?_, List.pairwise_cons.2 hl⟩
      rcases List.mem_cons.1 ht with rfl | ht
      · exact hlt
      · exact lt_trans hlt (hl.1 t ht)
    · next hge =>
      -- `r` goes after `s`, whose id is then the smaller one
      have hsr : s.id < r.id := lt_of_le_of_ne (not_lt.1 hge) (Ne.symm hs)
      refine List.pairwise_cons.2 ⟨fun t ht => ?_, ih hl.2 hrest⟩
      rcases List.mem_cons.1 ((insertById_perm r rest).mem_iff.1 ht) with rfl | ht
      · exact hsr
      · exact hl.1 t ht

/-- Whether a record of a list has an id, as the loop asks it. -/
theorem any_id_iff (l : List TestRecord) (id : String) :
    l.any (·.id = id) = true ↔ id ∈ l.map (·.id) := by
  simp [List.mem_map]

/-- After a record is filed, a later id is new exactly when it is not the record's id and was new
before. -/
theorem fresh_insertById_iff {r : TestRecord} {l rest : List TestRecord} :
    (∀ s ∈ rest, s.id ∉ (insertById r l).map (·.id)) ↔
      r.id ∉ rest.map (·.id) ∧ ∀ s ∈ rest, s.id ∉ l.map (·.id) := by
  simp only [(ids_insertById_perm r l).mem_iff, List.mem_cons, not_or]
  constructor
  · intro h
    refine ⟨fun hr => ?_, fun s hs => (h s hs).2⟩
    obtain ⟨s, hs, hsr⟩ := List.mem_map.1 hr
    exact (h s hs).1 hsr
  · rintro ⟨hr, h⟩ s hs
    exact ⟨fun hsr => hr (hsr ▸ List.mem_map_of_mem hs), h s hs⟩

/-! ## The building loop -/

namespace Universe

/-- The ids of a universe are its records' ids. -/
theorem ids_eq (u : Universe) : u.ids = u.records.map (·.id) := rfl

/-- One turn of the loop: an empty id is refused, then an id the universe has, and any other
record is filed. -/
theorem build_cons (u : Universe) (i : Nat) (r : TestRecord) (rest : List TestRecord) :
    build u i (r :: rest) =
      if r.id = "" then .error (.emptyId i)
      else if r.id ∈ u.ids then .error (.duplicateId i r.id)
      else build ⟨insertById r u.records⟩ (i + 1) rest := by
  rw [build]
  exact if_congr Iff.rfl rfl (if_congr (any_id_iff _ _) rfl rfl)

/-- The loop accepts the records exactly when each id is set, new to the universe built so far
and not repeated; the universe it answers files them all. -/
theorem build_eq_ok_iff (u : Universe) (i : Nat) (rs : List TestRecord) (u' : Universe) :
    build u i rs = .ok u' ↔
      IdsValid rs ∧ (∀ r ∈ rs, r.id ∉ u.ids) ∧
        u'.records = rs.foldl (fun l r => insertById r l) u.records := by
  induction rs generalizing u i with
  | nil =>
    cases u; cases u'
    simp only [build, Except.ok.injEq, mk.injEq, idsValid_nil, List.not_mem_nil, false_implies,
      implies_true, List.foldl_nil, true_and]
    exact eq_comm
  | cons r rest ih =>
    rw [build_cons]
    by_cases he : r.id = ""
    · simp [he, idsValid_cons]
    by_cases hd : r.id ∈ u.ids
    · simp [he, hd]
    rw [if_neg he, if_neg hd, ih, idsValid_cons, List.forall_mem_cons, List.foldl_cons]
    simp only [ids_eq, fresh_insertById_iff]
    -- the same facts on both sides, with `r`'s own two checks passed
    tauto

/-- The loop refuses the records exactly at the first one whose id is empty or was seen before,
in the universe built so far or among the records before it; the error gives its position,
counted from `i`, and says which of the two it is. -/
theorem build_eq_error_iff (u : Universe) (i : Nat) (rs : List TestRecord) (e : UniverseError) :
    build u i rs = .error e ↔
      ∃ pre r post, rs = pre ++ r :: post ∧ IdsValid pre ∧ (∀ s ∈ pre, s.id ∉ u.ids) ∧
        (r.id = "" ∨ r.id ∈ u.ids ∨ r.id ∈ pre.map (·.id)) ∧
        e = if r.id = "" then .emptyId (i + pre.length) else .duplicateId (i + pre.length) r.id := by
  induction rs generalizing u i with
  | nil => simp [build]
  | cons r rest ih =>
    rw [build_cons]
    constructor
    · intro h
      by_cases he : r.id = ""
      · -- the first record itself is refused for its empty id
        rw [if_pos he] at h
        exact ⟨[], r, rest, rfl, idsValid_nil, by simp, .inl he, by simp [he, ← Except.error.inj h]⟩
      rw [if_neg he] at h
      by_cases hd : r.id ∈ u.ids
      · rw [if_pos hd] at h
        exact ⟨[], r, rest, rfl, idsValid_nil, by simp, .inr (.inl hd),
          by simp [he, ← Except.error.inj h]⟩
      -- the first record is filed, and a later one is refused
      rw [if_neg hd, ih] at h
      obtain ⟨pre, s, post, rfl, hv, hf, hbad, rfl⟩ := h
      simp only [ids_eq, fresh_insertById_iff] at hf
      have hlen : i + 1 + pre.length = i + (r :: pre).length := by simp; omega
      refine ⟨r :: pre, s, post, rfl, idsValid_cons.2 ⟨he, hf.1, hv⟩,
        List.forall_mem_cons.2 ⟨hd, hf.2⟩, ?_, by rw [hlen]⟩
      simp only [ids_eq, (ids_insertById_perm r u.records).mem_iff, List.mem_cons] at hbad
      simp only [ids_eq, List.map_cons, List.mem_cons]
      tauto
    · rintro ⟨pre, s, post, hrs, hv, hf, hbad, rfl⟩
      cases pre with
      | nil =>
        -- the refused record is the first one
        obtain ⟨rfl, rfl⟩ := List.cons.inj hrs
        by_cases he : r.id = ""
        · simp [he]
        · have hd : r.id ∈ u.ids := by simpa [he] using hbad
          simp [he, hd]
      | cons t pre =>
        obtain ⟨rfl, rfl⟩ := List.cons.inj hrs
        obtain ⟨he, hpre, hv⟩ := idsValid_cons.1 hv
        obtain ⟨hd, hf⟩ := List.forall_mem_cons.1 hf
        have hlen : i + 1 + pre.length = i + (r :: pre).length := by simp; omega
        rw [if_neg he, if_neg hd, ih]
        refine ⟨pre, s, post, rfl, hv, ?_, ?_, by rw [hlen]⟩
        · simp only [ids_eq, fresh_insertById_iff]
          exact ⟨hpre, hf⟩
        · simp only [ids_eq, List.map_cons, List.mem_cons] at hbad
          simp only [ids_eq, (ids_insertById_perm r u.records).mem_iff, List.mem_cons]
          tauto

/-- Filing records one by one into a list keeps each of them and nothing else. -/
theorem foldl_insertById_perm (rs l : List TestRecord) :
    rs.foldl (fun l r => insertById r l) l ~ l ++ rs := by
  induction rs generalizing l with
  | nil => simp
  | cons r rest ih =>
    calc rest.foldl (fun l r => insertById r l) (insertById r l)
        _ ~ insertById r l ++ rest := ih _
        _ ~ (r :: l) ++ rest := (insertById_perm r l).append_right rest
        _ ~ l ++ r :: rest := List.perm_middle.symm

/-- Filing records with new ids one by one keeps a list in strictly increasing id order. -/
theorem foldl_insertById_ordered {rs l : List TestRecord} (hl : IdOrdered l)
    (hv : IdsValid rs) (hf : ∀ r ∈ rs, r.id ∉ l.map (·.id)) :
    IdOrdered (rs.foldl (fun l r => insertById r l) l) := by
  induction rs generalizing l with
  | nil => exact hl
  | cons r rest ih =>
    obtain ⟨-, hrest, hv⟩ := idsValid_cons.1 hv
    obtain ⟨hr, hf⟩ := List.forall_mem_cons.1 hf
    exact ih (insertById_ordered hl hr) hv (fresh_insertById_iff.2 ⟨hrest, hf⟩)

/-! ## Looking records up -/

/-- With distinct ids, a record of the universe is found under its id. -/
theorem get?_of_mem {u : Universe} (hu : u.ids.Nodup) {r : TestRecord} (hr : r ∈ u.records) :
    u.get? r.id = some r := by
  obtain ⟨s, hs⟩ := Option.isSome_iff_exists.1
    (List.find?_isSome.2 ⟨r, hr, by simp⟩ : (u.records.find? (·.id = r.id)).isSome)
  have hsr : s.id = r.id := by simpa using List.find?_some hs
  rw [get?, hs, List.inj_on_of_nodup_map hu (List.mem_of_find?_eq_some hs) hr hsr]

/-- An id that no record of the universe has is not found. -/
theorem get?_of_not_mem {u : Universe} {id : String} (h : id ∉ u.ids) : u.get? id = none := by
  rw [get?, List.find?_eq_none]
  intro s hs hsid
  exact h (by simpa [ids_eq] using ⟨s, hs, of_decide_eq_true hsid⟩)

theorem has_iff (u : Universe) (id : String) : u.has id = true ↔ id ∈ u.ids :=
  any_id_iff u.records id

end Universe

/-! ## The universe of a list of records -/

/-- A list of records makes a universe exactly when every id is set and no id repeats. A list
that does not is refused at its first record with an empty id or an id seen before, and the
error gives the record's position and which check failed. A universe so built lists the ids in
strictly increasing byte order (UTF-8 octets compared one by one), holds the given records in
that order, and finds each record under its id and nothing under any other id. -/
theorem universe_of_records (rs : List TestRecord) :
    ((∃ u, Universe.ofRecords rs = .ok u) ↔ IdsValid rs) ∧
    (∀ e, Universe.ofRecords rs = .error e ↔
      ∃ pre r post, rs = pre ++ r :: post ∧ IdsValid pre ∧ (r.id = "" ∨ r.id ∈ pre.map (·.id)) ∧
        e = if r.id = "" then .emptyId pre.length else .duplicateId pre.length r.id) ∧
    (∀ u, Universe.ofRecords rs = .ok u →
      u.size = rs.length ∧
      u.ids.Pairwise (fun a b => Utf8.textOctets a < Utf8.textOctets b) ∧
      u.ids ~ rs.map (·.id) ∧ u.records ~ rs ∧
      (∀ r ∈ rs, u.get? r.id = some r ∧ u.has r.id = true) ∧
      (∀ id, id ∉ rs.map (·.id) → u.get? id = none ∧ u.has id = false)) := by
  have hempty : ({} : Universe).ids = [] := rfl
  -- a built universe holds the records in id order
  have hbuilt : ∀ u, Universe.ofRecords rs = .ok u → IdsValid rs ∧ u.records ~ rs ∧
      IdOrdered u.records := by
    intro u h
    obtain ⟨hv, -, hrec⟩ := (Universe.build_eq_ok_iff {} 0 rs u).1 h
    refine ⟨hv, ?_, ?_⟩
    · rw [hrec]; simpa using Universe.foldl_insertById_perm rs []
    · rw [hrec]; exact Universe.foldl_insertById_ordered List.Pairwise.nil hv (by simp)
  refine ⟨⟨fun ⟨u, h⟩ => (hbuilt u h).1, fun hv => ?_⟩, fun e => ?_, fun u h => ?_⟩
  · exact ⟨⟨rs.foldl (fun l r => insertById r l) []⟩,
      (Universe.build_eq_ok_iff {} 0 rs _).2 ⟨hv, by simp [hempty], rfl⟩⟩
  · rw [Universe.ofRecords, Universe.build_eq_error_iff]
    simp [hempty]
  · obtain ⟨hv, hperm, hord⟩ := hbuilt u h
    have hids : u.ids ~ rs.map (·.id) := hperm.map _
    have hnodup : u.ids.Nodup := hids.nodup_iff.2 hv.2
    refine ⟨hperm.length_eq, ?_, hids, hperm, fun r hr => ?_, fun id hid => ?_⟩
    · exact (List.pairwise_map.2 hord).imp fun h => (Utf8.lt_iff_textOctets_lt _ _).1 h
    · have hmem : r ∈ u.records := hperm.mem_iff.2 hr
      exact ⟨Universe.get?_of_mem hnodup hmem,
        (u.has_iff _).2 (List.mem_map_of_mem hmem)⟩
    · have hid' : id ∉ u.ids := fun h => hid (hids.mem_iff.1 h)
      exact ⟨Universe.get?_of_not_mem hid', Bool.eq_false_iff.2 fun h => hid' ((u.has_iff _).1 h)⟩

end TestDispatch
