import TestDispatch.Store
/-!
# What the store's statements mean

The store asks the database for rows through statements whose values are bound to their
placeholders by position. This module reads the statements back as operations on records:

* `TargetQuery.passes_whereClause`: the condition a query renders selects exactly the records the
  query matches, occupancy compared as the integers 1 and 0;
* `TargetPatch.writeAll_setClause`: the assignments an update renders write exactly the patch
  and the time of the write;
* `bound_update_take` and `bound_update_drop`: binding the values of the assignments before
  those of the condition gives each placeholder of the statement its own value, since an update
  renders as many values as it names columns;
* the emptiness checks on the rendered clauses are the checks on the filter and the patch
  (`TargetQuery.whereClause_columns_isEmpty`, `TargetPatch.setClause_length_eq_one`).
-/

namespace TestDispatch

theorem Clause.bound_ofParts (parts : List (Column × SqlValue)) :
    (Clause.ofParts parts).bound = parts := by
  simpa [Clause.ofParts, Clause.bound] using List.zip_unzip parts

theorem Clause.length_values_ofParts (parts : List (Column × SqlValue)) :
    (Clause.ofParts parts).values.length = (Clause.ofParts parts).columns.length := by
  simp [Clause.ofParts]

@[simp] theorem SqlValue.text_beq (a b : String) :
    (SqlValue.text a == SqlValue.text b) = decide (a = b) :=
  Bool.eq_iff_iff.mpr (by simp)

@[simp] theorem SqlValue.ofBool_beq (a b : Bool) :
    (SqlValue.ofBool a == SqlValue.ofBool b) = decide (a = b) := by
  cases a <;> cases b <;> rfl

/-- Occupancy written as an integer reads back as itself. -/
@[simp] theorem TargetRecord.write_ofBool (r : TargetRecord) (b : Bool) :
    r.write .occupied (.ofBool b) = { r with occupied := b } := by
  cases b <;> rfl

@[simp] theorem TargetRecord.write_holder (r : TargetRecord) (h : String) :
    r.write .holder (.text h) = { r with holder := h } := rfl

@[simp] theorem TargetRecord.write_updatedAt (r : TargetRecord) (t : Instant) :
    r.write .updatedAt (.time t) = { r with updatedAt := t } := rfl

/-- The condition of a query selects exactly the records the query matches. -/
theorem TargetQuery.passes_whereClause (q : TargetQuery) (r : TargetRecord) :
    r.passes q.whereClause.bound = q.matches r := by
  obtain ⟨id, occupied, holder⟩ := q
  rw [TargetQuery.whereClause, Clause.bound_ofParts]
  -- each part the query names adds one comparison; a part it leaves out matches every record
  cases id <;> cases occupied <;> cases holder <;>
    simp [TargetRecord.passes, TargetRecord.column, TargetQuery.matches, eq_comm, Bool.and_assoc]

/-- The assignments of an update write the patch and the time of the write. -/
theorem TargetPatch.writeAll_setClause (p : TargetPatch) (now : Instant) (r : TargetRecord) :
    r.writeAll (p.setClause now).bound = { p.apply r with updatedAt := now } := by
  obtain ⟨occupied, holder⟩ := p
  rw [TargetPatch.setClause, Clause.bound_ofParts]
  cases occupied <;> cases holder <;> simp [TargetRecord.writeAll, TargetPatch.apply]

theorem TargetQuery.whereClause_columns_isEmpty (q : TargetQuery) :
    q.whereClause.columns.isEmpty = q.isEmpty := by
  obtain ⟨id, occupied, holder⟩ := q
  cases id <;> cases occupied <;> cases holder <;> rfl

/-- An update's assignments are the time of the write alone exactly when the patch sets
nothing. -/
theorem TargetPatch.setClause_length_eq_one (p : TargetPatch) (now : Instant) :
    (p.setClause now).columns.length = 1 ↔ p.isEmpty = true := by
  obtain ⟨occupied, holder⟩ := p
  cases occupied <;> cases holder <;> simp [TargetPatch.setClause, Clause.ofParts,
    TargetPatch.isEmpty]

/-- The placeholders of an update's assignments get the values of its assignments. -/
theorem bound_update_take (sets condition : Clause) (h : sets.values.length = sets.columns.length) :
    ((sets.columns ++ condition.columns).zip (sets.values ++ condition.values)).take
      sets.columns.length = sets.bound := by
  rw [List.zip_append h.symm]
  exact List.take_left' (by simp [h])

/-- The placeholders of an update's condition get the values of its condition. -/
theorem bound_update_drop (sets condition : Clause) (h : sets.values.length = sets.columns.length) :
    ((sets.columns ++ condition.columns).zip (sets.values ++ condition.values)).drop
      sets.columns.length = condition.bound := by
  rw [List.zip_append h.symm]
  exact List.drop_left' (by simp [h])

theorem TargetPatch.length_values_setClause (p : TargetPatch) (now : Instant) :
    (p.setClause now).values.length = (p.setClause now).columns.length :=
  Clause.length_values_ofParts _

end TestDispatch
