import TestDispatch.TestRecord
import TestDispatch.Text.ByteOrder
import TestDispatch.Text.Quoted
/-!
# The test universe

The universe is the set of known tests, one record per id. It is built from a list of records,
which must have non-empty, pairwise distinct ids; the first record that breaks this is reported
by its position, counted from zero. The records are kept in id order.
-/

namespace TestDispatch

/-- Why a list of records is no universe. -/
inductive UniverseError where
  /-- The record at `index` has an empty id. -/
  | emptyId (index : Nat)
  /-- The record at `index` repeats the id of an earlier one. -/
  | duplicateId (index : Nat) (id : String)
  deriving DecidableEq, Repr

/-- The words of a universe error. -/
def UniverseError.message : UniverseError → String
  | .emptyId i => s!"test record {i}: empty id"
  | .duplicateId i id => s!"test record {i}: duplicate id {Quoted.quote id}"

/-- Known tests, in id order, one per id. -/
structure Universe where
  records : List TestRecord := []
  deriving Repr, Inhabited

/-- Inserts a record into a list in id order. -/
def insertById (r : TestRecord) : List TestRecord → List TestRecord
  | [] => [r]
  | s :: rest => if r.id < s.id then r :: s :: rest else s :: insertById r rest

namespace Universe

/-- Checks records from position `index` on, given the universe built so far. -/
def build (u : Universe) (index : Nat) : List TestRecord → Except UniverseError Universe
  | [] => .ok u
  | r :: rest =>
    if r.id = "" then .error (.emptyId index)
    else if u.records.any (·.id = r.id) then .error (.duplicateId index r.id)
    else build ⟨insertById r u.records⟩ (index + 1) rest

/-- The universe of a list of records. -/
def ofRecords (rs : List TestRecord) : Except UniverseError Universe := build {} 0 rs

/-- The record of an id. -/
def get? (u : Universe) (id : String) : Option TestRecord := u.records.find? (·.id = id)

/-- Whether an id is known. -/
def has (u : Universe) (id : String) : Bool := u.records.any (·.id = id)

/-- The ids, in byte order. -/
def ids (u : Universe) : List String := u.records.map (·.id)

/-- The number of known tests. -/
def size (u : Universe) : Nat := u.records.length

end Universe

end TestDispatch
