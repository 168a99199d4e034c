import TestDispatch.Target
/-!
# The target store

The lock table kept in a local SQL database: one row per target, keyed by its id. Every write
stamps the row with the time of the write. Rows come back ordered by id, compared byte by byte
(for well-formed text that is the order of code points, which is `String`'s order).

The database carries a schema version, and `migrate` brings the schema up to the last of the
`migrations` one step at a time. Each step either applies completely or not at all, so a step
that fails leaves the steps before it in place. A version beyond the known steps is refused.
The version can also be set from outside (through a second connection), which is how a store
ends up asked to repeat a step it already holds.

Once closed, every operation that reaches the database fails with `closed`; closing twice is
harmless. The checks of an update's filter and patch come before the database is reached.

The store speaks to the database in statements whose values are bound to their placeholders
(`?`) by position. A query becomes a condition, one comparison `column = ?` for each part it
names, in the order id, occupancy, holder (`TargetQuery.whereClause`); an update sets
`updated_at = ?` first, then occupancy and holder (`TargetPatch.setClause`), and its statement
binds the values of its assignments before those of its condition. The database keeps occupancy
as the integer 1 or 0 and reads every integer but 0 as occupied; its `=` compares texts octet by
octet and integers by value.
-/

namespace TestDispatch

/-- Why a store operation failed. -/
inductive StoreError where
  /-- A row with this id already exists. -/
  | conflict (id : String)
  /-- An update whose filter selects every row. -/
  | emptyFilter
  /-- An update that sets no column. -/
  | emptyPatch
  /-- The database was closed. -/
  | closed
  /-- The schema version could not be read (the database was closed). -/
  | versionUnreadable
  /-- The schema version is beyond the known migrations. -/
  | tooNew (version : Int)
  /-- The schema version is below zero, so no migration step follows it. -/
  | noStepAfter (version : Int)
  /-- A migration step failed; the database's words. -/
  | migration (step : Nat) (reason : String)
  deriving DecidableEq, Repr, Inhabited

/-- The shape of the target table: whether it exists, whether it has the creation-time column,
and which of its two indexes exist. -/
structure Schema where
  table : Bool := false
  createdAt : Bool := false
  occupiedIndex : Bool := false
  holderIndex : Bool := false
  deriving DecidableEq, Repr, Inhabited

/-- The database's words for a statement on a table that does not exist. -/
def Schema.noTable : String := "SQL logic error: no such table: targets (1)"

/-- The steps that build the schema, in order; step `i + 1` is at index `i`.

1. create the table (when missing) and the index on occupancy;
2. add the creation-time column, which fails when the column is already there;
3. create the index on the holders of occupied rows. -/
def migrations : List (Schema → Except String Schema) :=
  [ fun s => .ok { s with table := true, occupiedIndex := true },
    fun s =>
      if !s.table then .error Schema.noTable
      else if s.createdAt then .error "SQL logic error: duplicate column name: created_at (1)"
      else .ok { s with createdAt := true },
    fun s => if !s.table then .error Schema.noTable else .ok { s with holderIndex := true } ]

/-- The number of known migration steps. -/
def schemaVersion : Nat := migrations.length

/-- The words of a store error. -/
def StoreError.message : StoreError → String
  | .conflict id => s!"target already exists: {id}"
  | .emptyFilter => "update filter must set at least one field"
  | .emptyPatch => "update patch sets no field"
  | .closed => "sql: database is closed"
  | .versionUnreadable => "read schema version: sql: database is closed"
  | .tooNew v => s!"schema version {v} is newer than this binary ({schemaVersion})"
  | .noStepAfter v => s!"runtime error: index out of range [{v}]"
  | .migration n reason => s!"migration {n}: {reason}"

/-- A target store. -/
structure TargetStore where
  /-- The rows, ordered by id, at most one per id. -/
  rows : List TargetRecord := []
  schema : Schema := {}
  /-- The schema version recorded in the database (a signed 32-bit number). -/
  version : Int := 0
  isOpen : Bool := true
  deriving DecidableEq, Repr, Inhabited

/-! ## Statements -/

/-- A column of the target table that a statement names. -/
inductive Column where
  | id
  | occupied
  | holder
  | updatedAt
  deriving DecidableEq, Repr, Inhabited

/-- A value the database keeps. A time is kept as its RFC 3339 text, which reads back as the same
instant. -/
inductive SqlValue where
  | text (s : String)
  | int (n : Int)
  | time (t : Instant)
  deriving DecidableEq, Repr, Inhabited

/-- Occupancy as the database keeps it. -/
def SqlValue.ofBool (b : Bool) : SqlValue := .int (if b then 1 else 0)

/-- The columns of a statement's clause, each with its placeholder, and the values bound to
them. -/
structure Clause where
  columns : List Column
  values : List SqlValue
  deriving DecidableEq, Repr, Inhabited

/-- A clause of the given parts, each a column and the value for its placeholder. -/
def Clause.ofParts (parts : List (Column × SqlValue)) : Clause :=
  ⟨parts.map Prod.fst, parts.map Prod.snd⟩

/-- The columns of a clause paired with the values bound to them. -/
def Clause.bound (c : Clause) : List (Column × SqlValue) := c.columns.zip c.values

/-- The condition of a query: `column = ?` for each part it names, in the order id, occupancy,
holder. -/
def TargetQuery.whereClause (q : TargetQuery) : Clause :=
  .ofParts ((q.id.map fun v => (Column.id, SqlValue.text v)).toList ++
    (q.occupied.map fun v => (Column.occupied, SqlValue.ofBool v)).toList ++
    (q.holder.map fun v => (Column.holder, SqlValue.text v)).toList)

/-- The assignments of an update stamped `now`: the time of the write first, then occupancy and
holder where the patch sets them. -/
def TargetPatch.setClause (p : TargetPatch) (now : Instant) : Clause :=
  .ofParts ([(Column.updatedAt, SqlValue.time now)] ++
    (p.occupied.map fun v => (Column.occupied, SqlValue.ofBool v)).toList ++
    (p.holder.map fun v => (Column.holder, SqlValue.text v)).toList)

/-- What a row holds in a column. -/
def TargetRecord.column (r : TargetRecord) : Column → SqlValue
  | .id => .text r.id
  | .occupied => .ofBool r.occupied
  | .holder => .text r.holder
  | .updatedAt => .time r.updatedAt

/-- Whether a row passes every comparison `column = value`. -/
def TargetRecord.passes (r : TargetRecord) (comparisons : List (Column × SqlValue)) : Bool :=
  comparisons.all fun (c, v) => r.column c == v

/-- A row with a value written into a column. A value of another kind than the column's, which
this store never binds, changes nothing. -/
def TargetRecord.write (r : TargetRecord) : Column → SqlValue → TargetRecord
  | .id, .text s => { r with id := s }
  | .occupied, .int n => { r with occupied := n != 0 }
  | .holder, .text s => { r with holder := s }
  | .updatedAt, .time t => { r with updatedAt := t }
  | _, _ => r

/-- A row with the assignments made in turn. -/
def TargetRecord.writeAll (r : TargetRecord) (assignments : List (Column × SqlValue)) :
    TargetRecord :=
  assignments.foldl (fun r a => r.write a.1 a.2) r

/-- A store operation: it may change the store, also when it fails. -/
abbrev StoreM := ExceptT StoreError (StateM TargetStore)

namespace TargetStore

/-- Fails unless the database is open. -/
def requireOpen : StoreM Unit := do
  unless (← get).isOpen do throw .closed

/-- Inserts a row in id order; the caller has checked that its id is new. -/
def insertSorted (r : TargetRecord) : List TargetRecord → List TargetRecord
  | [] => [r]
  | x :: xs => if r.id < x.id then r :: x :: xs else x :: insertSorted r xs

/-- Applies the migration steps `steps`, the first of which is step `n`; each success records its
step as the schema version. -/
def applySteps (n : Nat) : List (Schema → Except String Schema) → StoreM Unit
  | [] => pure ()
  | step :: rest => do
    let s ← get
    match step s.schema with
    | .error reason => throw (.migration n reason)
    | .ok schema =>
      set { s with schema, version := (n : Int) }
      applySteps (n + 1) rest

/-- Brings the schema up to date from the recorded version. -/
def migrate : StoreM Unit := do
  let s ← get
  unless s.isOpen do throw .versionUnreadable
  if s.version > schemaVersion then throw (.tooNew s.version)
  if s.version < 0 then throw (.noStepAfter s.version)
  applySteps (s.version.toNat + 1) (migrations.drop s.version.toNat)

/-- A new, empty store with its schema in place. -/
def fresh : TargetStore := (migrate.run.run {}).2

/-- Whether the database answers. -/
def ping : StoreM Unit := requireOpen

/-- Closes the database. -/
def close : StoreM Unit := modify fun s => { s with isOpen := false }

/-- The number a version setting stores: the database keeps a signed 32-bit number and reads a
number out of that range as zero. -/
def storedVersion (v : Int) : Int :=
  if -2147483648 ≤ v && v ≤ 2147483647 then v else 0

/-- Records a schema version from outside, whether or not this store is open. -/
def setVersion (v : Int) : StoreM Unit :=
  modify fun s => { s with version := storedVersion v }

/-- The rows a query's condition selects, in id order. -/
def search (q : TargetQuery) : StoreM (List TargetRecord) := do
  requireOpen
  return (← get).rows.filter (·.passes q.whereClause.bound)

/-- The first row whose id is `id`, if there is one. -/
def find? (id : String) : StoreM (Option TargetRecord) := do
  requireOpen
  return ((← get).rows.filter (·.passes [(.id, .text id)])).head?

/-- Adds a row stamped `now`, and answers the row as stored. -/
def create (now : Instant) (r : TargetRecord) : StoreM TargetRecord := do
  requireOpen
  let s ← get
  if s.rows.any (·.id = r.id) then throw (.conflict r.id)
  let row := { r with updatedAt := now }
  set { s with rows := insertSorted row s.rows }
  return row

/-- Runs `UPDATE targets SET sets WHERE conditions` with `values` bound to its placeholders by
position, the assignments' placeholders coming first. Answers how many rows the condition
selected. -/
def execUpdate (sets conditions : List Column) (values : List SqlValue) : StoreM Nat := do
  let bound := (sets ++ conditions).zip values
  let assignments := bound.take sets.length
  let comparisons := bound.drop sets.length
  let s ← get
  set { s with rows := s.rows.map fun (r : TargetRecord) =>
    if r.passes comparisons then r.writeAll assignments else r }
  return (s.rows.filter (·.passes comparisons)).length

/-- Applies a patch, stamped `now`, to every row the filter's condition selects, and answers how
many rows it selected. A filter without a condition, and a patch that sets no more than the
time, are refused. -/
def update (now : Instant) (filter : TargetQuery) (patch : TargetPatch) : StoreM Nat := do
  let condition := filter.whereClause
  if condition.columns.isEmpty then throw .emptyFilter
  let sets := patch.setClause now
  if sets.columns.length = 1 then throw .emptyPatch
  requireOpen
  execUpdate sets.columns condition.columns (sets.values ++ condition.values)

end TargetStore

end TestDispatch
