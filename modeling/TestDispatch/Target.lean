import TestDispatch.Time.Instant
import TestDispatch.Json.Value
/-!
# Targets and the lock table

A target is a machine tests run against. The lock table keeps one record per target: whether it
is occupied and by which holder, and when the record last changed. A free target has the empty
holder, and a record is well formed when it is occupied exactly when its holder is not empty.

A query selects records by any of id, occupancy and holder (a missing part matches every
record); a patch sets occupancy, holder or both.
-/

namespace TestDispatch

/-- A record of the lock table. -/
structure TargetRecord where
  id : String
  occupied : Bool := false
  holder : String := ""
  updatedAt : Instant := Instant.zero
  deriving DecidableEq, Repr, Inhabited

/-- What is known of a target: unknown (no record), free or occupied. -/
inductive TargetState where
  | unknown
  | free
  | occupied
  deriving DecidableEq, Repr, Inhabited

/-- The name of a state. -/
def TargetState.name : TargetState → String
  | .unknown => "UNKNOWN"
  | .free => "FREE"
  | .occupied => "OCCUPIED"

/-- The state of a target given its record, if it has one. -/
def TargetRecord.state : Option TargetRecord → TargetState
  | none => .unknown
  | some r => if r.occupied then .occupied else .free

/-- A selection of records; each part that is present must match. -/
structure TargetQuery where
  id : Option String := none
  occupied : Option Bool := none
  holder : Option String := none
  deriving DecidableEq, Repr, Inhabited

/-- Whether a record is selected by a query. -/
def TargetQuery.matches (q : TargetQuery) (r : TargetRecord) : Bool :=
  (q.id.all (· = r.id)) && (q.occupied.all (· = r.occupied)) && (q.holder.all (· = r.holder))

/-- Whether a query names no part at all. -/
def TargetQuery.isEmpty (q : TargetQuery) : Bool :=
  q.id.isNone && q.occupied.isNone && q.holder.isNone

/-- A change to records: the parts that are present are set. -/
structure TargetPatch where
  occupied : Option Bool := none
  holder : Option String := none
  deriving DecidableEq, Repr, Inhabited

/-- A record with a patch applied. -/
def TargetPatch.apply (p : TargetPatch) (r : TargetRecord) : TargetRecord :=
  { r with occupied := p.occupied.getD r.occupied, holder := p.holder.getD r.holder }

/-- Whether a patch sets nothing. -/
def TargetPatch.isEmpty (p : TargetPatch) : Bool := p.occupied.isNone && p.holder.isNone

/-! ## JSON forms -/

/-- A record as JSON: id, occupancy, holder and the RFC 3339 time of its last change. -/
def TargetRecord.toJson (r : TargetRecord) : Json.Value :=
  .object [("id", .string r.id), ("occupied", .bool r.occupied), ("holder", .string r.holder),
    ("updated_at", .string r.updatedAt.format)]

/-- A query as JSON, with only the parts that are present. -/
def TargetQuery.toJson (q : TargetQuery) : Json.Value :=
  .object ((q.id.map (fun v => [("id", Json.Value.string v)])).getD [] ++
    (q.occupied.map (fun v => [("occupied", Json.Value.bool v)])).getD [] ++
    (q.holder.map (fun v => [("holder", Json.Value.string v)])).getD [])

/-- A patch as JSON, with only the parts that are present. -/
def TargetPatch.toJson (p : TargetPatch) : Json.Value :=
  .object ((p.occupied.map (fun v => [("occupied", Json.Value.bool v)])).getD [] ++
    (p.holder.map (fun v => [("holder", Json.Value.string v)])).getD [])

end TestDispatch
