import TestDispatch.Universe
import TestDispatch.Classify.TagIndex
import TestDispatch.WorkItem
/-!
# Plans

A plan is the part of the tag index that execution tickets ask for. Requests are taken in order,
and each requested id is planned at most once, under the first ticket that names it; an id the
universe does not know, a skipped id and an id without tag are listed apart, as often as they
are requested. The position of a planned id is its rank among the planned ids.

`Plan.workItems` emits, per tag in byte order, one parallel batch with all the tag's parallel
ids, filed under the ticket of the earliest requested of them, then one item per sequential id.
-/

namespace TestDispatch

/-- One execution ticket and the tests it asks for. -/
structure Request where
  ticket : String
  testIds : List String
  deriving DecidableEq, Repr, Inhabited

/-- What every emitted work item carries besides its tests. -/
structure PlanMeta where
  targets : List String := []
  build : String := ""
  buildType : String := ""
  testPlan : String := ""
  deriving DecidableEq, Repr, Inhabited

/-- A planned test. -/
structure PlannedTest where
  id : String
  ticket : String
  tag : String
  parallel : Bool
  deriving DecidableEq, Repr, Inhabited

/-- The requested subset of the index. -/
structure Plan where
  /-- The planned tests in request order. -/
  planned : List PlannedTest := []
  /-- Requested ids the universe does not know. -/
  unknown : List String := []
  /-- Requested ids marked to be skipped. -/
  skipped : List String := []
  /-- Requested ids known but without usable tag. -/
  unclassified : List String := []
  deriving Repr, Inhabited

namespace Plan

/-- The planned test of an id. -/
def find? (p : Plan) (id : String) : Option PlannedTest := p.planned.find? (·.id = id)

/-- The plan after one more requested id. -/
def consider (u : Universe) (c : Classify.Classification) (p : Plan) (ticket id : String) : Plan :=
  if (p.find? id).isSome then p
  else if !u.has id then { p with unknown := p.unknown ++ [id] }
  else if c.isSkipped id then { p with skipped := p.skipped ++ [id] }
  else match c.index.lookup? id with
    | none => { p with unclassified := p.unclassified ++ [id] }
    | some m => { p with planned := p.planned ++ [⟨id, ticket, m.tag, m.parallel⟩] }

/-- The plan of a list of requests. -/
def build (requests : List Request) (u : Universe) (c : Classify.Classification) : Plan :=
  requests.foldl (fun p r => r.testIds.foldl (fun p id => consider u c p r.ticket id) p) {}

/-- The ticket each planned id is filed under, in request order. -/
def tickets (p : Plan) : List (String × String) := p.planned.map fun t => (t.id, t.ticket)

/-- The position of each planned id, in request order. -/
def order (p : Plan) : List (String × Nat) := p.planned.zipIdx.map fun (t, i) => (t.id, i)

/-- The planned tags, in byte order. -/
def tags (p : Plan) : List String := sortedDistinct (p.planned.map (·.tag))

/-- The planned ids of a tag with the given mode, in byte order. -/
def members (p : Plan) (tag : String) (parallel : Bool) : List String :=
  sortTexts ((p.planned.filter fun t => t.tag = tag && t.parallel = parallel).map (·.id))

/-- The number of planned tests. -/
def size (p : Plan) : Nat := p.planned.length

/-- The ticket of a planned id, and the empty text for an id the plan does not hold. -/
def ticketOf (p : Plan) (id : String) : String := ((p.find? id).map (·.ticket)).getD ""

/-- The position of a planned id, and 0 for an id the plan does not hold. -/
def position (p : Plan) (id : String) : Nat := (p.order.lookup id).getD 0

/-- The earliest requested of some ids: starting from `first`, each later id of smaller position
takes its place. -/
def earliest (p : Plan) (first : String) (rest : List String) : String :=
  rest.foldl (fun first id => if p.position id < p.position first then id else first) first

/-- The ticket a batch is filed under: that of its earliest requested id. A batch is never empty;
the empty text stands for no ticket. -/
def batchTicket (p : Plan) : List String → String
  | [] => ""
  | first :: rest => p.ticketOf (p.earliest first rest)

/-- The work items of a plan, per tag in byte order: the parallel batch, then one item per
sequential test. -/
def workItems (p : Plan) (m : PlanMeta) : List WorkItem :=
  let build := if m.build = "" then defaultBuild else m.build
  let item (tag : String) (ids : List String) (parallel : Bool) (ticket : String) : WorkItem :=
    { tag, testIds := some ids, parallel, ticket, targets := some m.targets, build,
      buildType := m.buildType, testPlan := m.testPlan }
  p.tags.flatMap fun tag =>
    let par := p.members tag true
    (if par.isEmpty then [] else [item tag par true (p.batchTicket par)]) ++
      (p.members tag false).map fun id => item tag [id] false (p.ticketOf id)

end Plan

end TestDispatch

namespace TestDispatch

/-- The requests of a list of tickets, each resolved to its tests; a ticket that cannot be
resolved is left out. -/
def resolveRequests {ε : Type} (resolve : String → Except ε (List String)) (tickets : List String) :
    List Request :=
  tickets.filterMap fun t =>
    match resolve t with
    | .ok ids => some ⟨t, ids⟩
    | .error _ => none

end TestDispatch
