import TestDispatch.Json.Member
/-!
# Work items

A work item is one unit of dispatchable work: the whole parallel batch of one tag, or one test
that must run alone. It names the tests, the execution ticket they are filed under, the targets
that may run them and the build to test. The two lists may be absent, which the wire form writes
as `null`, as opposed to present and empty.

The item whose ticket is `STOP` is the administrative message that tells a consumer to stop.
-/

namespace TestDispatch

/-- The build tested when an item names none. -/
def defaultBuild : String := "000"

/-- The execution ticket of the administrative stop message. -/
def stopTicket : String := "STOP"

/-- One unit of dispatchable work. -/
structure WorkItem where
  /-- The primary tag the tests share. -/
  tag : String := ""
  /-- The tests, in the order to run them. -/
  testIds : Option (List String) := none
  /-- Whether the tests may run at the same time. -/
  parallel : Bool := false
  /-- The execution ticket the tests are filed under. -/
  ticket : String := ""
  /-- The targets that may run the tests, in order of preference. -/
  targets : Option (List String) := none
  /-- The build to test. -/
  build : String := ""
  /-- The kind of build. -/
  buildType : String := ""
  /-- The test plan the run belongs to. -/
  testPlan : String := ""
  deriving DecidableEq, Repr, Inhabited

namespace WorkItem

/-- The tests of an item, none when the list is absent. -/
def tests (w : WorkItem) : List String := w.testIds.getD []

/-- The targets of an item, none when the list is absent. -/
def targetList (w : WorkItem) : List String := w.targets.getD []

/-- Whether an item is the administrative stop message. -/
def isStop (w : WorkItem) : Bool := w.ticket == stopTicket

/-- The administrative stop message: empty lists, the default build. -/
def stop : WorkItem :=
  { testIds := some [], ticket := stopTicket, targets := some [], build := defaultBuild }

/-- A list that may be absent, as JSON. -/
def listValue : Option (List String) → Json.Value
  | none => .null
  | some xs => Json.Value.strs xs

/-- The wire form of an item: its eight members in a fixed order. -/
def toJson (w : WorkItem) : Json.Value :=
  .object [("tag", .string w.tag), ("test_set", listValue w.testIds),
    ("parallel", .bool w.parallel), ("te_ticket", .string w.ticket),
    ("targets", listValue w.targets), ("build", .string w.build),
    ("build_type", .string w.buildType), ("test_plan", .string w.testPlan)]

/-- The item after one more member of its wire form, or the kind of a value that does not fit. -/
def readMember (w : WorkItem) (name : String) (v : Json.Value) : Except Json.Mismatch WorkItem :=
  let mismatch (expected : String) (given : String) : Json.Mismatch :=
    { given, record := "WorkItem", field := name, expected }
  let text (set : String → WorkItem) : Except Json.Mismatch WorkItem :=
    match v.asText? with
    | .ok (some s) => .ok (set s)
    | .ok none => .ok w
    | .error g => .error (mismatch "string" g)
  let texts (set : Option (List String) → WorkItem) : Except Json.Mismatch WorkItem :=
    match v.asTexts? with
    | .ok (some xs) => .ok (set xs)
    | .ok none => .ok w
    | .error g =>
      .error (mismatch (match v with | .array _ => "string" | _ => "[]string") g)
  if Json.namesField name "tag" then text fun s => { w with tag := s }
  else if Json.namesField name "test_set" then texts fun xs => { w with testIds := xs }
  else if Json.namesField name "parallel" then
    match v.asFlag? with
    | .ok (some b) => .ok { w with parallel := b }
    | .ok none => .ok w
    | .error g => .error (mismatch "bool" g)
  else if Json.namesField name "te_ticket" then text fun s => { w with ticket := s }
  else if Json.namesField name "targets" then texts fun xs => { w with targets := xs }
  else if Json.namesField name "build" then text fun s => { w with build := s }
  else if Json.namesField name "build_type" then text fun s => { w with buildType := s }
  else if Json.namesField name "test_plan" then text fun s => { w with testPlan := s }
  else .ok w

/-- An item read from the members of an object in order; the first member that does not fit is
reported, after every member has been read. -/
def ofMembers (members : List (String × Json.Value)) : WorkItem × Option Json.Mismatch :=
  members.foldl (fun (w, first) (name, v) =>
    match w.readMember name v with
    | .ok w' => (w', first)
    | .error m => (w, first <|> some m)) ({}, none)

end WorkItem

end TestDispatch
