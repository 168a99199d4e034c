import TestDispatch.Json.Value
/-!
# Test records

A test record is one entry of the test universe: a test id with the tags that describe what the
test exercises, the component tags that describe where it lives, and two markers, `parallel` (the
test may run beside others on one target) and `skip` (the test is not to be scheduled).
-/

namespace TestDispatch

/-- One test of the universe. -/
structure TestRecord where
  id : String := ""
  tags : List String := []
  componentTags : List String := []
  parallel : Bool := false
  skip : Bool := false
  deriving DecidableEq, Repr, Inhabited

namespace TestRecord

/-- Whether a tag is among the record's tags (component tags not included). -/
def hasTag (r : TestRecord) (tag : String) : Bool := r.tags.contains tag

/-- The JSON form of a record: `tags` is `null` when there are none, and `component_tags` is left
out when there are none. -/
def toJson (r : TestRecord) : Json.Value :=
  .object ([("id", .string r.id),
    ("tags", if r.tags.isEmpty then .null else Json.Value.strs r.tags)] ++
    (if r.componentTags.isEmpty then [] else [("component_tags", Json.Value.strs r.componentTags)]) ++
    [("parallel", .bool r.parallel), ("skip", .bool r.skip)])

end TestRecord

end TestDispatch
