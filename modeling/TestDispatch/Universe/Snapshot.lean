import TestDispatch.Universe
import TestDispatch.Yaml.Decode
/-!
# Universe snapshots

A snapshot is a YAML (or JSON) document with one key, `tests`, holding the list of test
records. `Universe.read` decodes the first document of a snapshot and builds the universe from
its records; a text with no document is the empty universe.
-/

namespace TestDispatch

open Yaml

/-- How a test record is read from a mapping. -/
def TestRecord.shape : Shape TestRecord :=
  Shape.record "model.TestRecord" [
    Field.of "id" Shape.text (·.id) fun r v => { r with id := v },
    Field.of "tags" (Shape.list Shape.text "") (fun r => some r.tags)
      fun r v => { r with tags := v.getD [] },
    Field.of "component_tags" (Shape.list Shape.text "") (fun r => some r.componentTags)
      fun r v => { r with componentTags := v.getD [] },
    Field.of "parallel" Shape.flag (·.parallel) fun r v => { r with parallel := v },
    Field.of "skip" Shape.flag (·.skip) fun r v => { r with skip := v }]

/-- How a snapshot document is read: its `tests` list. -/
def snapshotShape : Shape (List TestRecord) :=
  Shape.record "catalog.snapshot" [
    Field.of "tests" (Shape.list TestRecord.shape {}) some fun _ v => v.getD []]

/-- Why a snapshot gives no universe. -/
inductive SnapshotError where
  /-- The document could not be decoded. -/
  | decode (e : YamlError)
  /-- Its records are no universe. -/
  | records (e : UniverseError)
  deriving Repr

/-- The words of a snapshot error. -/
def SnapshotError.message : SnapshotError → String
  | .decode e => "decode snapshot: " ++ e.message
  | .records e => e.message

/-- Reads a universe from a snapshot text. -/
def Universe.read (text : String) : Except SnapshotError Universe :=
  match decodeDocument snapshotShape text [] with
  | .error e => .error (.decode e)
  | .ok recs => (Universe.ofRecords (recs.getD [])).mapError .records

end TestDispatch
