import TestDispatch.Coordinator.Session
import TestDispatch.Json.Writer
import TestDispatch.Table
/-!
# What the commands print

Work items and session summaries are printed in one of three formats: `table` (box-drawing
lines), `csv`, or `json` (indented by two blanks, `<`, `>` and `&` escaped). Each ends with a
line end.

* Work items are a table with a row per item (its number, tag, mode, ticket and tests) and a
  footer with their count; the tests column is at most 80 columns wide. As JSON they are the
  items' wire forms, or `null` when there are none.
* A summary is a table of metrics, or a JSON object with the summary's fields by name; a list
  of tests that is empty is `null`.
-/

namespace TestDispatch.Cli

open TestDispatch.Coordinator

/-- The output formats. -/
def formats : List String := ["table", "json", "csv"]

/-- An indented JSON document and its line end. -/
def jsonDocument (v : Json.Value) : String := Json.Value.writeIndented true "  " "" v ++ "\n"

/-- A table in the format asked for (`csv`, else drawn), with its line end. -/
def tableDocument (format : String) (t : Table) : String :=
  (if format = "csv" then t.renderCsv else t.render) ++ "\n"

/-- How an item's mode is named. -/
def modeName (parallel : Bool) : String := if parallel then "parallel" else "sequential"

/-- The table of some work items. -/
def itemsTable (items : List WorkItem) : Table :=
  { header := ["#", "Tag", "Mode", "Ticket", "Tests"],
    rows := items.zipIdx.map fun (it, i) =>
      [Cell.ofNat (i + 1), .ofString it.tag, .ofString (modeName it.parallel), .ofString it.ticket,
       .ofString (" ".intercalate it.tests)],
    footer := ["", "", "", "items", toString items.length],
    limits := [(4, 80)] }

/-- Work items printed in a format. -/
def writeItems (format : String) (items : List WorkItem) : String :=
  if format = "json" then
    jsonDocument (if items.isEmpty then .null else .array (items.map WorkItem.toJson))
  else tableDocument format (itemsTable items)

/-- A list of tests as JSON: `null` when empty. -/
def testsJson (xs : List String) : Json.Value := if xs.isEmpty then .null else Json.Value.strs xs

/-- A summary as JSON. -/
def summaryJson (s : Summary) : Json.Value :=
  .object [("Tickets", Json.Value.nat s.tickets), ("Requested", Json.Value.nat s.requested),
    ("Items", Json.Value.nat s.items), ("Unknown", testsJson s.unknown),
    ("Skipped", testsJson s.skipped), ("Unclassified", testsJson s.unclassified),
    ("Dispatch", .object [("Published", Json.Value.nat s.dispatch.published),
      ("Failed", Json.Value.nat s.dispatch.failed), ("Skipped", Json.Value.nat s.dispatch.skipped)]),
    ("Interrupted", .bool s.interrupted)]

/-- The table of a summary. -/
def summaryTable (s : Summary) : Table :=
  { header := ["Metric", "Value"],
    rows := [
      [.ofString "tickets", .ofNat s.tickets],
      [.ofString "requested tests", .ofNat s.requested],
      [.ofString "work items", .ofNat s.items],
      [.ofString "published", .ofNat s.dispatch.published],
      [.ofString "failed", .ofNat s.dispatch.failed],
      [.ofString "skipped items", .ofNat s.dispatch.skipped],
      [.ofString "unknown tests", .ofString (" ".intercalate s.unknown)],
      [.ofString "skip-marked tests", .ofString (" ".intercalate s.skipped)],
      [.ofString "unclassified tests", .ofString (" ".intercalate s.unclassified)],
      [.ofString "interrupted", .ofString (if s.interrupted then "true" else "false")]] }

/-- A summary printed in a format. -/
def writeSummary (format : String) (s : Summary) : String :=
  if format = "json" then jsonDocument (summaryJson s) else tableDocument format (summaryTable s)

end TestDispatch.Cli
