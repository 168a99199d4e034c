import TestDispatch.Ticket.Schema
import TestDispatch.WorkItem
import TestDispatch.Json.Reader
import TestDispatch.Json.Writer
import TestDispatch.Text.ByteOrder
/-!
# The ticket codec

A work item travels as a ticket: the compact JSON text of its wire form, HTML characters escaped.
Writing fills in what the schema requires (absent lists become empty, an empty build becomes the
default build) and refuses a work item without tag or tests; the stop message needs neither. The
text written is checked against the schema before it is handed out.

Reading checks the first JSON value of the message against the schema and then reads the whole
message as the item. A message that breaks the schema is still read as the stop message when its
whole text is one JSON object whose `te_ticket` member (name compared without case, the last one
counting) is the string `STOP`.

Every error is an invalid ticket; its message starts with `invalid ticket: `, and schema
violations are listed in byte order, separated by `; `.
-/

namespace TestDispatch.Ticket

/-- Why a ticket cannot be written or read. -/
inductive TicketError where
  /-- A work item without tag. -/
  | emptyTag
  /-- A work item without tests. -/
  | emptyTestSet
  /-- The message holds no readable first JSON value. -/
  | unreadable (e : Json.ReadError)
  /-- The message is not one JSON value as a whole. -/
  | malformed (e : Json.ReadError)
  /-- The first value breaks the schema. -/
  | violations (vs : List Violation)
  /-- A member does not fit its field. -/
  | mismatch (m : Json.Mismatch)
  deriving DecidableEq, Repr

/-- What is wrong, after the common prefix. -/
def TicketError.detail : TicketError → String
  | .emptyTag => "empty tag"
  | .emptyTestSet => "empty test_set"
  | .unreadable e => e.streamMessage
  | .malformed e => e.wholeMessage
  | .violations vs => "; ".intercalate (sortTexts (vs.map Violation.message))
  | .mismatch m => m.message

/-- The words of a ticket error. -/
def TicketError.message (e : TicketError) : String := "invalid ticket: " ++ e.detail

/-- A work item with its lists present and its build named. -/
def normalize (w : WorkItem) : WorkItem :=
  { w with testIds := some w.tests, targets := some w.targetList,
           build := if w.build = "" then defaultBuild else w.build }

/-- Checks the first JSON value of a message against the schema. -/
def validate (data : List UInt8) : Except TicketError Unit :=
  match Json.readFirst data with
  | .error e => .error (.unreadable e)
  | .ok (v, _) =>
    match check v with
    | [] => .ok ()
    | vs => .error (.violations vs)

/-- The ticket text of a work item, checked against the schema. -/
def encode (w : WorkItem) : Except TicketError String :=
  if !w.isStop && w.tag = "" then .error .emptyTag
  else if !w.isStop && w.tests.isEmpty then .error .emptyTestSet
  else
    let data := (normalize w).toJson.write true
    match validate data.toUTF8.toList with
    | .error e => .error e
    | .ok () => .ok data

/-- The `te_ticket` member of an object as a field reads it: the last text given, none after a
`null`, and `false` in the second place when some value given is of another kind. -/
def probeTicket (ms : List (String × Json.Value)) : Option String × Bool :=
  ms.foldl (fun (cur, ok) (name, v) =>
    if Json.namesField name "te_ticket" then
      match v with
      | .string s => (some s, ok)
      | .null => (none, ok)
      | _ => (cur, false)
    else (cur, ok)) (none, true)

/-- Whether a message reads as the stop message despite the schema. -/
def isStopMessage (data : List UInt8) : Bool :=
  match Json.readWhole data with
  | .ok (.object ms) =>
    let (ticket, ok) := probeTicket ms
    ok && ticket == some stopTicket
  | _ => false

/-- The work item of a ticket. -/
def decode (data : List UInt8) : Except TicketError WorkItem :=
  match validate data with
  | .error e => if isStopMessage data then .ok WorkItem.stop else .error e
  | .ok () =>
    match Json.readWhole data with
    | .error e => .error (.malformed e)
    | .ok (.object ms) =>
      match WorkItem.ofMembers ms with
      | (w, none) => .ok w
      | (_, some m) => .error (.mismatch m)
    | .ok _ => .ok {}

end TestDispatch.Ticket
