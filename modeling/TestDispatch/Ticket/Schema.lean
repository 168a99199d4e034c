import TestDispatch.Json.Value
/-!
# The ticket schema

A ticket is a JSON object with exactly eight members: `tag`, `te_ticket`, `build`, `build_type`
and `test_plan` are strings, `test_set` and `targets` are arrays of strings, and `parallel` is a
boolean. `Schema.check` lists every way a value breaks this rule; the value is a ticket exactly
when the list is empty.

Kinds are named as a schema names them: a number is an `integer` when its exact value has no
fraction (`1.0` and `1e400` are integers), else a `number`.
-/

namespace TestDispatch.Ticket

/-- What a member of a ticket holds. -/
inductive MemberKind where
  | text
  | texts
  | flag
  deriving DecidableEq, Repr

/-- The members of a ticket, in the order the schema lists them. -/
def members : List (String × MemberKind) :=
  [("tag", .text), ("test_set", .texts), ("te_ticket", .text), ("targets", .texts),
   ("build", .text), ("build_type", .text), ("test_plan", .text), ("parallel", .flag)]

/-- How the schema names the kind of a value. -/
def kindOf : Json.Value → String
  | .number n => if n.isIntegral then "integer" else "number"
  | v => v.kindName

/-- One way in which a value is no ticket. -/
inductive Violation where
  /-- A member of the schema is missing. -/
  | missing (name : String)
  /-- A member outside the schema is present. -/
  | unexpected (name : String)
  /-- The value at `path` is of kind `given` where `expected` is required. -/
  | wrongKind (path : String) (expected : String) (given : String)
  deriving DecidableEq, Repr

/-- The words of a violation: the place, then what is wrong. -/
def Violation.message : Violation → String
  | .missing n => s!"(root): {n} is required"
  | .unexpected n => s!"(root): Additional property {n} is not allowed"
  | .wrongKind path e g => s!"{path}: Invalid type. Expected: {e}, given: {g}"

/-- The violations of one member's value. -/
def checkMember (name : String) (kind : MemberKind) (v : Json.Value) : List Violation :=
  match kind, v with
  | .text, .string _ => []
  | .text, v => [.wrongKind name "string" (kindOf v)]
  | .flag, .bool _ => []
  | .flag, v => [.wrongKind name "boolean" (kindOf v)]
  | .texts, .array items =>
    (items.zipIdx.filterMap fun (item, i) =>
      match item with
      | .string _ => none
      | other => some (.wrongKind s!"{name}.{i}" "string" (kindOf other)))
  | .texts, v => [.wrongKind name "array" (kindOf v)]

/-- The member names of an object, each once, in order of first appearance. -/
def distinctNames (ms : List (String × Json.Value)) : List String :=
  ms.foldl (fun acc m => if acc.contains m.1 then acc else acc ++ [m.1]) []

/-- Every violation of the ticket schema by a value: of an object, the missing members, the
members outside the schema and the members of a wrong kind (the last of two members of one name
counts); of any other value, its kind. -/
def check (v : Json.Value) : List Violation :=
  match v with
  | .object ms =>
    let present := distinctNames ms
    let missing := (members.filter fun m => !present.contains m.1).map (.missing ·.1)
    let unexpected := (present.filter fun n => !(members.any (·.1 == n))).map .unexpected
    let wrong := members.flatMap fun (name, kind) =>
      match v.get? name with
      | some value => checkMember name kind value
      | none => []
    missing ++ unexpected ++ wrong
  | other => [.wrongKind "(root)" "object" (kindOf other)]

end TestDispatch.Ticket
