import TestDispatch.Json.Value
/-!
# Reading records from JSON objects

A record is read from a JSON object member by member, in the order written. A member name
selects the field of the same name, compared without regard to case: ASCII letters fold to upper
case, the Kelvin sign to `K` and the long s to `S` (the only characters outside ASCII that fold to
an ASCII letter). A later member of one name overwrites an earlier one, a `null` leaves a field as
it was, and a member of the wrong kind is reported as a `Mismatch` while reading goes on; the
first mismatch is the one reported.
-/

namespace TestDispatch.Json

/-- A member name in folded form. -/
def foldName (s : String) : String :=
  String.ofList <| s.toList.map fun c =>
    if 'a' ≤ c && c ≤ 'z' then Char.ofNat (c.toNat - 32)
    else if c = 'K' then 'K'
    else if c = 'ſ' then 'S'
    else c

/-- Whether a member name selects a field. -/
def namesField (member field : String) : Bool := foldName member == foldName field

/-- How a value's kind is named when it does not fit a field. -/
def Value.mismatchName : Value → String
  | .null => "null"
  | .bool _ => "bool"
  | .number _ => "number"
  | .string _ => "string"
  | .array _ => "array"
  | .object _ => "object"

/-- A member whose value does not fit its field. -/
structure Mismatch where
  /-- The kind of the value given. -/
  given : String
  /-- The record read. -/
  record : String
  /-- The field's member name. -/
  field : String
  /-- The type of the field. -/
  expected : String
  deriving DecidableEq, Repr

/-- The words of a mismatch. -/
def Mismatch.message (m : Mismatch) : String :=
  s!"json: cannot unmarshal {m.given} into Go struct field {m.record}.{m.field} of type {m.expected}"

/-- Text of a field from a member value: `none` leaves the field unchanged. -/
def Value.asText? : Value → Except String (Option String)
  | .string s => .ok (some s)
  | .null => .ok none
  | v => .error v.mismatchName

/-- A truth value of a field from a member value. -/
def Value.asFlag? : Value → Except String (Option Bool)
  | .bool b => .ok (some b)
  | .null => .ok none
  | v => .error v.mismatchName

/-- A list of texts from a member value: `some none` sets the list absent. Elements that are not
texts are reported by their kind, and `null` elements read as empty texts. -/
def Value.asTexts? : Value → Except String (Option (Option (List String)))
  | .null => .ok (some none)
  | .array items =>
    match items.find? (fun v => match v with | .string _ | .null => false | _ => true) with
    | some bad => .error bad.mismatchName
    | none => .ok (some (some (items.map fun v => match v with | .string s => s | _ => "")))
  | v => .error v.mismatchName

end TestDispatch.Json
