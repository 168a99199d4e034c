import TestDispatch.Json.Reader
import TestDispatch.Json.Member
import TestDispatch.Time.Layout
/-!
# Decoding records from JSON values

A record is decoded from a JSON value member by member, in the order written:

* a member selects the field of its name, compared without regard to case (an exact match
  first); members that select no field are skipped, and a later member of one name overwrites
  an earlier one;
* `null` leaves a text, flag, number or record field as it was, and clears an optional one;
* an object decoded into a record field fills the fields it names and keeps the others;
* a value of the wrong kind leaves its field as it was; decoding goes on, and the first such
  mismatch is reported at the end (`json: cannot unmarshal number into Go struct field
  CreateRequest.record.id of type string`, or `... into Go value of type model.CreateRequest`
  for the whole value);
* a time field takes only a string holding a strict RFC 3339 time. Anything else stops the
  decoding at once with the time reader's words, which are reported even after a mismatch.

Text that holds no JSON value at all is reported with the reader's words: the stream reader's
(`EOF`, `unexpected EOF`, `invalid character ...`) when the first value of a body is decoded,
the whole-text reader's (`unexpected end of JSON input`, `... after top-level value`) when the
body must be one value.
-/

namespace TestDispatch.Json

/-- Decoding: a failure that stops the decoding, and the first mismatch met so far. -/
abbrev Decoding := StateT (Option String) (Except String)

/-- Where a value is decoded: the record type of the whole value, by its plain name (as
`CreateRequest`) and by its qualified name (as `model.CreateRequest`), and the member names
leading to the value. -/
structure Site where
  root : String
  qualified : String
  path : List String := []
  deriving Repr, Inhabited

/-- The site one member further in. -/
def Site.child (s : Site) (name : String) : Site := { s with path := s.path ++ [name] }

/-- Records a mismatch of a value described as `given` decoded as `expected` at a site, unless
an earlier one was recorded. -/
def mismatch (s : Site) (given expected : String) : Decoding Unit :=
  let words := match s.path with
    | [] => s!"json: cannot unmarshal {given} into Go value of type {s.qualified}"
    | path =>
      let dotted := ".".intercalate path
      s!"json: cannot unmarshal {given} into Go struct field {s.root}.{dotted} of type {expected}"
  modify fun first => first.orElse fun _ => some words

/-- A text field. -/
def decodeText (s : Site) (v : Value) (old : String) (typeName : String := "string") :
    Decoding String :=
  match v with
  | .string t => pure t
  | .null => pure old
  | v => do mismatch s v.mismatchName typeName; pure old

/-- A flag field. -/
def decodeFlag (s : Site) (v : Value) (old : Bool) : Decoding Bool :=
  match v with
  | .bool b => pure b
  | .null => pure old
  | v => do mismatch s v.mismatchName "bool"; pure old

/-- An optional text field. -/
def decodeOptText (s : Site) (v : Value) (old : Option String) : Decoding (Option String) :=
  match v with
  | .string t => pure (some t)
  | .null => pure none
  | v => do mismatch s v.mismatchName "string"; pure old

/-- An optional flag field. -/
def decodeOptFlag (s : Site) (v : Value) (old : Option Bool) : Decoding (Option Bool) :=
  match v with
  | .bool b => pure (some b)
  | .null => pure none
  | v => do mismatch s v.mismatchName "bool"; pure old

/-- The least 64-bit signed integer. -/
def int64Min : Int := -9223372036854775808

/-- The greatest 64-bit signed integer. -/
def int64Max : Int := 9223372036854775807

/-- A 64-bit signed integer field of type `typeName`. A number that is not written as an
integer, or does not fit, is a mismatch that shows the number (`number 1.5`). -/
def decodeInt64 (s : Site) (typeName : String) (v : Value) (old : Int) : Decoding Int :=
  match v with
  | .number n =>
    match n.toInt? with
    | some i => if int64Min ≤ i && i ≤ int64Max then pure i
        else do mismatch s ("number " ++ n.text) typeName; pure old
    | none => do mismatch s ("number " ++ n.text) typeName; pure old
  | .null => pure old
  | v => do mismatch s v.mismatchName typeName; pure old

/-- A time field. -/
def decodeTime (v : Value) (old : Instant) : Decoding Instant :=
  match v with
  | .null => pure old
  | .string t =>
    match Instant.readStrict t with
    | .ok i => pure i
    | .error e => throw e
  | _ => throw "Time.UnmarshalJSON: input is not a JSON string"

/-- The members of an object decoded into a record: `field` gives the decoder of the field a
member name selects, if any. -/
def decodeMembers (members : List (String × Value)) (init : α)
    (field : String → Option (Value → α → Decoding α)) : Decoding α :=
  members.foldlM (fun acc (name, v) => match field name with
    | some dec => dec v acc
    | none => pure acc) init

/-- The field, among `(name, decoder)` pairs, that a member name selects. -/
def select (fields : List (String × β)) (member : String) : Option β :=
  match fields.find? (·.1 = member) with
  | some (_, f) => some f
  | none => (fields.find? fun f => namesField member f.1).map Prod.snd

/-- A record-valued field of type `typeName`, decoded with the member table `fields`. -/
def decodeRecord (s : Site) (typeName : String) (fields : List (String × (Value → α → Decoding α)))
    (v : Value) (old : α) : Decoding α :=
  match v with
  | .object members => decodeMembers members old (select fields)
  | .null => pure old
  | v => do mismatch s v.mismatchName typeName; pure old

/-- A list of texts: each element is decoded over the element at its place in the old list (the
empty text past its end), and `null` clears the list. -/
def decodeTexts (s : Site) (typeName : String) (v : Value) (old : Option (List String)) :
    Decoding (Option (List String)) :=
  match v with
  | .array items => do
    let base := old.getD []
    let read ← (items.zipIdx).mapM fun (item, i) => decodeText s item (base.getD i "")
    pure (some read)
  | .null => pure none
  | v => do mismatch s v.mismatchName typeName; pure old

/-- Decodes a value as a record of the type `site` names, with the member table `fields`. -/
def decodeValue (site : Site) (init : α) (fields : Site → List (String × (Value → α → Decoding α)))
    (v : Value) : Except String α :=
  let run : Decoding α := match v with
    | .object members => decodeMembers members init (select (fields site))
    | .null => pure init
    | v => do mismatch site v.mismatchName site.qualified; pure init
  match run.run none with
  | .error e => .error e
  | .ok (_, some e) => .error e
  | .ok (r, none) => .ok r

/-- Decodes the first JSON value of a body, ignoring what follows it. -/
def decodeFirst (site : Site) (init : α) (fields : Site → List (String × (Value → α → Decoding α)))
    (body : String) : Except String α :=
  match readFirst body.toUTF8.toList with
  | .error e => .error e.streamMessage
  | .ok (v, _) => decodeValue site init fields v

/-- Decodes a body that must be exactly one JSON value. -/
def decodeWhole (site : Site) (init : α) (fields : Site → List (String × (Value → α → Decoding α)))
    (body : List UInt8) : Except String α :=
  match readWhole body with
  | .error e => .error e.wholeMessage
  | .ok v => decodeValue site init fields v

end TestDispatch.Json
