import TestDispatch.Yaml.Parse
import TestDispatch.Text.Duration
import TestDispatch.Text.Base64
import TestDispatch.Text.Utf8
import TestDispatch.Text.Quoted
/-!
# Decoding a document into typed values

A `Shape α` says how a node becomes a value of type `α`: texts, booleans, integers of a given
width, durations, lists and records of named fields. `unmarshal` walks the document with a
shape, starting from a value that already holds the defaults:

* an alias decodes the node it names; an alias met again inside itself is an error;
* a null scalar leaves a text, number, boolean or record as it is and empties a list;
* a mapping with a key written twice (same kind, same text) decodes nothing and is reported;
* a value of the wrong type is reported (`line 3: cannot unmarshal !!str ... into bool`) and
  leaves its target as it was; decoding goes on, and all reports are returned together;
* a list keeps the entries that decoded; a record takes the fields it knows and skips others;
* a record's `<<` key merges one mapping or a sequence of mappings into it: merged fields never
  override the record's own keys, and of several merged mappings the first to name a field wins.

A tag the text does not fit, an alias of an unknown kind under `<<`, or bad base64 under
`!!binary` stops decoding at once.
-/

namespace TestDispatch.Yaml

open TestDispatch.Text

/-- The state of a decode. -/
structure DecodeState where
  anchored : Array Node
  /-- Reports of values that did not fit, in order. -/
  problems : Array String := #[]
  /-- The anchored nodes whose aliases are being decoded. -/
  following : List Nat := []
  /-- While a merge is decoded: the keys already given, which merged keys do not override. -/
  merged : Option (List String) := none
  decodes : Nat := 0
  aliasDecodes : Nat := 0
  aliasDepth : Nat := 0
  deriving Inhabited

/-- A step of a decode. -/
abbrev DecodeM := StateT DecodeState (Except YamlError)

/-- How nodes become values of type `α`. Each function returns the new value and whether the
node gave one. -/
structure Shape (α : Type) where
  /-- The type's name in reports. -/
  typeName : String
  /-- A scalar that is not null, with its resolved tag and value. -/
  scalar : Node → String → Resolved → α → DecodeM (α × Bool)
  /-- A null scalar. -/
  null : α → α × Bool := fun a => (a, false)
  /-- A sequence; the number bounds the depth of what it decodes. -/
  sequence : Nat → Node → List Node → α → DecodeM (α × Bool)
  /-- A mapping without repeated keys; `self` decodes a node with this same shape. -/
  mapping : (Node → α → DecodeM (α × Bool)) → Nat → Node → List (Node × Node) → α → DecodeM (α × Bool)

/-! ## Reports -/

/-- Adds a report. -/
def report (text : String) : DecodeM Unit :=
  modify fun s => { s with problems := s.problems.push text }

/-- A value cut for a report: whole when at most 10 octets, else its first 7 octets and `...`. -/
def shortValue (v : String) : String :=
  let bytes := Utf8.encode v
  if bytes.length > 10 then Utf8.decodeString (bytes.take 7) ++ "..." else v

/-- Reports a node that does not fit the type `target`. The node's own tag is named; a
scalar's text is shown too. -/
def mismatch {α : Type} (n : Node) (tag : String) (target : String) (cur : α) : DecodeM (α × Bool) := do
  let tag := if n.tag ≠ "" then n.tag else tag
  let shown := if tag ≠ "!!seq" && tag ≠ "!!map" then s!" \x60{shortValue n.value}\x60" else ""
  report s!"line {n.line}: cannot unmarshal {tag}{shown} into {target}"
  pure (cur, false)

/-- Reports every key of a mapping written again later: same kind and same text. -/
def repeatedKeys (entries : List (Node × Node)) : List String :=
  let keys := entries.map Prod.fst
  let rec scan : List Node → List String
    | [] => []
    | k :: rest =>
      (rest.filter fun j => j.kindIndex = k.kindIndex && j.value = k.value).map
        (fun j => s!"line {j.line}: mapping key {Quoted.quote j.value} already defined at line {k.line}") ++
      scan rest
  scan keys

/-! ## Scalars -/

/-- The type and value of a scalar: a `!!str` scalar is its text; others resolve under their
tag, and `!!binary` text is decoded. -/
def scalarValue (n : Node) : DecodeM (String × Resolved) := do
  let (tag, out) ←
    if n.tag = "!!str" then pure ("!!str", Resolved.text n.value)
    else match resolve n.tag n.value with
      | .ok r => pure r
      | .error m => throw (.fatal m)
  if tag = "!!binary" then
    match out with
    | .text t =>
      match Base64.decode t with
      | some bytes => pure (tag, .text (Utf8.decodeString bytes))
      | none => throw (.fatal "!!binary value contains invalid base64 data")
    | _ => pure (tag, out)
  else pure (tag, out)

/-- Decodes a node with a shape, starting from `cur`. The number bounds the depth. -/
def unmarshal {α : Type} (shape : Shape α) : Nat → Node → α → DecodeM (α × Bool)
  | 0, _, cur => pure (cur, false)
  | fuel + 1, n, cur => do
    let st ← get
    let st := { st with decodes := st.decodes + 1,
                        aliasDecodes := if st.aliasDepth > 0 then st.aliasDecodes + 1 else st.aliasDecodes }
    set st
    if st.aliasDecodes > 100 && st.decodes > 1000 && 100 * st.aliasDecodes > 99 * st.decodes then
      throw (.fatal "document contains excessive aliasing")
    match n with
    | .alias _ name target =>
      if st.following.contains target then throw (.fatal s!"anchor '{name}' value contains itself")
      else
        set { st with following := target :: st.following, aliasDepth := st.aliasDepth + 1 }
        let r ← unmarshal shape fuel (st.anchored.getD target default) cur
        modify fun s => { s with following := s.following.erase target, aliasDepth := s.aliasDepth - 1 }
        pure r
    | .scalar .. =>
      let (tag, out) ← scalarValue n
      match out with
      | .null => pure (shape.null cur)
      | _ => shape.scalar n tag out cur
    | .sequence _ _ items => shape.sequence fuel n items cur
    | .mapping _ _ entries =>
      let repeated := repeatedKeys entries
      if repeated.isEmpty then shape.mapping (unmarshal shape fuel) fuel n entries cur
      else
        repeated.forM report
        pure (cur, false)

/-! ## Shapes of plain values -/

/-- The reports for a sequence and a mapping where a scalar type is wanted. -/
def Shape.scalarOnly {α : Type} (typeName : String)
    (scalar : Node → String → Resolved → α → DecodeM (α × Bool)) : Shape α where
  typeName := typeName
  scalar := scalar
  sequence := fun _ n _ cur => mismatch n "!!seq" typeName cur
  mapping := fun _ _ n _ cur => mismatch n "!!map" typeName cur

/-- Texts: a scalar's text as written (decoded for `!!binary`). -/
def Shape.text : Shape String :=
  Shape.scalarOnly "string" fun n tag out cur =>
    match tag, out with
    | "!!binary", .text t => pure (t, true)
    | _, _ => let _ := cur; pure (n.value, true)

/-- Booleans: the boolean values, and the texts `y`, `yes`, `on` and `n`, `no`, `off` in their
usual capitalisations. -/
def Shape.flag : Shape Bool :=
  Shape.scalarOnly "bool" fun n tag out cur =>
    match out with
    | .bool b => pure (b, true)
    | .text t =>
      if ["y", "Y", "yes", "Yes", "YES", "on", "On", "ON"].contains t then pure (true, true)
      else if ["n", "N", "no", "No", "NO", "off", "Off", "OFF"].contains t then pure (false, true)
      else mismatch n tag "bool" cur
    | _ => mismatch n tag "bool" cur

/-- Whether an integer fits in a signed integer of `bits` bits. -/
def fitsSigned (bits : Nat) (i : Int) : Bool := -(Int.pow 2 (bits - 1)) ≤ i && i < Int.pow 2 (bits - 1)

/-- Signed integers of `bits` bits, named `typeName`: integers that fit, and floats that fit
once rounded toward zero. -/
def Shape.integer (typeName : String) (bits : Nat) : Shape Int :=
  Shape.scalarOnly typeName fun n tag out cur =>
    match out with
    | .int i => if fitsSigned bits i then pure (i, true) else mismatch n tag typeName cur
    | .float x =>
      match x.toInt64 with
      | some i => if fitsSigned bits i then pure (i, true) else mismatch n tag typeName cur
      | none => mismatch n tag typeName cur
    | _ => mismatch n tag typeName cur

/-- Durations, in nanoseconds: only texts such as `1h30m` (a bare number is no duration). -/
def Shape.duration : Shape Int :=
  Shape.scalarOnly "time.Duration" fun n tag out cur =>
    match out with
    | .text t =>
      match Duration.parse t with
      | .ok d => pure (d.nanos, true)
      | .error _ => mismatch n tag "time.Duration" cur
    | _ => mismatch n tag "time.Duration" cur

/-- Lists of values of an element shape; `none` is the empty list a null leaves. A sequence
gives a new list of the entries that decoded, each from `zero`. -/
def Shape.list {α : Type} (elem : Shape α) (zero : α) : Shape (Option (List α)) where
  typeName := "[]" ++ elem.typeName
  scalar := fun n tag _ cur => mismatch n tag ("[]" ++ elem.typeName) cur
  null := fun _ => (none, true)
  sequence := fun fuel _ items _ => do
    let kept ← items.filterMapM fun item => do
      let (v, ok) ← unmarshal elem fuel item zero
      pure (if ok then some v else none)
    pure (some kept, true)
  mapping := fun _ _ n _ cur => mismatch n "!!map" ("[]" ++ elem.typeName) cur

/-! ## Records -/

/-- A field of a record of type `σ`: its key and how a node sets it. -/
structure Field (σ : Type) where
  name : String
  decode : Nat → Node → σ → DecodeM σ

/-- A field read with a shape, through a getter and a setter. -/
def Field.of {σ α : Type} (name : String) (shape : Shape α) (get : σ → α) (put : σ → α → σ) :
    Field σ where
  name := name
  decode := fun fuel n s => do
    let (v, _) ← unmarshal shape fuel n (get s)
    pure (put s v)

/-- Whether a key is the merge key `<<`. -/
def isMergeKey (k : Node) : Bool :=
  match k with
  | .scalar _ tag "<<" _ _ => tag = "" || tag = "!" || tag = "!!merge"
  | _ => false

/-- The text a key stands for when it is a text, following an alias. -/
def keyText (anchored : Array Node) (k : Node) : Option String :=
  let scalarText (k : Node) : Option String :=
    match k with
    | .scalar _ tag v _ _ =>
      if tag = "!!str" then some v
      else match resolve tag v with
        | .ok ("!!binary", .text t) => (Base64.decode t).map Utf8.decodeString
        | .ok (_, .text t) => some t
        | _ => none
    | _ => none
  match k with
  | .alias _ _ t => scalarText (anchored.getD t default)
  | _ => scalarText k

/-- Whether a node is a mapping, or an alias of one. -/
def isMapping (anchored : Array Node) : Node → Bool
  | .mapping .. => true
  | .alias _ _ t => match anchored.getD t default with
    | .mapping .. => true
    | _ => false
  | _ => false

/-- Merges the value of a `<<` key into a record: a mapping, or a sequence of mappings, each
decoded with `self`. The record's own keys, `parent`, are never overridden. -/
def mergeInto {σ : Type} (self : Node → σ → DecodeM (σ × Bool)) (parent : List (Node × Node))
    (value : Node) (cur : σ) : DecodeM σ := do
  let st ← get
  let saved := st.merged
  if saved.isNone then
    set { st with merged := some (parent.filterMap fun (entry : Node × Node) => keyText st.anchored entry.1) }
  let wantMap : DecodeM σ := throw (.fatal "map merge requires map or sequence of maps as the value")
  let cur ← match value with
    | .mapping .. | .alias .. =>
      if isMapping st.anchored value then do let (v, _) ← self value cur; pure v else wantMap
    | .sequence _ _ items =>
      items.foldlM (fun cur item =>
        if isMapping st.anchored item then do let (v, _) ← self item cur; pure v else wantMap) cur
    | _ => wantMap
  modify fun s => { s with merged := saved }
  pure cur

/-- One entry of a record's mapping: the keys merged so far, the fields already set, the
record. -/
structure RecordProgress (σ : Type) where
  merged : Option (List String)
  done : List String
  record : σ
  mergeValue : Option Node

/-- Records of the named fields, called `typeName`: a mapping sets the fields its keys name, in
order, and merges its `<<` value last. A key set twice through different nodes is reported. -/
def Shape.record {σ : Type} (typeName : String) (fields : List (Field σ)) : Shape σ where
  typeName := typeName
  scalar := fun n tag _ cur => mismatch n tag typeName cur
  sequence := fun _ n _ cur => mismatch n "!!seq" typeName cur
  mapping := fun self fuel _ entries cur => do
    let merged := (← get).merged
    modify fun s => { s with merged := none }
    let start : RecordProgress σ := { merged, done := [], record := cur, mergeValue := none }
    let progress ← entries.foldlM (fun p (k, v) => do
        if isMergeKey k then pure { p with mergeValue := some v }
        else
          let (name, ok) ← unmarshal Shape.text fuel k ""
          if !ok then pure p
          else
            let (skip, merged) := match p.merged with
              | some m => if m.contains name then (true, some m) else (false, some (name :: m))
              | none => (false, none)
            let p := { p with merged }
            if skip then pure p
            else match fields.find? (·.name = name) with
              | none => pure p
              | some f =>
                if p.done.contains name then
                  report s!"line {k.line}: field {name} already set in type {typeName}"
                  pure p
                else
                  let record ← f.decode fuel v p.record
                  pure { p with done := name :: p.done, record }) start
    modify fun s => { s with merged := progress.merged }
    match progress.mergeValue with
    | some m =>
      let record ← mergeInto self entries m progress.record
      pure (record, true)
    | none => pure (progress.record, true)

/-! ## Documents -/

/-- Decodes the first document of a text into a value that starts as `init`; `none` when the
text holds no document. -/
def decodeDocument {α : Type} (shape : Shape α) (text : String) (init : α) :
    Except YamlError (Option α) := do
  match ← Document.read text with
  | none => pure none
  | some doc =>
    let fuel := (text.length + 8) * (text.length + 8)
    let ((v, _), st) ← (unmarshal shape fuel doc.root init).run { anchored := doc.anchored }
    if st.problems.isEmpty then pure (some v) else throw (.unmarshal st.problems.toList)

end TestDispatch.Yaml
