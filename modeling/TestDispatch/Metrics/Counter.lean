/-!
# Counters

A counter family counts events by the values of its labels: one counter per combination of
label values that has been counted at least once. It is shown in the text exposition format:

```
# HELP name help
# TYPE name counter
name{label="value",...} count
```

with the counters ordered by their label values, in the order of the labels. Backslashes and
line ends in the help text, and also double quotes in label values, are escaped with a
backslash. A family that has counted nothing shows nothing.
-/

namespace TestDispatch

/-- A family of counters. -/
structure CounterFamily where
  name : String
  help : String
  labels : List String
  /-- The counts by label values, each combination at most once. -/
  counts : List (List String × Nat) := []
  deriving DecidableEq, Repr, Inhabited

namespace CounterFamily

/-- Counts one more event with the given label values. -/
def inc (f : CounterFamily) (values : List String) : CounterFamily :=
  if f.counts.any (·.1 = values) then
    { f with counts := f.counts.map fun (vs, n) => if vs = values then (vs, n + 1) else (vs, n) }
  else { f with counts := f.counts ++ [(values, 1)] }

/-- The count of the given label values. -/
def count (f : CounterFamily) (values : List String) : Nat :=
  ((f.counts.find? (·.1 = values)).map Prod.snd).getD 0

/-- Whether one list of label values comes before another. -/
def valuesBefore : List String → List String → Bool
  | [], _ :: _ => true
  | a :: as, b :: bs => a < b || (a = b && valuesBefore as bs)
  | _, _ => false

/-- The counters in order of their label values. -/
def sorted (f : CounterFamily) : List (List String × Nat) :=
  f.counts.mergeSort fun a b => !valuesBefore b.1 a.1

/-- A text with the given characters escaped by a backslash, and line ends as `\n`. -/
def escape (quote : Bool) (s : String) : String :=
  String.ofList <| s.toList.flatMap fun c =>
    if c = '\\' then ['\\', '\\']
    else if c = '\n' then ['\\', 'n']
    else if quote && c = '"' then ['\\', '"']
    else [c]

/-- The exposition of the family. -/
def exposition (f : CounterFamily) : String :=
  if f.counts.isEmpty then ""
  else
    let line (vs : List String) (n : Nat) : String :=
      let pairs := (f.labels.zip vs).map fun (l, v) => l ++ "=\"" ++ escape true v ++ "\""
      f.name ++ "\x7b" ++ ",".intercalate pairs ++ "\x7d " ++ toString n ++ "\n"
    s!"# HELP {f.name} {escape false f.help}\n# TYPE {f.name} counter\n" ++
      String.join (f.sorted.map fun (vs, n) => line vs n)

end CounterFamily

end TestDispatch
