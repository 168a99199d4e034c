/-!
# Fields and patterns

After expansion a word is a list of pieces: characters that were quoted, written plainly, or
came from an unquoted expansion, and boundaries between the parameters of `"$@"`. Two steps
turn pieces into the fields a command gets:

* **Field splitting** cuts the characters that came from unquoted expansions at the characters
  of `IFS`. Blanks of `IFS` (space, tab, line end) separate fields and run together, and are
  dropped at either end; every other `IFS` character ends a field, also an empty one, together
  with the blanks around it. A field made only of quoted nothing (`""`) is kept.
* **Pathname expansion** replaces a field holding an unquoted `*`, `?` or `[` by the names of
  the working directory it matches, in byte order; a field matching none is kept.

Patterns, in pathname expansion as in `case` and in `${x%pattern}`, are matched by `patternMatches`:
an unquoted `*` stands for any text, `?` for any character, `[...]` for one character of a set
(with ranges `a-z` and `!` or `^` for its complement), and every other character, and every
quoted one, for itself. A leading `.` of a file name is matched only by a `.` in the pattern.
-/

namespace TestDispatch.Shell

/-- A piece of an expanded word. -/
inductive Piece where
  /-- Characters: `split` when they came from an unquoted expansion, `quoted` when they were
  quoted (a quoted piece makes a field even when empty, and its characters match only
  themselves). -/
  | chars (s : String) (split quoted : Bool)
  /-- A boundary between two fields. -/
  | boundary
  deriving DecidableEq, Repr, Inhabited

/-- A character of a field and whether it was quoted. -/
abbrev FieldChar := Char × Bool

/-- The text of a field. -/
def fieldText (f : List FieldChar) : String := String.ofList (f.map Prod.fst)

/-- The text of pieces with no splitting: what an assignment or a redirection target gets. -/
def piecesText (ps : List Piece) : String :=
  String.join (ps.map fun p => match p with
    | .chars s _ _ => s
    | .boundary => " ")

/-- The pieces with their characters marked quoted, for a pattern built from a quoted
expansion. -/
def piecesChars (ps : List Piece) : List FieldChar :=
  ps.flatMap fun p => match p with
    | .chars s _ q => s.toList.map fun c => (c, q)
    | .boundary => [(' ', false)]

/-- Whether a character is a blank of `IFS`. -/
def isIfsBlank (c : Char) : Bool := c = ' ' || c = '\t' || c = '\n'

/-- What separated the last field. -/
inductive Separator where
  | none
  | blank
  | other
  deriving DecidableEq, Repr, Inhabited

/-- Field splitting in progress: fields done (latest first), the current field (latest
character first), whether it has begun, and what came last. -/
structure Splitting where
  done : List (List FieldChar) := []
  current : List FieldChar := []
  begun : Bool := false
  last : Separator := .none
  deriving Repr, Inhabited

/-- Ends the current field. -/
def Splitting.emit (s : Splitting) : Splitting :=
  { s with done := s.current.reverse :: s.done, current := [], begun := false }

/-- One character of a piece. -/
def Splitting.step (ifs : List Char) (s : Splitting) (c : Char) (split quoted : Bool) : Splitting :=
  if split && ifs.contains c then
    if isIfsBlank c then
      if s.begun then { s.emit with last := .blank } else s
    else
      if s.begun then { s.emit with last := .other }
      else if s.last = .blank then { s with last := .other }
      else { s.emit with last := .other }
  else { s with current := (c, quoted) :: s.current, begun := true, last := .none }

/-- Splits pieces into fields at the characters of `ifs`. -/
def splitFields (ifs : String) (ps : List Piece) : List (List FieldChar) :=
  let ifs := ifs.toList
  let s := ps.foldl (fun (s : Splitting) p => match p with
    | .chars str split quoted =>
      let s := if quoted then { s with begun := true, last := .none } else s
      str.toList.foldl (fun s c => s.step ifs c split quoted) s
    | .boundary => if s.begun then { s.emit with last := .none } else { s with last := .none }) ({} : Splitting)
  (if s.begun then s.emit else s).done.reverse

/-! ## Patterns -/

/-- The members of a bracket expression after its `[` (and its `!` or `^`): a test of one
character, and the pattern after the closing `]`; none when it does not close. -/
def bracketSet (cs : List FieldChar) : Option ((Char → Bool) × List FieldChar) :=
  let rec go : Nat → List FieldChar → Bool → List (Char × Char) → Option (List (Char × Char) × List FieldChar)
    | 0, _, _, _ => none
    | _ + 1, [], _, _ => none
    | fuel + 1, (c, q) :: rest, first, acc =>
      if c = ']' && !q && !first then some (acc, rest)
      else
        match rest with
        | ('-', false) :: (d, dq) :: more =>
          if d = ']' && !dq then go fuel rest false ((c, c) :: acc)
          else go fuel more false ((c, d) :: acc)
        | _ => go fuel rest false ((c, c) :: acc)
  match go (cs.length + 1) cs true [] with
  | some (ranges, rest) => some ((fun x => ranges.any fun (lo, hi) => lo ≤ x && x ≤ hi), rest)
  | none => none

/-- Whether a text matches a pattern; `period` when a leading `.` must be matched by a `.`. -/
def matchesFrom (period : Bool) : Nat → List FieldChar → List Char → Bool
  | 0, _, _ => false
  | _ + 1, [], s => s.isEmpty
  | fuel + 1, (c, q) :: rest, s =>
    if c = '*' && !q then
      if period && s.head? = some '.' then false
      else
        let tails := (List.range (s.length + 1)).map fun i => s.drop i
        tails.any fun t => matchesFrom false fuel rest t
    else if c = '?' && !q then
      match s with
      | x :: more => if period && x = '.' then false else matchesFrom false fuel rest more
      | [] => false
    else if c = '[' && !q then
      let (negated, body) := match rest with
        | ('!', false) :: more | ('^', false) :: more => (true, more)
        | more => (false, more)
      match bracketSet body with
      | some (member, after) =>
        match s with
        | x :: more =>
          if period && x = '.' then false
          else if member x != negated then matchesFrom false fuel after more else false
        | [] => false
      | none =>
        match s with
        | x :: more => if x = '[' then matchesFrom false fuel rest more else false
        | [] => false
    else
      match s with
      | x :: more => if x = c then matchesFrom false fuel rest more else false
      | [] => false

/-- Whether a text matches a pattern. -/
def patternMatches (pattern : List FieldChar) (s : String) : Bool :=
  let cs := s.toList
  matchesFrom false ((pattern.length + 1) * (cs.length + 2) + 2) pattern cs

/-- Whether a file name matches a pattern, a leading `.` matched only by a `.`. -/
def matchesName (pattern : List FieldChar) (name : String) : Bool :=
  let cs := name.toList
  matchesFrom true ((pattern.length + 1) * (cs.length + 2) + 2) pattern cs

/-- Whether a field holds an unquoted pattern character. -/
def isPattern (f : List FieldChar) : Bool :=
  f.any fun (c, q) => !q && (c = '*' || c = '?' || c = '[')

/-- The value without the shortest (or longest) suffix that matches a pattern. -/
def removeSuffix (value : String) (pattern : List FieldChar) (longest : Bool) : String :=
  let cs := value.toList
  let cuts := List.range (cs.length + 1)
  let order := if longest then cuts else cuts.reverse
  match order.find? (fun i => patternMatches pattern (String.ofList (cs.drop i))) with
  | some i => String.ofList (cs.take i)
  | none => value

/-- The value without the shortest (or longest) prefix that matches a pattern. -/
def removePrefix (value : String) (pattern : List FieldChar) (longest : Bool) : String :=
  let cs := value.toList
  let cuts := List.range (cs.length + 1)
  let order := if longest then cuts.reverse else cuts
  match order.find? (fun i => patternMatches pattern (String.ofList (cs.take i))) with
  | some i => String.ofList (cs.drop i)
  | none => value

end TestDispatch.Shell
