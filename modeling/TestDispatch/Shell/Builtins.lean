import TestDispatch.Text.Decimal
import TestDispatch.Text.Utf8
/-!
# The shell's own commands

The commands a test script uses most, done the way the system shell does them:

* `echo`: its arguments joined by blanks and ended by a line end, left out after a first `-n`.
  Backslash sequences are read: `\n`, `\t` and the other letter escapes, `\\`, octal `\NNN` (one
  to three digits, after an optional `0`), and `\c`, which ends all output there;
* `printf`: a format with `%s`, `%b`, `%c`, `%d`, `%i`, `%u`, `%o`, `%x`, `%X` and `%%`, with flags,
  width and precision, reused while arguments remain; its own text has the same backslash
  sequences as `echo`, without `\c`;
* `test` and `[`: the POSIX rules by number of arguments (up to four), and beyond that the
  grammar of `!`, `-a`, `-o` and parentheses over unary and binary primaries.

Each answers its output octets, the words of its complaints, and its status.
-/

namespace TestDispatch.Shell

/-- The octets of a text. -/
def octets (s : String) : List UInt8 := s.toUTF8.toList

/-- Whether an octet is an octal digit. -/
def isOctal (b : UInt8) : Bool := 0x30 ≤ b && b ≤ 0x37

/-- An octal number of at most `n` digits at the front, and what follows. -/
def octalRun : Nat → List UInt8 → Nat → Nat × List UInt8
  | 0, bs, acc => (acc, bs)
  | n + 1, b :: rest, acc => if isOctal b then octalRun n rest (acc * 8 + (b.toNat - 0x30)) else (acc, b :: rest)
  | _ + 1, [], acc => (acc, [])

/-- The octet a letter escape stands for. -/
def letterEscape (b : UInt8) : Option UInt8 :=
  match b.toNat with
  | 0x5C => some 0x5C
  | 0x61 => some 7
  | 0x62 => some 8
  | 0x66 => some 12
  | 0x6E => some 10
  | 0x72 => some 13
  | 0x74 => some 9
  | 0x76 => some 11
  | _ => none

/-- One escape after a backslash: the octet and what follows. A backslash before anything
else stands for itself. -/
def escapeAt (bs : List UInt8) : UInt8 × List UInt8 :=
  match bs with
  | b :: rest =>
    if isOctal b then
      let (v, more) := octalRun 3 (b :: rest) 0
      ((v % 256).toUInt8, more)
    else match letterEscape b with
      | some v => (v, rest)
      | none => (0x5C, b :: rest)
  | [] => (0x5C, [])

/-- Reads the backslash sequences of an `echo` argument (or a `%b` argument): the octets, and
whether a `\c` stopped the output. -/
def echoEscapes : Nat → List UInt8 → List UInt8 → List UInt8 × Bool
  | 0, _, acc => (acc.reverse, false)
  | _ + 1, [], acc => (acc.reverse, false)
  | fuel + 1, b :: rest, acc =>
    if b = 0x5C then
      match rest with
      | 0x63 :: _ => (acc.reverse, true)
      | 0x30 :: d :: more =>
        if isOctal d then
          let (v, after) := octalRun 3 (d :: more) 0
          echoEscapes fuel after ((v % 256).toUInt8 :: acc)
        else
          let (v, after) := escapeAt rest
          echoEscapes fuel after (v :: acc)
      | _ =>
        let (v, after) := escapeAt rest
        echoEscapes fuel after (v :: acc)
    else echoEscapes fuel rest (b :: acc)

/-- What `echo` writes. -/
def echo (args : List String) : List UInt8 :=
  let (args, newline) := match args with
    | "-n" :: rest => (rest, false)
    | args => (args, true)
  let rec go : List String → List UInt8
    | [] => if newline then [10] else []
    | [a] =>
      let (bs, stop) := echoEscapes (octets a).length.succ (octets a) []
      if stop then bs else bs ++ (if newline then [10] else [])
    | a :: rest =>
      let (bs, stop) := echoEscapes (octets a).length.succ (octets a) []
      if stop then bs else bs ++ [0x20] ++ go rest
  go args

/-! ## printf -/

/-- A conversion of a `printf` format: flags, width, precision and the conversion letter. -/
structure Conversion where
  flags : List Char := []
  width : Nat := 0
  precision : Option Nat := none
  letter : Char
  deriving DecidableEq, Repr, Inhabited

/-- Pads a text to the width of a conversion: on the right with `-`, with zeros after the sign
with `0` (numbers only), else with blanks on the left. -/
def Conversion.pad (c : Conversion) (numeric : Bool) (body : List Char) : List Char :=
  if body.length ≥ c.width then body
  else
    let fill := c.width - body.length
    if c.flags.contains '-' then body ++ List.replicate fill ' '
    else if numeric && c.flags.contains '0' && c.precision.isNone then
      match body with
      | '-' :: digits => '-' :: List.replicate fill '0' ++ digits
      | '+' :: digits => '+' :: List.replicate fill '0' ++ digits
      | digits => List.replicate fill '0' ++ digits
    else List.replicate fill ' ' ++ body

/-- The integer an argument of a numeric conversion stands for: an optional sign and decimal
digits, `0x` hexadecimal, a leading `0` octal, or a quote followed by a character (its code).
None when the argument is no number; an empty argument is zero. -/
def numericArg (s : String) : Option Int :=
  let cs := s.toList
  match cs with
  | [] => some 0
  | '\'' :: c :: _ | '"' :: c :: _ => some c.toNat
  | _ =>
    let (neg, ds) := match cs with
      | '-' :: r => (true, r)
      | '+' :: r => (false, r)
      | r => (false, r)
    let value : Option Nat := match ds with
      | '0' :: x :: hs =>
        if (x = 'x' || x = 'X') && !hs.isEmpty && hs.all Char.isHexDigit then
          some (hs.foldl (fun acc h => acc * 16 + (if h.isDigit then h.toNat - 48
            else (h.toLower.toNat - 87))) 0)
        else if (x :: hs).all (fun d => '0' ≤ d && d ≤ '7') then
          some ((x :: hs).foldl (fun acc d => acc * 8 + (d.toNat - 48)) 0)
        else none
      | ds => if !ds.isEmpty && ds.all Char.isDigit then some (Text.decimalValue ds) else none
    value.map fun v => if neg then -(v : Int) else v

/-- The digits of a natural number in a base, with upper-case letters when asked. -/
def digitsIn (base : Nat) (upper : Bool) (n : Nat) : List Char :=
  let d (k : Nat) : Char :=
    if k < 10 then Char.ofNat (48 + k) else Char.ofNat ((if upper then 55 else 87) + k)
  (Nat.toDigitsCore base (n + 1) n []).map fun c => d (if c.isDigit then c.toNat - 48 else c.toNat - 87)

/-- Writes one conversion of an argument; answers the text and the complaint, if the argument
was no number. -/
def convert (c : Conversion) (arg : String) : List UInt8 × Option String :=
  match c.letter with
  | 's' =>
    let body := match c.precision with
      | some p => arg.toList.take p
      | none => arg.toList
    (octets (String.ofList (c.pad false body)), none)
  | 'c' => (octets (String.ofList (c.pad false (arg.toList.take 1))), none)
  | _ =>
    let (n, complaint) := match numericArg arg with
      | some n => (n, none)
      | none => (0, some s!"{arg}: expected numeric value")
    let body : List Char := match c.letter with
      | 'd' | 'i' =>
        let digits := (toString n.natAbs).toList
        let digits := match c.precision with
          | some p => List.replicate (p - digits.length) '0' ++ digits
          | none => digits
        if n < 0 then '-' :: digits
        else if c.flags.contains '+' then '+' :: digits
        else if c.flags.contains ' ' then ' ' :: digits
        else digits
      | letter =>
        let m : Nat := if n < 0 then (Nat.pow 2 64 - n.natAbs) else n.toNat
        match letter with
        | 'o' => digitsIn 8 false m
        | 'x' => digitsIn 16 false m
        | 'X' => digitsIn 16 true m
        | _ => (toString m).toList
    (octets (String.ofList (c.pad true body)), complaint)

/-- Reads the flags, width and precision of a conversion after its `%`; answers the
conversion (none at the end of the format) and what follows it. -/
def readConversion (cs : List Char) : Option Conversion × List Char :=
  let flags := cs.takeWhile fun c => "-+ #0".toList.contains c
  let cs := cs.drop flags.length
  let widthDigits := cs.takeWhile Char.isDigit
  let cs := cs.drop widthDigits.length
  let (precision, cs) := match cs with
    | '.' :: rest =>
      let ds := rest.takeWhile Char.isDigit
      (some (Text.decimalValue ds), rest.drop ds.length)
    | cs => (none, cs)
  match cs with
  | letter :: rest =>
    (some { flags, width := Text.decimalValue widthDigits, precision, letter }, rest)
  | [] => (none, [])

/-- What one pass of a format writes: the octets, the arguments left, whether an argument was
taken, the complaints, and whether output stopped (`\c` in a `%b` argument). -/
structure FormatPass where
  out : List UInt8 := []
  args : List String
  took : Bool := false
  complaints : List String := []
  stopped : Bool := false
  /-- The directive that is no conversion, when one was met. -/
  invalid : Option String := none
  deriving Repr, Inhabited

/-- One pass of a format over the arguments. -/
def formatPass : Nat → List Char → FormatPass → FormatPass
  | 0, _, st => st
  | _ + 1, [], st => st
  | fuel + 1, c :: rest, st =>
    if c = '\\' then
      let bytes := octets (String.ofList rest)
      let (v, after) := escapeAt bytes
      let restChars := (Utf8.decode after)
      formatPass fuel restChars { st with out := st.out ++ [v] }
    else if c = '%' then
      match rest with
      | '%' :: more => formatPass fuel more { st with out := st.out ++ [0x25] }
      | _ =>
        match readConversion rest with
        | (none, _) => { st with invalid := some "%" }
        | (some conv, more) =>
          let (arg, args, took) := match st.args with
            | a :: as => (a, as, true)
            | [] => ("", [], st.took)
          if conv.letter = 'b' then
            let (bs, stop) := echoEscapes (octets arg).length.succ (octets arg) []
            let st := { st with out := st.out ++ bs, args, took }
            if stop then { st with stopped := true } else formatPass fuel more st
          else if "scdiouxX".toList.contains conv.letter then
            let (bs, complaint) := convert conv arg
            formatPass fuel more { st with out := st.out ++ bs, args, took,
                                           complaints := st.complaints ++ complaint.toList }
          else
            let shown := String.ofList ('%' :: (rest.take (rest.length - more.length)))
            { st with invalid := some shown }
    else formatPass fuel rest { st with out := st.out ++ octets (String.singleton c) }

/-- What `printf` writes with a format and its arguments: the octets, the complaints, and the
status. The format is used again while arguments remain and the last pass took one. -/
def printf (format : String) (args : List String) : List UInt8 × List String × Nat :=
  let fmt := format.toList
  let rec passes : Nat → List String → List UInt8 → List String → List UInt8 × List String × Nat
    | 0, _, out, complaints => (out, complaints, if complaints.isEmpty then 0 else 1)
    | n + 1, args, out, complaints =>
      let st := formatPass (fmt.length + 1) fmt { args }
      let out := out ++ st.out
      let complaints := complaints ++ st.complaints
      match st.invalid with
      | some d => (out, complaints ++ [s!"{d}: invalid directive"], 1)
      | none =>
        if st.stopped || st.args.isEmpty || !st.took then
          (out, complaints, if complaints.isEmpty then 0 else 1)
        else passes n st.args out complaints
  passes (args.length + 1) args [] []

/-! ## test -/

/-- The binary operators of `test`. -/
def binaryOps : List String :=
  ["=", "!=", "<", ">", "-eq", "-ne", "-gt", "-ge", "-lt", "-le", "-nt", "-ot", "-ef"]

/-- The unary operators of `test`. -/
def unaryOps : List String :=
  ["-n", "-z", "-e", "-f", "-d", "-r", "-w", "-x", "-s", "-L", "-h", "-b", "-c", "-p", "-S",
   "-t", "-g", "-u", "-k", "-O", "-G"]

/-- Why a `test` failed to evaluate: the words of its complaint. -/
abbrev TestAnswer := Except String Bool

/-- An integer operand of `test`: optional blanks and sign, then digits. -/
def testNumber (s : String) : Except String Int :=
  let t := (s.toList.dropWhile (· = ' '))
  let (neg, ds) := match t with
    | '-' :: r => (true, r)
    | '+' :: r => (false, r)
    | r => (false, r)
  if !ds.isEmpty && ds.all Char.isDigit then
    let v : Int := Text.decimalValue ds
    .ok (if neg then -v else v)
  else .error s!"Illegal number: {s}"

/-- A binary primary. Files are never found: the file tests answer false. -/
def binary (a op b : String) : TestAnswer := do
  match op with
  | "=" => pure (a = b)
  | "!=" => pure (a ≠ b)
  | "<" => pure (decide (a < b))
  | ">" => pure (decide (b < a))
  | "-nt" | "-ot" | "-ef" => pure false
  | _ =>
    let x ← testNumber a
    let y ← testNumber b
    pure <| match op with
      | "-eq" => x = y
      | "-ne" => x ≠ y
      | "-gt" => x > y
      | "-ge" => x ≥ y
      | "-lt" => x < y
      | _ => x ≤ y

/-- What a file test sees at a path: whether it is a directory, and its size. -/
structure FileInfo where
  directory : Bool
  size : Nat
  deriving DecidableEq, Repr, Inhabited

/-- A unary primary, with `file` telling what is at a path. Every file can be read and
written, only directories can be searched, and no descriptor is a terminal. -/
def unary (file : String → Option FileInfo) (op a : String) : TestAnswer :=
  match op with
  | "-n" => .ok (a ≠ "")
  | "-z" => .ok (a = "")
  | "-t" => do let _ ← testNumber a; pure false
  | "-e" | "-r" | "-w" => .ok (file a).isSome
  | "-f" => .ok ((file a).map (!·.directory) |>.getD false)
  | "-d" | "-x" => .ok ((file a).map (·.directory) |>.getD false)
  | "-s" => .ok ((file a).map (fun i => i.directory || i.size > 0) |>.getD false)
  | _ => .ok false

/-- The grammar of `test` beyond four arguments: `oexpr := aexpr ("-o" oexpr)?`,
`aexpr := nexpr ("-a" aexpr)?`, `nexpr := "!" nexpr | primary`,
`primary := "(" oexpr ")" | unary operand | operand binary operand | operand`. Each step takes
at least one argument. Answers the value and the arguments after it. -/
def testExpr (file : String → Option FileInfo) : Nat → Nat → List String → Except String (Bool × List String)
  | 0, _, _ => .error "expression too deep"
  | fuel + 1, level, args =>
    -- level 0: oexpr, 1: aexpr, 2: nexpr/primary
    match level with
    | 0 => do
      let (v, rest) ← testExpr file fuel 1 args
      match rest with
      | "-o" :: more => do
        let (w, rest') ← testExpr file fuel 0 more
        pure (v || w, rest')
      | _ => pure (v, rest)
    | 1 => do
      let (v, rest) ← testExpr file fuel 2 args
      match rest with
      | "-a" :: more => do
        let (w, rest') ← testExpr file fuel 1 more
        pure (v && w, rest')
      | _ => pure (v, rest)
    | _ =>
      match args with
      | [] => .error "argument expected"
      | "!" :: rest => do
        let (v, rest') ← testExpr file fuel 2 rest
        pure (!v, rest')
      | "(" :: rest => do
        let (v, rest') ← testExpr file fuel 0 rest
        match rest' with
        | ")" :: more => pure (v, more)
        | _ => .error "closing paren expected"
      | a :: rest =>
        match rest with
        | b :: c :: more =>
          if binaryOps.contains b then do
            let v ← binary a b c
            pure (v, more)
          else if unaryOps.contains a then do
            let v ← unary file a b
            pure (v, c :: more)
          else pure (a ≠ "", rest)
        | [b] =>
          if unaryOps.contains a then do
            let v ← unary file a b
            pure (v, [])
          else pure (a ≠ "", rest)
        | [] => pure (a ≠ "", [])

/-- Evaluates the arguments of `test` (without the closing `]` of `[`). -/
def evalTest (file : String → Option FileInfo) (args : List String) : TestAnswer :=
  let general (args : List String) : TestAnswer := do
    let (v, rest) ← testExpr file (2 * args.length + 2) 0 args
    match rest with
    | [] => pure v
    | extra :: _ => .error s!"{extra}: unexpected operator"
  match args with
  | [] => .ok false
  | [a] => .ok (a ≠ "")
  | [a, b] =>
    if a = "!" then .ok (b = "")
    else if unaryOps.contains a then unary file a b
    else .error s!"{a}: unexpected operator"
  | [a, b, c] =>
    if binaryOps.contains b then binary a b c
    else if a = "!" then (evalTest.two file b c).map (!·)
    else if a = "(" && c = ")" then .ok (b ≠ "")
    else general args
  | [a, b, c, d] =>
    if a = "!" then
      if binaryOps.contains c then (binary b c d).map (!·) else general args
    else if a = "(" && d = ")" then
      if b = "!" then .ok (c = "") else if unaryOps.contains b then unary file b c else general args
    else general args
  | _ => general args
where
  /-- Two arguments after a `!`. -/
  two (file : String → Option FileInfo) (a b : String) : TestAnswer :=
    if a = "!" then .ok (b = "")
    else if unaryOps.contains a then unary file a b
    else .error s!"{a}: unexpected operator"

/-- What `test` (or `[`, when `bracket`) answers: the status and the complaint, if any. A
complaint has status 2, a false test 1 and a true one 0. -/
def runTest (file : String → Option FileInfo) (bracket : Bool) (args : List String) : Nat × Option String :=
  let checked : Except String (List String) :=
    if bracket then
      match args.getLast? with
      | some "]" => .ok args.dropLast
      | _ => .error "missing ]"
    else .ok args
  match checked.bind (evalTest file) with
  | .ok true => (0, none)
  | .ok false => (1, none)
  | .error why => (2, some why)

end TestDispatch.Shell
