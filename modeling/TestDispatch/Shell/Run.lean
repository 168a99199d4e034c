import TestDispatch.Text.Decimal
import TestDispatch.Shell.State
import TestDispatch.Text.Quoted
import TestDispatch.Text.ByteOrder
/-!
# Running scripts and programs

A test command is a program and its arguments. The programs this model knows are the system
shell (`sh`, `dash`) and the small utilities a test script calls: `echo`, `printf`, `true`,
`false`, `test`, `[`, `sleep` and `cat`. Anything else is not found: by the process starter
(`exec: "x": executable file not found in $PATH`, or `fork/exec ./x: no such file or
directory` for a path), and by the shell (`sh: 1: x: not found`, status 127).

## The shell

The shell, run as `sh [-eux] -c script [name [args...]]` (or with the script on its standard
input), runs its script a line at a time: each line is parsed whole (a syntax error ends the
shell with status 2 before anything on that line runs) and then run. `$0` is `name` (or `sh`),
the positional parameters are `args`, and `$$` is the shell's process id.

* A simple command expands its words (parameters, command substitutions, arithmetic, then field
  splitting and pathname expansion), its redirections and its assignments, in that order, and
  then runs a special built-in, a function, a built-in or a program, looked up in that order.
  Assignments before a special built-in, or with no command, stay; before anything else they
  hold for that command only.
* The commands of a pipeline of two or more run in subshells side by side: each reads what the
  one before wrote, and the pipeline takes as long as its slowest command. A subshell (a
  pipeline's command, `( ... )`, a command substitution, a background job) changes no variable
  of the shell; `exit` in it ends only the subshell.
* `set -e` ends the shell when a simple command, a pipeline or a subshell fails, unless its
  status is tested (the condition of `if`, `while` or `until`, the left side of `&&` or `||`,
  a command after `!`).
* Errors of expansion (`${x?}`, an unset variable under `set -u`, a faulty arithmetic
  expression), errors of special built-ins and redirection errors of special built-ins end the
  shell with status 2. Other redirection errors give the command status 2.

Complaints start with `$0` and the line of the command (`sh: 1: ...`). A shell ends with its
status, or by a signal: `kill -9 $$` kills it. A child killed by a signal gives status 128 plus
the signal, and the shell reports it (`Killed`). When the shell ends, its `EXIT` trap runs.

Time passes only in `sleep` (and in `wait`, for background jobs). Everything is bounded by a
fuel; a script that spends it would still be running, and takes longer than any deadline.
-/

namespace TestDispatch.Shell

open TestDispatch.Executor

/-- How a process ended. -/
inductive Ending where
  | exited (code : Nat)
  | signalled (signal : Nat)
  deriving DecidableEq, Repr, Inhabited

/-- What running a program gave: the work tree after it (its log among the files), how it
ended, and how many nanoseconds it ran. -/
structure Run where
  ws : Workspace
  ending : Ending
  slept : Nat := 0
  deriving Repr, Inhabited

/-- Where a program runs: the work tree, the working directory, and the log its standard
output and standard error go to. -/
structure Place where
  ws : Workspace
  cwd : String
  log : String
  deriving Repr, Inhabited

/-- A time longer than any deadline of a run: what a script that never ends takes. -/
def forever : Nat := 1000000000000000

/-- A signal by name or number, as `kill` takes it. -/
def signalNumber (s : String) : Option Nat :=
  let names : List (String × Nat) :=
    [("HUP", 1), ("INT", 2), ("QUIT", 3), ("ILL", 4), ("TRAP", 5), ("ABRT", 6), ("BUS", 7),
     ("FPE", 8), ("KILL", 9), ("USR1", 10), ("SEGV", 11), ("USR2", 12), ("PIPE", 13),
     ("ALRM", 14), ("TERM", 15)]
  if !s.isEmpty && s.all Char.isDigit then some (Text.decimalText s)
  else
    let bare := if s.startsWith "SIG" then String.ofList (s.toList.drop 3) else s
    (names.find? (·.1 = bare)).map Prod.snd

/-- The nanoseconds a `sleep` operand stands for: a decimal number of seconds with an optional
unit `s`, `m`, `h` or `d`. -/
def sleepOperand (s : String) : Option Nat :=
  let cs := s.toList
  let (number, unit) := match cs.reverse with
    | u :: rest => if "smhd".toList.contains u then (rest.reverse, u) else (cs, 's')
    | [] => ([], 's')
  let whole := number.takeWhile Char.isDigit
  let rest := number.drop whole.length
  let frac := match rest with
    | '.' :: ds => ds
    | _ => []
  let wellFormed := (!whole.isEmpty || !frac.isEmpty) &&
    (rest.isEmpty || (rest.head? = some '.' && frac.all Char.isDigit))
  if !wellFormed then none
  else
    let scale : Nat := match unit with
      | 'm' => 60
      | 'h' => 3600
      | 'd' => 86400
      | _ => 1
    let fracNs := Text.decimalValue ((frac ++ List.replicate 9 '0').take 9)
    some ((Text.decimalValue whole * 1000000000 + fracNs) * scale)

/-- A text without its trailing line ends, as a command substitution gives its output. -/
def dropTrailingNewlines (s : String) : String :=
  String.ofList (s.toList.reverse.dropWhile (· = '\n')).reverse

/-! ## Built-in commands that need no running -/

/-- An option letter of `set` and `sh`, turned on or off. -/
def Options.setLetter (o : Options) (c : Char) (on : Bool) : Option Options :=
  match c with
  | 'e' => some { o with errexit := on }
  | 'u' => some { o with nounset := on }
  | 'x' => some { o with xtrace := on }
  | 'f' => some { o with noglob := on }
  | _ => none

/-- An option of `set -o` by name. -/
def Options.setName (o : Options) (name : String) (on : Bool) : Option Options :=
  match name with
  | "errexit" => some { o with errexit := on }
  | "nounset" => some { o with nounset := on }
  | "xtrace" => some { o with xtrace := on }
  | "noglob" => some { o with noglob := on }
  | _ => none

namespace ShellState

/-- Ends the shell with status 2 after a complaint. -/
def fatal (st : ShellState) (words : String) : ShellState × Flow :=
  ({ st.complain words with status := 2 }, .exit 2)

/-- Sets the status and goes on. -/
def done (st : ShellState) (status : Nat) : ShellState × Flow := ({ st with status }, .next)

/-- Assigns a variable, failing on a read-only one. -/
def assign (st : ShellState) (name value : String) : Except String ShellState :=
  match st.var? name with
  | some v => if v.readonly then .error (name ++ ": is read only") else .ok (st.setVar name value)
  | none => .ok (st.setVar name value)

/-- `exit [n]`. -/
def exitBuiltin (st : ShellState) (args : List String) : ShellState × Flow :=
  match args with
  | [] => (st, .exit st.status)
  | n :: _ =>
    if !n.isEmpty && n.all Char.isDigit then (st, .exit (Text.decimalText n % 256))
    else st.fatal ("exit: Illegal number: " ++ n)

/-- A count argument of `shift`, `break`, `continue` or `return`. -/
def countArg (args : List String) (default : Nat) : Option Nat :=
  match args with
  | [] => some default
  | n :: _ => if !n.isEmpty && n.all Char.isDigit then some (Text.decimalText n) else none

/-- `shift [n]`. -/
def shiftBuiltin (st : ShellState) (args : List String) : ShellState × Flow :=
  match countArg args 1 with
  | none => st.fatal ("shift: Illegal number: " ++ args.headD "")
  | some n =>
    if n > st.params.length then st.fatal "shift: can't shift that many"
    else ({ st with params := st.params.drop n, status := 0 }, .next)

/-- `break [n]` or `continue [n]`. -/
def loopBuiltin (st : ShellState) (name : String) (args : List String) : ShellState × Flow :=
  match countArg args 1 with
  | some n =>
    if n = 0 then st.fatal (name ++ ": Illegal number: " ++ args.headD "")
    else
      let n := min n st.loops
      if n = 0 then st.done 0
      else ({ st with status := 0 }, if name = "break" then .breakLoop n else .continueLoop n)
  | none => st.fatal (name ++ ": Illegal number: " ++ args.headD "")

/-- `return [n]`. -/
def returnBuiltin (st : ShellState) (args : List String) : ShellState × Flow :=
  match countArg args st.status with
  | some n => ({ st with status := n % 256 }, .returned)
  | none => st.fatal ("return: Illegal number: " ++ args.headD "")

/-- Reads the options of `set`: the options, and the new positional parameters, if any. -/
def readSetArgs : Nat → List String → Options → Except String (Options × Option (List String))
  | 0, _, o => .ok (o, none)
  | _ + 1, [], o => .ok (o, none)
  | fuel + 1, a :: rest, o =>
    if a = "--" then .ok (o, some rest)
    else if a = "-" then .ok ({ o with xtrace := false }, some rest)
    else if (a.startsWith "-" || a.startsWith "+") && a.length > 1 then
      let on := a.startsWith "-"
      let letters := a.toList.drop 1
      if letters = ['o'] then
        match rest with
        | name :: more =>
          match o.setName name on with
          | some o => readSetArgs fuel more o
          | none => .error ("Illegal option -o " ++ name)
        | [] => .ok (o, none)
      else
        let step (o : Options) (c : Char) : Except Char Options :=
          match o.setLetter c on with
          | some o => .ok o
          | none => .error c
        match letters.foldlM step o with
        | .ok o => readSetArgs fuel rest o
        | .error c => .error ("Illegal option " ++ (if on then "-" else "+") ++ String.singleton c)
    else .ok (o, some (a :: rest))

/-- `set`. -/
def setBuiltin (st : ShellState) (args : List String) : ShellState × Flow :=
  match readSetArgs (args.length + 1) args st.options with
  | .error why => st.fatal ("set: " ++ why)
  | .ok (options, params) =>
    ({ st with options, params := params.getD st.params, status := 0 }, .next)

/-- `export` (with `flag` true) or `readonly` (false) of names and assignments. -/
def exportBuiltin (st : ShellState) (name : String) (args : List String) (exported : Bool) :
    ShellState × Flow :=
  let args := args.filter (· ≠ "-p")
  let step (acc : Except String ShellState) (a : String) : Except String ShellState := do
    let st ← acc
    let n := String.ofList (a.toList.takeWhile (· ≠ '='))
    if !isName n then throw (name ++ ": " ++ n ++ ": bad variable name")
    let st ← if a.contains '=' then st.assign n (String.ofList (a.toList.drop (n.length + 1))) else pure st
    let st := match st.var? n with
      | some _ => st
      | none => { st with vars := st.vars ++ [{ name := n, value := "" }] }
    let mark (v : Variable) : Variable :=
      if exported then { v with exported := true } else { v with readonly := true }
    let st := if a.contains '=' || (st.var? n).isSome then
      { st with vars := st.vars.map fun v => if v.name = n then mark v else v } else st
    pure st
  match args.foldl step (.ok st) with
  | .ok st => st.done 0
  | .error why => st.fatal why

/-- `unset [-v | -f] names`. -/
def unsetBuiltin (st : ShellState) (args : List String) : ShellState × Flow :=
  let (functions, names) := match args with
    | "-f" :: rest => (true, rest)
    | "-v" :: rest => (false, rest)
    | rest => (false, rest)
  if functions then
    ({ st with functions := st.functions.filter (fun (n, _) => !names.contains n), status := 0 }, .next)
  else
    match names.find? (fun n => ((st.var? n).map (·.readonly)).getD false) with
    | some n => st.fatal ("unset: " ++ n ++ ": is read only")
    | none => ({ st with vars := st.vars.filter (fun v => !names.contains v.name), status := 0 }, .next)

/-- `cd [dir]`. -/
def cdBuiltin (st : ShellState) (args : List String) : ShellState × Flow :=
  match args with
  | [] | "-" :: _ => st.done 0
  | dir :: _ =>
    let path := st.resolve dir
    if st.isDir path then ({ st with cwd := path, status := 0 }, .next)
    else ({ st.complain ("cd: can't cd to " ++ dir) with status := 2 }, .next)

/-- `trap action conditions`: only the `EXIT` (or `0`) condition is kept. -/
def trapBuiltin (st : ShellState) (args : List String) : ShellState × Flow :=
  match args with
  | action :: conds =>
    if conds.any (fun c => c = "EXIT" || c = "0") then
      let trap := if action = "-" then none else some action
      ({ st with exitTrap := trap, status := 0 }, .next)
    else if action = "EXIT" || action = "0" then ({ st with exitTrap := none, status := 0 }, .next)
    else st.done 0
  | [] => st.done 0

/-- `local names`: each variable is saved in the running function's frame, to be restored when
it returns. -/
def localBuiltin (st : ShellState) (args : List String) : ShellState × Flow :=
  match st.frames with
  | [] => ({ st.complain "local: not in a function" with status := 2 }, .next)
  | frame :: outer =>
    let step (acc : ShellState × List (String × Option Variable)) (a : String) :=
      let (st, frame) := acc
      let n := String.ofList (a.toList.takeWhile (· ≠ '='))
      let frame := if frame.any (·.1 = n) then frame else (n, st.var? n) :: frame
      let st := if a.contains '=' then st.setVar n (String.ofList (a.toList.drop (n.length + 1))) else st
      (st, frame)
    let (st, frame) := args.foldl step (st, frame)
    ({ st with frames := frame :: outer, status := 0 }, .next)

/-- The fields of a line for `read`: the first `n - 1` cut at the separators, the last taking
the rest without its trailing blanks. -/
def readFields (ifs : List Char) : Nat → List Char → List String
  | 0, _ => []
  | 1, cs =>
    let cs := cs.dropWhile (fun c => ifs.contains c && isIfsBlank c)
    [String.ofList (cs.reverse.dropWhile (fun c => ifs.contains c && isIfsBlank c)).reverse]
  | n + 1, cs =>
    let cs := cs.dropWhile (fun c => ifs.contains c && isIfsBlank c)
    let field := cs.takeWhile (fun c => !ifs.contains c)
    let rest := cs.drop field.length
    let rest := rest.dropWhile (fun c => ifs.contains c && isIfsBlank c)
    let rest := match rest with
      | c :: more => if ifs.contains c && !isIfsBlank c then more else rest
      | [] => []
    String.ofList field :: readFields ifs n rest

/-- The line `read` takes from the input: its characters (backslashes read unless `raw`),
whether a line end ended it, and the input after it. -/
def readLine (raw : Bool) : Nat → List UInt8 → List UInt8 → List UInt8 × Bool × List UInt8
  | 0, acc, rest => (acc.reverse, false, rest)
  | _ + 1, acc, [] => (acc.reverse, false, [])
  | fuel + 1, acc, b :: rest =>
    if b = 10 then (acc.reverse, true, rest)
    else if b = 0x5C && !raw then
      match rest with
      | 10 :: more => readLine raw fuel acc more
      | c :: more => readLine raw fuel (c :: acc) more
      | [] => (acc.reverse, false, [])
    else readLine raw fuel (b :: acc) rest

/-- `read [-r] names`. -/
def readBuiltin (st : ShellState) (args : List String) : ShellState × Flow :=
  let (raw, names) := match args with
    | "-r" :: rest => (true, rest)
    | rest => (false, rest)
  if names.isEmpty then ({ st.complain "read: arg count" with status := 2 }, .next)
  else
    let (line, ended, rest) := readLine raw (st.stdin.length + 1) [] st.stdin
    let values := readFields st.ifs.toList names.length (Utf8.decode line)
    let st := { st with stdin := rest }
    let st := (names.zip (values ++ List.replicate names.length "")).foldl
      (fun st (n, v) => st.setVar n v) st
    st.done (if ended then 0 else 1)

/-- `kill [-signal] pids`: only the shell itself can be signalled. -/
def killBuiltin (st : ShellState) (args : List String) : ShellState × Flow :=
  let (signal, pids) : Option Nat × List String := match args with
    | "-s" :: sig :: rest => (signalNumber sig, rest)
    | "-n" :: sig :: rest => (signalNumber sig, rest)
    | first :: rest =>
      if first.startsWith "-" then (signalNumber (String.ofList first.toList.tail), rest)
      else (some 15, first :: rest)
    | [] => (some 15, [])
  match signal, pids with
  | none, _ => ({ st.complain "kill: invalid signal number or name" with status := 2 }, .next)
  | some _, [] =>
    ({ st.complain "kill: usage: kill [-s sigspec | -signum | -sigspec] [pid | job]... or\nkill -l [exitstatus]" with
      status := 2 }, .next)
  | some sig, pids =>
    if pids.contains (toString st.pid) && sig ≠ 0 then ({ st with status := 128 + sig }, .killed sig)
    else if pids.all (· = toString st.pid) then st.done 0
    else ({ st.complain "kill: No such process" with status := 1 }, .next)

/-- `echo`, `printf`, `test` and `[` as the shell runs them. -/
def textBuiltin (st : ShellState) (name : String) (args : List String) : ShellState × Flow :=
  match name with
  | "echo" => (st.say (echo args)).done 0
  | "printf" =>
    match args with
    | [] => ({ st.complain "printf: usage: printf format [arg ...]" with status := 2 }, .next)
    | format :: rest =>
      let (out, complaints, status) := printf format rest
      let st := st.say out
      (complaints.foldl (fun st c => st.complain ("printf: " ++ c)) st).done status
  | _ =>
    let (status, complaint) := runTest st.fileInfo (name = "[") args
    match complaint with
    | some c => ({ st.complain (name ++ ": " ++ c) with status }, .next)
    | none => st.done status

/-- The built-ins that need no running, by name. -/
def plainBuiltin? (st : ShellState) (name : String) (args : List String) : Option (ShellState × Flow) :=
  match name with
  | ":" | "true" => some (st.done 0)
  | "false" => some (st.done 1)
  | "exit" => some (st.exitBuiltin args)
  | "shift" => some (st.shiftBuiltin args)
  | "break" | "continue" => some (st.loopBuiltin name args)
  | "return" => some (st.returnBuiltin args)
  | "set" => some (st.setBuiltin args)
  | "export" => some (st.exportBuiltin name args true)
  | "readonly" => some (st.exportBuiltin name args false)
  | "unset" => some (st.unsetBuiltin args)
  | "cd" => some (st.cdBuiltin args)
  | "trap" => some (st.trapBuiltin args)
  | "local" => some (st.localBuiltin args)
  | "read" => some (st.readBuiltin args)
  | "kill" => some (st.killBuiltin args)
  | "wait" => some ({ st with slept := max st.slept st.background, status := 0 }, .next)
  | "echo" | "printf" | "test" | "[" => some (st.textBuiltin name args)
  | _ => none

/-- The exported variables, as a child's environment. -/
def environment (st : ShellState) : List Variable :=
  (st.vars.filter (·.exported)).map fun v => { v with readonly := false }

/-- Applies `set -e`: a failed command whose status is not tested ends the shell. -/
def checkExit (st : ShellState) (flow : Flow) (tested : Bool) : ShellState × Flow :=
  if flow = .next && st.options.errexit && !tested && st.status ≠ 0 then (st, .exit st.status)
  else (st, flow)

/-- The pieces of a parameter expansion with no operator; none with the complaint when the
parameter is unset under `set -u`. -/
def paramPieces (st : ShellState) (name : String) (quoted : Bool) : Except String (List Piece) :=
  if name = "@" || (name = "*" && !quoted) then
    let ps := st.params.map fun p => Piece.chars p (!quoted) quoted
    .ok (ps.intersperse .boundary)
  else if name = "*" then
    let sep := match st.ifs.toList with
      | c :: _ => String.singleton c
      | [] => ""
    .ok [.chars (sep.intercalate st.params) false true]
  else
    match st.lookup name with
    | some v => .ok [.chars v (!quoted) quoted]
    | none =>
      if st.options.nounset && name ≠ "!" then .error (name ++ ": parameter not set")
      else .ok [.chars "" (!quoted) quoted]

/-- The child state of a subshell: the same shell, but its loops, traps and captured output
start afresh where they must. -/
def subshellOf (st : ShellState) : ShellState := { st with loops := 0, exitTrap := none }

/-- Takes back from a subshell what it changed for everyone: the work tree, the input it read,
what it wrote into the capture buffer, and the time. -/
def rejoin (st child : ShellState) (status : Nat) : ShellState :=
  { st with ws := child.ws, stdin := child.stdin, captured := child.captured, slept := child.slept,
            background := child.background, status }

end ShellState

/-- The status a subshell's end gives, and whether it killed the shell itself. -/
def subshellEnd (child : ShellState) (flow : Flow) : Nat × Option Flow :=
  match flow with
  | .exit code => (code, none)
  | .killed sig => (128 + sig, some (.killed sig))
  | .stalled => (child.status, some .stalled)
  | _ => (child.status, none)

/-- How a simple command is written by `set -x`. -/
def traceLine (assigns : List (String × String)) (fields : List String) : String :=
  "+ " ++ " ".intercalate (assigns.map (fun (n, v) => n ++ "=" ++ v) ++ fields) ++ "\n"

/-- A program found on the search path. -/
inductive Program where
  | shell
  | echo
  | printf
  | test (bracket : Bool)
  | yes
  | no
  | sleep
  | cat
  deriving DecidableEq, Repr, Inhabited

/-- The program a name finds: a bare name on the search path, a path in the system's
program directories. -/
def Program.find? (name : String) : Option Program :=
  let base :=
    if name.startsWith "/bin/" then some (String.ofList (name.toList.drop 5))
    else if name.startsWith "/usr/bin/" then some (String.ofList (name.toList.drop 9))
    else if name.contains '/' then none
    else some name
  match base with
  | some "sh" | some "dash" => some .shell
  | some "echo" => some .echo
  | some "printf" => some .printf
  | some "test" => some (.test false)
  | some "[" => some (.test true)
  | some "true" => some .yes
  | some "false" => some .no
  | some "sleep" => some .sleep
  | some "cat" => some .cat
  | _ => none

/-- `echo` as a program: leading options made of `n`, `e` and `E` choose no line end and
whether backslash sequences are read (not by default). -/
def programEcho (args : List String) : List UInt8 :=
  let isOption (a : String) : Bool :=
    a.length ≥ 2 && a.startsWith "-" && (a.toList.drop 1).all fun c => c = 'n' || c = 'e' || c = 'E'
  let opts := args.takeWhile isOption
  let words := args.drop opts.length
  let letters := opts.flatMap fun o => o.toList.drop 1
  let newline := !letters.contains 'n'
  let escapes := (letters.reverse.find? (fun c => c = 'e' || c = 'E')) = some 'e'
  let (body, stopped) := if escapes then
      echoEscapes ((" ".intercalate words).length + 1) (octets (" ".intercalate words)) []
    else (octets (" ".intercalate words), false)
  body ++ (if newline && !stopped then [10] else [])

/-- The options of the shell program before its operands: the options, whether `-c` was given,
and the operands; or the option letter it does not know. -/
def shellOptions : Nat → List String → Options → Bool → Except Char (Options × Bool × List String)
  | 0, args, o, c => .ok (o, c, args)
  | _ + 1, [], o, c => .ok (o, c, [])
  | fuel + 1, a :: rest, o, c =>
    if a = "--" then .ok (o, c, rest)
    else if (a.startsWith "-" || a.startsWith "+") && a.length > 1 then
      let on := a.startsWith "-"
      let step (acc : Except Char (Options × Bool)) (l : Char) : Except Char (Options × Bool) := do
        let (o, c) ← acc
        if l = 'c' then pure (o, true)
        else match o.setLetter l on with
          | some o => pure (o, c)
          | none => throw l
      match (a.toList.drop 1).foldl step (.ok (o, c)) with
      | .ok (o, c) => shellOptions fuel rest o c
      | .error l => .error l
    else .ok (o, c, a :: rest)

mutual

/-- Expands a word into pieces. `fromExpansion` when the word is the operand of a parameter
expansion, whose plain text is split like an expansion's value. -/
def expandWord (fuel : Nat) (st : ShellState) (w : Word) (fromExpansion : Bool) :
    ShellState × Except Flow (List Piece) :=
  match fuel with
  | 0 => (st, .error .stalled)
  | fuel + 1 =>
    match w with
    | [] => (st, .ok [])
    | p :: rest =>
      match expandPart fuel st p fromExpansion with
      | (st, .error f) => (st, .error f)
      | (st, .ok ps) =>
        match expandWord fuel st rest fromExpansion with
        | (st, .error f) => (st, .error f)
        | (st, .ok qs) => (st, .ok (ps ++ qs))

/-- Expands one part of a word. -/
def expandPart (fuel : Nat) (st : ShellState) (p : Part) (fromExpansion : Bool) :
    ShellState × Except Flow (List Piece) :=
  match fuel with
  | 0 => (st, .error .stalled)
  | fuel + 1 =>
    let fail (st : ShellState) (words : String) : ShellState × Except Flow (List Piece) :=
      let (st, f) := st.fatal words
      (st, .error f)
    match p with
    | .text s q => (st, .ok [.chars s (fromExpansion && !q) q])
    | .param name q =>
      match st.paramPieces name q with
      | .ok ps => (st, .ok ps)
      | .error why => fail st why
    | .length name q =>
      let n := if name = "@" || name = "*" then st.params.length
        else ((st.lookup name).map String.utf8ByteSize).getD 0
      match st.lookup name, st.options.nounset with
      | none, true => if name = "@" || name = "*" then (st, .ok [.chars (toString n) (!q) q])
        else fail st (name ++ ": parameter not set")
      | _, _ => (st, .ok [.chars (toString n) (!q) q])
    | .modified name op arg q =>
      let value := st.lookup name
      let isSet := value.isSome
      let isNull := value.getD "" = ""
      let operand (st : ShellState) : ShellState × Except Flow (List Piece) :=
        match operandWord arg q with
        | .ok w => expandWord fuel st w (!q)
        | .error _ => (st, .ok [.chars arg (!q) q])
      let valuePieces : List Piece := [.chars (value.getD "") (!q) q]
      match op with
      | .useDefault colon =>
        if !isSet || (colon && isNull) then operand st else (st, .ok valuePieces)
      | .assignDefault colon =>
        if !isSet || (colon && isNull) then
          match operand st with
          | (st, .ok ps) =>
            let v := piecesText ps
            if !isName name then fail st (name ++ ": bad variable name")
            else match st.assign name v with
              | .ok st => (st, .ok [.chars v (!q) q])
              | .error why => fail st why
          | r => r
        else (st, .ok valuePieces)
      | .errorIfUnset colon =>
        if !isSet || (colon && isNull) then
          match operand st with
          | (st, .ok ps) =>
            let m := piecesText ps
            let m := if m.isEmpty then (if colon then "parameter null or not set" else "parameter not set") else m
            fail st (name ++ ": " ++ m)
          | r => r
        else (st, .ok valuePieces)
      | .useAlternative colon =>
        if isSet && !(colon && isNull) then operand st
        else (st, .ok (if q then [.chars "" false true] else []))
      | .removeSuffix longest | .removePrefix longest =>
        match value, st.options.nounset with
        | none, true => fail st (name ++ ": parameter not set")
        | _, _ =>
          let patternWord := match operandWord arg false with
            | .ok w => w
            | .error _ => [.text arg true]
          match expandWord fuel st patternWord false with
          | (st, .ok ps) =>
            let pattern := piecesChars ps
            let v := value.getD ""
            let r := match op with
              | .removeSuffix _ => removeSuffix v pattern longest
              | _ => removePrefix v pattern longest
            (st, .ok [.chars r (!q) q])
          | r => r
    | .command src line q =>
      match substitute fuel st src line with
      | (st, .ok out) => (st, .ok [.chars out (!q) q])
      | (st, .error f) => (st, .error f)
    | .arith src line q =>
      match operandWord src true with
      | .error _ => fail st ("arithmetic expression: expecting primary: \"" ++ src ++ "\"")
      | .ok w =>
        match expandWord fuel st w false with
        | (st, .error f) => (st, .error f)
        | (st, .ok ps) =>
          let text := piecesText ps
          let st := { st with line }
          match evalArith st.lookup text with
          | .ok (v, assigned) =>
            let st := assigned.reverse.foldl (fun st (n, x) => st.setVar n x) st
            (st, .ok [.chars (toString v) (!q) q])
          | .error (.faulty words) => fail st ("arithmetic expression: " ++ words ++ ": \"" ++ text ++ "\"")
          | .error (.illegal v) => fail st ("Illegal number: " ++ v)

/-- Expands words into the fields of a command: expansion, field splitting and pathname
expansion. -/
def expandFields (fuel : Nat) (st : ShellState) (ws : List Word) :
    ShellState × Except Flow (List String) :=
  match fuel with
  | 0 => (st, .error .stalled)
  | fuel + 1 =>
    match ws with
    | [] => (st, .ok [])
    | w :: rest =>
      match expandWord fuel st w false with
      | (st, .error f) => (st, .error f)
      | (st, .ok ps) =>
        let fields := splitFields st.ifs ps
        let names := fields.flatMap fun f =>
          if st.options.noglob || !isPattern f || (f.map Prod.fst).contains '/' then [fieldText f]
          else
            match st.entries.filter (matchesName f) with
            | [] => [fieldText f]
            | ms => ms
        match expandFields fuel st rest with
        | (st, .error f) => (st, .error f)
        | (st, .ok more) => (st, .ok (names ++ more))

/-- Runs a command substitution: its output without trailing line ends. -/
def substitute (fuel : Nat) (st : ShellState) (src : String) (line : Nat) :
    ShellState × Except Flow String :=
  match fuel with
  | 0 => (st, .error .stalled)
  | fuel + 1 =>
    let child := { st.subshellOf with out := .capture, captured := [] }
    let (child, flow) := runTokens fuel child (lex src line) (line + src.toList.count '\n')
    let (status, stop) := subshellEnd child flow
    let out := dropTrailingNewlines (Utf8.decodeString child.captured.reverse)
    let joined := st.rejoin { child with captured := st.captured } status
    let st := { joined with substStatus := some status }
    match stop with
    | some f => (st, .error f)
    | none => (st, .ok out)

/-- Runs the lists of a token stream one after the other, each parsed when the one before
has run. -/
def runTokens (fuel : Nat) (st : ShellState) (ts : Tokens) (lastLine : Nat) : ShellState × Flow :=
  match fuel with
  | 0 => (st, .stalled)
  | fuel + 1 =>
    match parseNext ts lastLine with
    | .error e => ({ st.sayErr (octets (st.arg0 ++ ": " ++ toString e.line ++ ": Syntax error: " ++ e.message ++ "\n")) with
        status := 2 }, .exit 2)
    | .ok (none, _) => (st, .next)
    | .ok (some c, rest) =>
      match runCommand fuel st c false with
      | (st, .next) => runTokens fuel st rest lastLine
      | r => r

/-- Runs a command; `tested` when its status is tested, which keeps `set -e` from ending the
shell. -/
def runCommand (fuel : Nat) (st : ShellState) (c : Command) (tested : Bool) : ShellState × Flow :=
  match fuel with
  | 0 => (st, .stalled)
  | fuel + 1 =>
    match c with
    | .simple assigns words redirects line =>
      let (st, flow) := runSimple fuel st assigns words redirects line
      st.checkExit flow tested
    | .redirected body rs =>
      let saved := st
      match applyRedirects fuel st rs with
      | (st, .error f) => (st, f)
      | (st, .ok (some why)) => ({ (st.restoreFrom saved rs).complain why with status := 2 }, .next)
      | (st, .ok none) =>
        let (st, flow) := runCommand fuel st body tested
        (st.restoreFrom saved rs, flow)
    | .pipeline negated stages =>
      match stages with
      | [single] =>
        let (st, flow) := runCommand fuel st single (tested || negated)
        if negated then ({ st with status := if st.status = 0 then 1 else 0 }, flow) else (st, flow)
      | _ =>
        let (st, flow) := runStages fuel st stages st.stdin st.slept st.slept
        let st := if negated then { st with status := if st.status = 0 then 1 else 0 } else st
        st.checkExit flow (tested || negated)
    | .andThen a b =>
      match runCommand fuel st a true with
      | (st, .next) => if st.status = 0 then runCommand fuel st b tested else (st, .next)
      | r => r
    | .orElse a b =>
      match runCommand fuel st a true with
      | (st, .next) => if st.status ≠ 0 then runCommand fuel st b tested else (st, .next)
      | r => r
    | .sequence items => runSeq fuel st items tested
    | .background body =>
      let start := st.slept
      let (child, flow) := runCommand fuel st.subshellOf body false
      let (_, stop) := subshellEnd child flow
      let st := { st.rejoin child 0 with slept := start, background := max st.background child.slept }
      match stop with
      | some (.killed sig) => (st, .killed sig)
      | _ => (st, .next)
    | .group body => runCommand fuel st body tested
    | .subshell body =>
      let (child, flow) := runCommand fuel st.subshellOf body tested
      let (status, stop) := subshellEnd child flow
      let st := st.rejoin child status
      match stop with
      | some f => (st, f)
      | none => st.checkExit .next tested
    | .ifThen cond thenPart elsePart =>
      match runCommand fuel st cond true with
      | (st, .next) =>
        if st.status = 0 then runCommand fuel st thenPart tested
        else match elsePart with
          | some e => runCommand fuel st e tested
          | none => st.done 0
      | r => r
    | .forIn name items body line =>
      match items with
      | none => runFor fuel { st with loops := st.loops + 1 } name st.params body tested 0
      | some ws =>
        match expandFields fuel { st with line } ws with
        | (st, .error f) => (st, f)
        | (st, .ok values) =>
          let (st', flow) := runFor fuel { st with loops := st.loops + 1 } name values body tested 0
          ({ st' with loops := st.loops }, flow)
    | .loop isUntil cond body =>
      let (st', flow) := runLoop fuel { st with loops := st.loops + 1 } isUntil cond body tested 0
      ({ st' with loops := st.loops }, flow)
    | .caseOf subject arms line =>
      match expandWord fuel { st with line } subject false with
      | (st, .error f) => (st, f)
      | (st, .ok ps) => runCase fuel st (piecesText ps) arms tested
    | .function name body _ =>
      ({ st with functions := (name, body) :: st.functions.filter (·.1 ≠ name), status := 0 }, .next)

/-- Runs commands one after the other. -/
def runSeq (fuel : Nat) (st : ShellState) (cs : List Command) (tested : Bool) : ShellState × Flow :=
  match fuel with
  | 0 => (st, .stalled)
  | fuel + 1 =>
    match cs with
    | [] => (st, .next)
    | [c] => runCommand fuel st c tested
    | c :: rest =>
      match runCommand fuel st c false with
      | (st, .next) => runSeq fuel st rest tested
      | r => r

/-- Runs the commands of a pipeline side by side from time `start`, each reading what the one
before wrote; `latest` is when the slowest so far ended. -/
def runStages (fuel : Nat) (st : ShellState) (stages : List Command) (input : List UInt8)
    (start latest : Nat) : ShellState × Flow :=
  match fuel with
  | 0 => (st, .stalled)
  | fuel + 1 =>
    match stages with
    | [] => ({ st with slept := latest }, .next)
    | [c] =>
      let (child, flow) := runCommand fuel { st.subshellOf with stdin := input, slept := start } c false
      let (status, stop) := subshellEnd child flow
      let st := { st.rejoin child status with slept := max latest child.slept }
      match stop with
      | some f => (st, f)
      | none => (st, .next)
    | c :: rest =>
      let child0 := { st.subshellOf with stdin := input, slept := start, out := .capture, captured := [] }
      let (child, flow) := runCommand fuel child0 c false
      let (_, stop) := subshellEnd child flow
      let piped := child.captured.reverse
      let joined := st.rejoin { child with captured := st.captured } st.status
      let st := { joined with slept := st.slept, stdin := st.stdin }
      match stop with
      | some (.killed sig) => (st, .killed sig)
      | _ => runStages fuel st rest piped start (max latest child.slept)

/-- Runs the body of a `for` once per value. -/
def runFor (fuel : Nat) (st : ShellState) (name : String) (values : List String) (body : Command)
    (tested : Bool) (last : Nat) : ShellState × Flow :=
  match fuel with
  | 0 => (st, .stalled)
  | fuel + 1 =>
    match values with
    | [] => st.done last
    | v :: rest =>
      match st.assign name v with
      | .error why => st.fatal why
      | .ok st =>
        match runCommand fuel st body tested with
        | (st, .next) => runFor fuel st name rest body tested st.status
        | (st, .breakLoop n) => if n ≤ 1 then st.done 0 else (st, .breakLoop (n - 1))
        | (st, .continueLoop n) =>
          if n ≤ 1 then runFor fuel st name rest body tested 0 else (st, .continueLoop (n - 1))
        | r => r

/-- Runs a `while` (or `until`) loop. -/
def runLoop (fuel : Nat) (st : ShellState) (isUntil : Bool) (cond body : Command) (tested : Bool)
    (last : Nat) : ShellState × Flow :=
  match fuel with
  | 0 => (st, .stalled)
  | fuel + 1 =>
    if st.slept ≥ forever then (st, .stalled)
    else
      match runCommand fuel st cond true with
      | (st, .next) =>
        if (st.status = 0) = isUntil then st.done last
        else
          match runCommand fuel st body tested with
          | (st, .next) => runLoop fuel st isUntil cond body tested st.status
          | (st, .breakLoop n) => if n ≤ 1 then st.done 0 else (st, .breakLoop (n - 1))
          | (st, .continueLoop n) =>
            if n ≤ 1 then runLoop fuel st isUntil cond body tested 0 else (st, .continueLoop (n - 1))
          | r => r
      | (st, .breakLoop n) => if n ≤ 1 then st.done 0 else (st, .breakLoop (n - 1))
      | (st, .continueLoop n) =>
        if n ≤ 1 then runLoop fuel st isUntil cond body tested 0 else (st, .continueLoop (n - 1))
      | r => r

/-- Runs the first arm of a `case` with a pattern the subject matches. -/
def runCase (fuel : Nat) (st : ShellState) (subject : String) (arms : List (List Word × Command))
    (tested : Bool) : ShellState × Flow :=
  match fuel with
  | 0 => (st, .stalled)
  | fuel + 1 =>
    match arms with
    | [] => st.done 0
    | (patterns, body) :: rest =>
      match casePatternsMatch fuel st subject patterns with
      | (st, .error f) => (st, f)
      | (st, .ok true) => runCommand fuel st body tested
      | (st, .ok false) => runCase fuel st subject rest tested

/-- Whether a subject matches one of the patterns of an arm. -/
def casePatternsMatch (fuel : Nat) (st : ShellState) (subject : String) (patterns : List Word) :
    ShellState × Except Flow Bool :=
  match fuel with
  | 0 => (st, .error .stalled)
  | fuel + 1 =>
    match patterns with
    | [] => (st, .ok false)
    | p :: rest =>
      match expandWord fuel st p false with
      | (st, .error f) => (st, .error f)
      | (st, .ok ps) =>
        if patternMatches (piecesChars ps) subject then (st, .ok true)
        else casePatternsMatch fuel st subject rest

/-- Applies redirections: the shell with its descriptors changed, or the words of why one
could not be made (the command does not run), or how the shell ends. -/
def applyRedirects (fuel : Nat) (st : ShellState) (rs : List Redirect) :
    ShellState × Except Flow (Option String) :=
  match fuel with
  | 0 => (st, .error .stalled)
  | fuel + 1 =>
    match rs with
    | [] => (st, .ok none)
    | r :: rest =>
      let target (w : Word) : ShellState × Except Flow String :=
        match expandWord fuel st w false with
        | (st, .ok ps) => (st, .ok (piecesText ps))
        | (st, .error f) => (st, .error f)
      let next (st : ShellState) := applyRedirects fuel st rest
      match r with
      | .toFile fd w append =>
        match target w with
        | (st, .error f) => (st, .error f)
        | (st, .ok p) =>
          match st.openWrite p append with
          | .ok (st, s) => next (st.setSink fd s)
          | .error why => (st, .ok (some why))
      | .fromFile fd w | .readWrite fd w =>
        match target w with
        | (st, .error f) => (st, .error f)
        | (st, .ok p) =>
          match st.readFile p with
          | .ok bs => next (if fd = 0 then { st with stdin := bs } else st)
          | .error _ =>
            match r with
            | .readWrite _ _ =>
              match st.openWrite p false with
              | .ok (st, _) => next (if fd = 0 then { st with stdin := [] } else st)
              | .error why => (st, .ok (some why))
            | _ => (st, .ok (some ("cannot open " ++ p ++ ": No such file")))
      | .dup fd w output =>
        match target w with
        | (st, .error f) => (st, .error f)
        | (st, .ok t) =>
          if t = "-" then next (if fd = 0 then { st with stdin := [] } else st.setSink fd .closed)
          else if !t.isEmpty && t.all Char.isDigit then
            let n := Text.decimalText t
            if fd = 0 || !output then next st
            else if n = 1 || n = 2 || st.extra.any (·.1 = n) then next (st.setSink fd (st.sink n))
            else (st, .ok (some (t ++ ": Bad file descriptor")))
          else
            let (st, f) := st.fatal "Syntax error: Bad fd number"
            (st, .error f)
      | .heredoc fd body =>
        match expandWord fuel st body false with
        | (st, .error f) => (st, .error f)
        | (st, .ok ps) => next (if fd = 0 then { st with stdin := octets (piecesText ps) } else st)

/-- Expands the values of assignments. -/
def expandAssigns (fuel : Nat) (st : ShellState) (assigns : List (String × Word)) :
    ShellState × Except Flow (List (String × String)) :=
  match fuel with
  | 0 => (st, .error .stalled)
  | fuel + 1 =>
    match assigns with
    | [] => (st, .ok [])
    | (n, w) :: rest =>
      match expandWord fuel st w false with
      | (st, .error f) => (st, .error f)
      | (st, .ok ps) =>
        match expandAssigns fuel st rest with
        | (st, .error f) => (st, .error f)
        | (st, .ok more) => (st, .ok ((n, piecesText ps) :: more))

/-- Runs a simple command. -/
def runSimple (fuel : Nat) (st : ShellState) (assigns : List (String × Word)) (words : List Word)
    (redirects : List Redirect) (line : Nat) : ShellState × Flow :=
  match fuel with
  | 0 => (st, .stalled)
  | fuel + 1 =>
    let st := { st with line, substStatus := none }
    match expandFields fuel st words with
    | (st, .error f) => (st, f)
    | (st, .ok fields) =>
      let saved := st
      let special := match fields with
        | name :: _ => specialBuiltins.contains name
        | [] => false
      match applyRedirects fuel st redirects with
      | (st, .error f) => (st, f)
      | (st, .ok (some why)) =>
        let st := { (st.restoreFrom saved redirects).complain why with status := 2 }
        if special then (st, .exit 2) else (st, .next)
      | (st, .ok none) =>
        match expandAssigns fuel st assigns with
        | (st, .error f) => (st, f)
        | (st, .ok values) =>
          let st := if st.options.xtrace then st.write saved.err (octets (traceLine values fields)) else st
          match fields with
          | [] =>
            match values.foldlM (fun st (n, v) => st.assign n v) st with
            | .ok st => ({ st.restoreFrom saved redirects with status := st.substStatus.getD 0 }, .next)
            | .error why => (st.restoreFrom saved redirects).fatal why
          | ["exec"] => ({ st with status := 0 }, .next)
          | name :: args =>
            let (st, flow) := invoke fuel st name args values special
            (st.restoreFrom saved redirects, flow)

/-- Runs a command by name: a special built-in, a function, a built-in or a program. -/
def invoke (fuel : Nat) (st : ShellState) (name : String) (args : List String)
    (values : List (String × String)) (special : Bool) : ShellState × Flow :=
  match fuel with
  | 0 => (st, .stalled)
  | fuel + 1 =>
    if special then
      match values.foldlM (fun st (n, v) => st.assign n v) st with
      | .error why => st.fatal why
      | .ok st =>
        match name with
        | "eval" =>
          let text := " ".intercalate args
          runTokens fuel st (lex text st.line) (st.line + text.toList.count '\n')
        | "exec" =>
          match args with
          | prog :: progArgs =>
            if (Program.find? prog).isNone then
              ({ st.complain ("exec: " ++ prog ++ ": not found") with status := 127 }, .exit 127)
            else
            let (st, flow) := runProgram fuel st prog progArgs st.environment
            match flow with
            | .next => (st, .exit st.status)
            | f => (st, f)
          | [] => st.done 0
        | _ =>
          match st.plainBuiltin? name args with
          | some r => r
          | none => ({ st.complain (name ++ ": not found") with status := 127 }, .next)
    else
      match st.functions.find? (·.1 = name) with
      | some (_, body) =>
        let outer := st
        let st := values.foldl (fun st (n, v) => st.setVar n v) st
        let st := { st with params := args, frames := [] :: st.frames }
        let (st, flow) := runCommand fuel st body false
        let frame := st.frames.headD []
        let st := frame.foldl (fun st (n, v) => match v with
          | some v => { st.unsetVar n with vars := (st.unsetVar n).vars ++ [v] }
          | none => st.unsetVar n) st
        let st := values.foldl (fun st (n, _) => match outer.var? n with
          | some v => { st.unsetVar n with vars := (st.unsetVar n).vars ++ [v] }
          | none => st.unsetVar n) st
        let st := { st with params := outer.params, frames := outer.frames }
        match flow with
        | .returned => (st, .next)
        | f => (st, f)
      | none =>
        match st.plainBuiltin? name args with
        | some r => r
        | none =>
          let env := st.environment.filter (fun v => !values.any (·.1 = v.name)) ++
            values.map fun (n, v) => { name := n, value := v, exported := true }
          runProgram fuel st name args env

/-- Runs a program with the shell's descriptors; a program that is not found is reported. -/
def runProgram (fuel : Nat) (st : ShellState) (name : String) (args : List String)
    (env : List Variable) : ShellState × Flow :=
  match fuel with
  | 0 => (st, .stalled)
  | fuel + 1 =>
    match Program.find? name with
    | none => ({ st.complain (name ++ ": not found") with status := 127 }, .next)
    | some .shell =>
      let (child, ending) := runShellProgram fuel st args env
      let st := st.rejoin child (match ending with
        | .exited code => code
        | .signalled sig => 128 + sig)
      match ending with
      | .signalled sig =>
        match signalText sig with
        | some t => (st.sayErr (octets (t ++ "\n")), .next)
        | none => (st, .next)
      | _ => (st, if child.slept ≥ forever then .stalled else .next)
    | some .echo => (st.say (programEcho args)).done 0
    | some .printf =>
      match args with
      | [] => (st.sayErr (octets "printf: missing operand\nTry 'printf --help' for more information.\n")).done 1
      | format :: rest =>
        let (out, complaints, status) := printf format rest
        let st := st.say out
        (complaints.foldl (fun st c => st.sayErr (octets ("printf: " ++ c ++ "\n"))) st).done status
    | some (.test bracket) =>
      let (status, complaint) := runTest st.fileInfo bracket args
      let tool := if bracket then "[" else "test"
      match complaint with
      | some c => (st.sayErr (octets (tool ++ ": " ++ c ++ "\n"))).done status
      | none => st.done status
    | some .yes => st.done 0
    | some .no => st.done 1
    | some .sleep =>
      let usage := "Try 'sleep --help' for more information.\n"
      match args with
      | [] => (st.sayErr (octets ("sleep: missing operand\n" ++ usage))).done 1
      | args =>
        match args.find? (fun a => (sleepOperand a).isNone) with
        | some bad => (st.sayErr (octets ("sleep: invalid time interval '" ++ bad ++ "'\n" ++ usage))).done 1
        | none => { st with slept := st.slept + (args.filterMap sleepOperand).foldl (· + ·) 0 }.done 0
    | some .cat =>
      if args.isEmpty then ({ st.say st.stdin with stdin := [] }).done 0
      else
        let step (acc : ShellState × Nat) (a : String) : ShellState × Nat :=
          let (st, status) := acc
          if a = "-" then ({ st.say st.stdin with stdin := [] }, status)
          else match st.readFile a with
            | .ok bs => (st.say bs, status)
            | .error why => (st.sayErr (octets ("cat: " ++ a ++ ": " ++ why ++ "\n")), 1)
        let (st, status) := args.foldl step (st, 0)
        st.done status

/-- Runs the shell as a program with its arguments, in a child of `st` with the environment
`env`: the child when it ended, and how it ended. -/
def runShellProgram (fuel : Nat) (st : ShellState) (args : List String) (env : List Variable) :
    ShellState × Ending :=
  match fuel with
  | 0 => (st, .exited 0)
  | fuel + 1 =>
    let child (arg0 : String) (params : List String) (options : Options) : ShellState :=
      { arg0, params, vars := env, options, ws := st.ws, logPath := st.logPath, cwd := st.cwd,
        captured := st.captured, stdin := st.stdin, out := st.out, err := st.err, extra := st.extra,
        slept := st.slept, background := st.slept, pid := st.pid + 1 }
    match shellOptions (args.length + 1) args {} false with
    | .error l =>
      (st.sayErr (octets ("sh: 0: Illegal option -" ++ String.singleton l ++ "\n")), .exited 2)
    | .ok (options, true, operands) =>
      match operands with
      | script :: rest =>
        let c := child (rest.headD "sh") (rest.drop 1) options
        runScript fuel c script
      | [] => (st.sayErr (octets "sh: 0: -c requires an argument\n"), .exited 2)
    | .ok (options, false, operands) =>
      match operands with
      | file :: rest =>
        match st.readFile file with
        | .ok bs => runScript fuel (child file rest options) (Utf8.decodeString bs)
        | .error _ => (st.sayErr (octets ("sh: 0: cannot open " ++ file ++ ": No such file\n")), .exited 2)
      | [] =>
        let c := { child "sh" [] options with stdin := [] }
        runScript fuel c (Utf8.decodeString st.stdin)

/-- Runs a script in a shell until it ends, then its `EXIT` trap. -/
def runScript (fuel : Nat) (st : ShellState) (script : String) : ShellState × Ending :=
  match fuel with
  | 0 => (st, .exited 0)
  | fuel + 1 =>
    let (st, flow) := runTokens fuel st (lex script 1) (1 + script.toList.count '\n')
    let code := match flow with
      | .exit c => c
      | _ => st.status
    match flow with
    | .killed sig => (st, .signalled sig)
    | .stalled => ({ st with slept := st.slept + forever }, .exited code)
    | _ =>
      match st.exitTrap with
      | none => (st, .exited code)
      | some trap =>
        let st := { st with exitTrap := none, status := code }
        match runTokens fuel st (lex trap st.line) (st.line + trap.toList.count '\n') with
        | (st, .exit c) => (st, .exited c)
        | (st, .killed sig) => (st, .signalled sig)
        | (st, _) => (st, .exited code)

end

/-- The fuel a program runs with: the number of steps the model follows. -/
def runFuel : Nat := 100000

/-- Starts a program by name with its arguments in a place; answers the run, or why the
program could not be started. -/
def start (name : String) (args : List String) (place : Place) : Except String Run :=
  match Program.find? name with
  | some _ =>
    let st : ShellState := { arg0 := "sh", ws := place.ws, logPath := place.log, cwd := place.cwd, pid := 4242 }
    match Program.find? name with
    | some .shell =>
      let (child, ending) := runShellProgram runFuel st args []
      .ok { ws := child.ws, ending, slept := child.slept }
    | _ =>
      let (st, _) := runProgram runFuel st name args []
      .ok { ws := st.ws, ending := .exited st.status, slept := st.slept }
  | none =>
    if name.contains '/' then .error ("fork/exec " ++ name ++ ": no such file or directory")
    else .error ("exec: " ++ Quoted.quote name ++ ": executable file not found in $PATH")

end TestDispatch.Shell
