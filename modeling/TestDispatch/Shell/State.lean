import TestDispatch.Text.Decimal
import TestDispatch.Shell.Parser
import TestDispatch.Shell.Arith
import TestDispatch.Shell.Fields
import TestDispatch.Shell.Builtins
import TestDispatch.Executor.Workspace
import TestDispatch.Text.Utf8
import TestDispatch.Text.ByteOrder
/-!
# The state of a running shell

A shell holds its parameters and variables, its functions and options, the status of the last
command, and its descriptors: standard output and standard error write to the run's log, to a
capture buffer (a pipe or a command substitution), to a file, or nowhere; standard input is the
octets still to be read. Files live in the run's work tree, relative to the working directory;
`/dev/null`, `/dev/stdout` and `/dev/stderr` are the usual devices, and the system's own
directories exist but hold no file this model knows.

Complaints are written to standard error as `$0: line: words`.
-/

namespace TestDispatch.Shell

open TestDispatch.Executor

/-- Where a descriptor writes. -/
inductive Sink where
  /-- The run's log. -/
  | log
  /-- The capture buffer: a pipe to the next command, or a command substitution. -/
  | capture
  /-- Nowhere (`/dev/null`). -/
  | null
  /-- A file of the work tree. -/
  | file (path : String)
  /-- A closed descriptor. -/
  | closed
  deriving DecidableEq, Repr, Inhabited

/-- A shell variable. -/
structure Variable where
  name : String
  value : String
  exported : Bool := false
  readonly : Bool := false
  deriving DecidableEq, Repr, Inhabited

/-- The options `set` turns on and off. -/
structure Options where
  /-- `-e`: a failing command ends the shell. -/
  errexit : Bool := false
  /-- `-u`: expanding an unset variable is an error. -/
  nounset : Bool := false
  /-- `-x`: each simple command is written to standard error before it runs. -/
  xtrace : Bool := false
  /-- `-f`: no pathname expansion. -/
  noglob : Bool := false
  deriving DecidableEq, Repr, Inhabited

/-- What a command lets happen next. -/
inductive Flow where
  | next
  /-- The shell ends with a status. -/
  | exit (code : Nat)
  /-- The shell was killed by a signal. -/
  | killed (signal : Nat)
  /-- `break n`. -/
  | breakLoop (n : Nat)
  /-- `continue n`. -/
  | continueLoop (n : Nat)
  /-- `return` from a function. -/
  | returned
  /-- The script would still be running when the model stops following it. -/
  | stalled
  deriving DecidableEq, Repr, Inhabited

/-- The state of a running shell. -/
structure ShellState where
  /-- `$0`, which also starts every complaint. -/
  arg0 : String
  /-- The positional parameters. -/
  params : List String := []
  vars : List Variable := []
  functions : List (String × Command) := []
  status : Nat := 0
  options : Options := {}
  /-- The work tree the run's files live in. -/
  ws : Workspace
  /-- The path of the run's log in the tree. -/
  logPath : String
  /-- The working directory. -/
  cwd : String
  /-- The capture buffer, latest octet first. -/
  captured : List UInt8 := []
  stdin : List UInt8 := []
  out : Sink := .log
  err : Sink := .log
  /-- Descriptors 3 to 9. -/
  extra : List (Nat × Sink) := []
  /-- The time the shell has run, in nanoseconds. -/
  slept : Nat := 0
  /-- When the last background job ends. -/
  background : Nat := 0
  pid : Nat
  /-- The line of the command running. -/
  line : Nat := 1
  /-- How many loops the running command is inside. -/
  loops : Nat := 0
  /-- The variables each running function saved with `local`, innermost first. -/
  frames : List (List (String × Option Variable)) := []
  /-- The status of the last command substitution of the running command. -/
  substStatus : Option Nat := none
  exitTrap : Option String := none
  deriving Inhabited

namespace ShellState

/-- The variable of a name. -/
def var? (st : ShellState) (name : String) : Option Variable := st.vars.find? (·.name = name)

/-- Sets a variable, keeping its flags. -/
def setVar (st : ShellState) (name value : String) : ShellState :=
  match st.var? name with
  | some v => { st with vars := st.vars.map fun w => if w.name = name then { v with value } else w }
  | none => { st with vars := st.vars ++ [{ name, value }] }

/-- Removes a variable. -/
def unsetVar (st : ShellState) (name : String) : ShellState :=
  { st with vars := st.vars.filter (·.name ≠ name) }

/-- The field separators: `IFS`, or blanks when it is unset. -/
def ifs (st : ShellState) : String := ((st.var? "IFS").map (·.value)).getD " \t\n"

/-- The value of a parameter, none when it is unset. -/
def lookup (st : ShellState) (name : String) : Option String :=
  match name with
  | "#" => some (toString st.params.length)
  | "?" => some (toString st.status)
  | "$" => some (toString st.pid)
  | "0" => some st.arg0
  | "@" | "*" => some (" ".intercalate st.params)
  | "!" => none
  | "-" =>
    some (String.ofList ((if st.options.errexit then ['e'] else []) ++ (if st.options.noglob then ['f'] else []) ++
      (if st.options.nounset then ['u'] else []) ++ (if st.options.xtrace then ['x'] else [])))
  | "LINENO" => some (toString st.line)
  | _ =>
    if !name.isEmpty && name.all Char.isDigit then st.params[Text.decimalText name - 1]?
    else (st.var? name).map (·.value)

/-- The sink of a descriptor. -/
def sink (st : ShellState) (fd : Nat) : Sink :=
  if fd = 1 then st.out else if fd = 2 then st.err
  else ((st.extra.find? (·.1 = fd)).map Prod.snd).getD .closed

/-- Points a descriptor at a sink. -/
def setSink (st : ShellState) (fd : Nat) (s : Sink) : ShellState :=
  if fd = 1 then { st with out := s } else if fd = 2 then { st with err := s }
  else { st with extra := (fd, s) :: st.extra.filter (·.1 ≠ fd) }

/-- Whether redirections change standard input. -/
def touchesInput (rs : List Redirect) : Bool :=
  rs.any fun r => match r with
    | .fromFile 0 _ | .readWrite 0 _ | .heredoc 0 _ | .dup 0 _ _ => true
    | _ => false

/-- The descriptors of `saved` back after a command with redirections `rs`; standard input too
when they changed it. -/
def restoreFrom (st saved : ShellState) (rs : List Redirect) : ShellState :=
  { st with out := saved.out, err := saved.err, extra := saved.extra,
            stdin := if touchesInput rs then saved.stdin else st.stdin }

/-- Writes octets to a sink. -/
def write (st : ShellState) (s : Sink) (bs : List UInt8) : ShellState :=
  if bs.isEmpty then st
  else
    match s with
    | .log => { st with ws := st.ws.append st.logPath bs }
    | .capture => { st with captured := bs.reverse ++ st.captured }
    | .file p => { st with ws := st.ws.append p bs }
    | .null | .closed => st

/-- Writes to standard output. -/
def say (st : ShellState) (bs : List UInt8) : ShellState := st.write st.out bs

/-- Writes to standard error. -/
def sayErr (st : ShellState) (bs : List UInt8) : ShellState := st.write st.err bs

/-- Writes a complaint: `$0: line: words`. -/
def complain (st : ShellState) (words : String) : ShellState :=
  st.sayErr (octets (st.arg0 ++ ": " ++ toString st.line ++ ": " ++ words ++ "\n"))

/-! ## Files -/

/-- A path as the work tree names it: absolute paths as they are, cleaned, and relative ones
from the working directory. -/
def resolve (st : ShellState) (p : String) : String :=
  if rootedPath p then cleanPath p else joinPath [st.cwd, p]

/-- The system's own directories. -/
def systemDirs : List String :=
  ["/", "/tmp", "/dev", "/etc", "/usr", "/bin", "/sbin", "/var", "/var/tmp", "/home", "/root",
   "/proc", "/sys", "/lib", "/opt", "/usr/bin", "/usr/lib", "/usr/local", "/usr/local/bin",
   "/usr/sbin", "/usr/share"]

/-- Whether a resolved path is a directory. -/
def isDir (st : ShellState) (path : String) : Bool :=
  systemDirs.contains path || st.ws.dirs.contains path || path = "." ||
    (pathParts path).all (· = "..")

/-- The directory a resolved path is in. -/
def parentOf (path : String) : String :=
  if path.startsWith "/" then
    match (pathParts path |>.filter (· ≠ "")).dropLast with
    | [] => "/"
    | ps => "/" ++ "/".intercalate ps
  else
    match (pathParts path).dropLast with
    | [] => "."
    | ps => "/".intercalate ps

/-- What a file test sees at a path. -/
def fileInfo (st : ShellState) (p : String) : Option FileInfo :=
  if p = "/dev/null" || p = "/dev/stdout" || p = "/dev/stderr" || p = "/dev/stdin" then
    some { directory := false, size := 0 }
  else if p.isEmpty then none
  else
    let path := st.resolve p
    if st.isDir path then some { directory := true, size := 4096 }
    else (st.ws.read? path).map fun bs => { directory := false, size := bs.length }

/-- The contents of a file, or why it cannot be read. -/
def readFile (st : ShellState) (p : String) : Except String (List UInt8) :=
  if p = "/dev/null" then .ok []
  else if p = "/dev/stdin" then .ok st.stdin
  else
    let path := st.resolve p
    if st.isDir path then .error "Is a directory"
    else match st.ws.read? path with
      | some bs => .ok bs
      | none => .error "No such file or directory"

/-- Opens a file for writing (emptied unless `append`): its sink, or the shell's words for why
it cannot be created. -/
def openWrite (st : ShellState) (p : String) (append : Bool) : Except String (ShellState × Sink) :=
  if p = "/dev/null" then .ok (st, .null)
  else if p = "/dev/stdout" then .ok (st, st.out)
  else if p = "/dev/stderr" then .ok (st, st.err)
  else
    let path := st.resolve p
    if p.isEmpty then .error ("cannot create " ++ p ++ ": Directory nonexistent")
    else if st.isDir path then .error ("cannot create " ++ p ++ ": Is a directory")
    else if !st.isDir (parentOf path) then .error ("cannot create " ++ p ++ ": Directory nonexistent")
    else
      match st.ws.read? path with
      | some _ =>
        if append then .ok (st, .file path)
        else .ok ({ st with ws := st.ws.putFile path [] }, .file path)
      | none => .ok ({ st with ws := st.ws.putFile path [] }, .file path)

/-- The names in the working directory, in byte order. -/
def entries (st : ShellState) : List String :=
  let dir := st.resolve "."
  let under (p : String) : Option String :=
    if dir = "." then
      if p.contains '/' || p.startsWith "/" then none else some p
    else if (dir ++ "/").isPrefixOf p then
      let rest := String.ofList (p.toList.drop (dir.length + 1))
      if rest.contains '/' || rest.isEmpty then none else some rest
    else none
  let names := (st.ws.dirs.filterMap under) ++ (st.ws.files.map Prod.fst |>.filterMap under)
  sortTexts names.eraseDups

end ShellState

/-- The words for a signal, as a shell reports a command it killed. -/
def signalText (signal : Nat) : Option String :=
  match signal with
  | 1 => some "Hangup"
  | 3 => some "Quit"
  | 4 => some "Illegal instruction"
  | 5 => some "Trace/breakpoint trap"
  | 6 => some "Aborted"
  | 7 => some "Bus error"
  | 8 => some "Floating point exception"
  | 9 => some "Killed"
  | 10 => some "User defined signal 1"
  | 11 => some "Segmentation fault"
  | 12 => some "User defined signal 2"
  | 14 => some "Alarm clock"
  | 15 => some "Terminated"
  | _ => none

end TestDispatch.Shell
