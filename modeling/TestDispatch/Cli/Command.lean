import TestDispatch.Cli.Flag
/-!
# The commands of the program

The program `testfleet` has one command per task (`coordinate`, `plan`, `worker`, `reporter`,
`lockd`, `stop`, `unlock`), a `help` command and a `completion` command that groups one command
per shell. Four global flags (`--config`, `--debug`, `--log-level`, `--log-format`) are
accepted by every command, and every command has `-h`/`--help`.

A command line is read in two steps. `Command.find` walks down from the program, taking each
word that is not a flag or a flag's value as the name of a command below the one reached, as
long as there is such a command; flags it does not know are taken to have a value after them.
Then `Command.invoke` reads the flags of the command found: `--help`, or a command that does
nothing itself, shows its help (`Command.helpText`); a command that needs arguments checks their
number; any other command is run with the flags and arguments read. A word left over at the
program's level is an unknown command, and the commands whose names are close to it (at most
two edits apart, or starting with it) are suggested.
-/

namespace TestDispatch.Cli

/-- The program's name. -/
def programName : String := "testfleet"

/-- What a command does when it runs. -/
inductive Action where
  | coordinate
  | plan
  | worker
  | reporter
  | lockd
  | stop
  | unlock
  | help
  /-- Writes the completion script for a shell. -/
  | completion (shell : String)
  deriving DecidableEq, Repr, Inhabited

/-- A command of the program. -/
structure Command where
  /-- The names from below the program down to the command; the program itself has none. -/
  path : List String
  /-- The command's name and what may follow it, as its usage line shows them. -/
  use : String
  short : String
  long : String := ""
  /-- The flags of the command itself; the global flags come on top. -/
  flags : List Flag := []
  /-- The least number of arguments it needs. -/
  minArgs : Nat := 0
  /-- What it does; a command that does nothing shows its help. -/
  action : Option Action := none
  /-- Whether it is left out of listings and suggestions. -/
  hidden : Bool := false
  deriving DecidableEq, Repr, Inhabited

namespace Command

/-- The command's name. -/
def name (c : Command) : String := c.path.getLast?.getD programName

/-- The words that call the command: the program's name and the path. -/
def commandPath (c : Command) : String := " ".intercalate (programName :: c.path)

end Command

/-! ## The command table -/

/-- The flags every command accepts. -/
def globalFlags : List Flag :=
  [{ name := "config", usage := "Path to YAML config file" },
   { name := "debug", usage := "Enable debug logging", default := .switch false },
   { name := "log-level", usage := "Log level (debug, info, warn, error)", default := .text "info" },
   { name := "log-format", usage := "Log format (text, json)", default := .text "text" }]

/-- The flags that say what a session plans. -/
def planFlags : List Flag :=
  [{ name := "universe", usage := "Test universe snapshot (YAML or JSON)" },
   { name := "ticket", usage := "Execution ticket to resolve (repeatable)", default := .texts [] },
   { name := "test", usage := "Explicit test id instead of resolving tickets (repeatable)",
     default := .texts [] },
   { name := "target", usage := "Candidate target (repeatable)", default := .texts [] },
   { name := "build", usage := "Build identifier (default 000)" },
   { name := "build-type", usage := "Build type" },
   { name := "test-plan", usage := "Test plan identifier" }]

/-- The flag that picks the output format. -/
def outputFlag : Flag :=
  { name := "output", short := some 'o', usage := "Output format (table, json, csv)",
    default := .text "table" }

/-- A command that writes the completion script for a shell. -/
def completionFor (shell : String) : Command :=
  { path := ["completion", shell], use := shell,
    short := "Generate the autocompletion script for " ++ shell,
    flags := [{ name := "no-descriptions", usage := "disable completion descriptions",
                default := .switch false }],
    action := some (.completion shell) }

/-- The program and its commands, in the order they were made. -/
def commands : List Command :=
  [{ path := [], use := programName, short := "testfleet: distributed test-execution coordinator",
     long := "testfleet classifies a test universe by tag, dispatches work items over Kafka " ++
       "and runs them on workers that lock their test targets." },
   { path := ["coordinate"], use := "coordinate", short := "Run one dispatch session",
     long := "Resolve execution tickets, plan the requested tests, reset the work topic " ++
       "and publish every work item.",
     flags := planFlags ++
       [{ name := "grace", usage := "How long to keep flushing after an interrupt",
          default := .duration ⟨30 * 1000000000⟩ },
        { name := "queue-size", usage := "Work queue capacity (0 = unbounded)", default := .int 0 },
        { name := "metrics-addr", usage := "Serve Prometheus metrics on this address" },
        outputFlag],
     action := some .coordinate },
   { path := ["plan"], use := "plan", short := "Show the work items a session would dispatch",
     long := "Classify the universe and plan the requested tests without touching the broker.",
     flags := planFlags ++ [outputFlag], action := some .plan },
   { path := ["worker"], use := "worker", short := "Consume tickets and run their tests",
     long := "Consume work items until STOP, locking a target for each one. Results are " ++
       "reported through a reporting endpoint that lives as long as the worker.",
     flags :=
       [{ name := "name", usage := "Worker name, recorded as lock holder (default hostname-pid)" },
        { name := "metrics-addr", usage := "Serve Prometheus metrics on this address" }],
     action := some .worker },
   { path := ["reporter"], use := "reporter", short := "Run the asynchronous reporting endpoint",
     long := "Serve the JSON-RPC reporting endpoint. With --parent-pid the endpoint exits " ++
       "as soon as that process is gone.",
     flags :=
       [{ name := "addr", usage := "Listen address (default reporter.addr)" },
        { name := "parent-pid", usage := "Exit when this process is gone", default := .int 0 }],
     action := some .reporter },
   { path := ["lockd"], use := "lockd", short := "Run the target lock store HTTP service",
     flags :=
       [{ name := "addr", usage := "Listen address (default lock_server.addr)" },
        { name := "db", usage := "SQLite database path (default ~/.testfleet/targets.db)" }],
     action := some .lockd },
   { path := ["stop"], use := "stop", short := "Publish STOP tickets so running workers exit",
     long := "Publish --count STOP tickets on the work topic. Each worker exits on the first " ++
       "STOP it consumes.",
     flags := [{ name := "count", usage := "Number of STOP tickets (one per running worker)",
                 default := .int 1 }],
     action := some .stop },
   { path := ["unlock"], use := "unlock TARGET...", short := "Free targets regardless of their holder",
     long := "Administrative override for locks left behind by a crashed worker. With --holder " ++
       "only locks held by that holder are released.",
     flags := [{ name := "holder", usage := "Only release locks held by this holder" }],
     minArgs := 1, action := some .unlock },
   { path := ["help"], use := "help [command]", short := "Help about any command",
     long := "Help provides help for any command in the application.\nSimply type " ++
       programName ++ " help [path to command] for full details.",
     action := some .help },
   { path := ["completion"], use := "completion",
     short := "Generate the autocompletion script for the specified shell",
     long := "Generate the autocompletion script for " ++ programName ++
       " for the specified shell.\nSee each sub-command's help for details on how to use the " ++
       "generated script.\n" },
   completionFor "bash", completionFor "fish", completionFor "powershell", completionFor "zsh"]

/-- The program itself. -/
def root : Command := commands.headD default

namespace Command

/-- The commands right below a command, in the order they were made. -/
def children (c : Command) : List Command :=
  commands.filter fun d => d.path.length = c.path.length + 1 && c.path <+: d.path

/-- The command's help flag. -/
def helpFlag (c : Command) : Flag :=
  { name := "help", short := some 'h', usage := "help for " ++ c.name, default := .switch false }

/-- The flags the command knows before its help flag is added: its own and the global ones. -/
def known (c : Command) : List Flag := c.flags ++ globalFlags

/-- Every flag the command reads. -/
def allFlags (c : Command) : List Flag := c.known ++ [c.helpFlag]

/-- Whether a command shows in listings and suggestions: it is not hidden nor the help
command, and it does something or has such commands below it. -/
def available (c : Command) : Bool :=
  !c.hidden && c.path ≠ ["help"] && (c.action.isSome || (c.children.any fun d => !d.hidden && d.action.isSome))

end Command

/-! ## Finding the command -/

/-- Whether an argument is a flag that takes the next argument as its value: a flag named in
full without `=` that is not a known switch, or a single short name that is not a known
switch. -/
def takesNext (flags : List Flag) (s : String) : Bool :=
  let switchNamed (n : String) := flags.any fun f => f.name = n && f.isSwitch
  match s.toList with
  | '-' :: '-' :: name => !s.contains '=' && !switchNamed (String.ofList name)
  | ['-', c] => c ≠ '=' && c.toNat < 128 && !(flags.any fun f => f.short = some c && f.isSwitch)
  | _ => false

/-- The words of a command line that are neither flags nor flag values, up to `--`. -/
def commandWords (flags : List Flag) : List String → List String
  | [] => []
  | s :: rest =>
    if s = "--" then []
    else if takesNext flags s then
      match rest with
      | _ :: more => if more.isEmpty then [] else commandWords flags more
      | [] => []
    else if s ≠ "" && !s.startsWith "-" then s :: commandWords flags rest
    else commandWords flags rest

/-- The command line without the first word `x` that is neither a flag nor a flag value. -/
def withoutFirst (flags : List Flag) (x : String) : List String → List String
  | [] => []
  | s :: rest =>
    if s = "--" then s :: rest
    else if takesNext flags s then
      match rest with
      | v :: more => s :: v :: withoutFirst flags x more
      | [] => [s]
    else if !s.startsWith "-" && s = x then rest
    else s :: withoutFirst flags x rest

/-- Walks down from a command along the command words of a command line; answers the command
reached and the command line without the names of the commands passed. -/
def findFrom : Nat → Command → List String → Command × List String
  | 0, c, args => (c, args)
  | fuel + 1, c, args =>
    match commandWords c.known args with
    | [] => (c, args)
    | next :: _ =>
      match c.children.find? (·.name = next) with
      | some d => findFrom fuel d (withoutFirst c.known next args)
      | none => (c, args)

/-- The edit distance of two sequences. -/
def editDistance {α : Type} [DecidableEq α] (a b : List α) : Nat :=
  let row0 := List.range (b.length + 1)
  let last := a.foldl (fun (prev : List Nat) (ca : α) =>
    let first := prev.headD 0 + 1
    let cells := (b.zip ((prev.zip prev.tail))).foldl (fun (acc : List Nat) (cb, diag, up) =>
      let left := acc.headD 0
      let cost := if ca = cb then 0 else 1
      min (min (up + 1) (left + 1)) (diag + cost) :: acc) [first]
    cells.reverse) row0
  last.getLast?.getD 0

/-- The commands below the program whose names are close to a word. -/
def suggestions (word : String) : List String :=
  let w := word.toLower
  (root.children.filter fun c =>
    c.available && (editDistance w.toUTF8.toList c.name.toLower.toUTF8.toList ≤ 2 ||
      c.name.toLower.startsWith w)).map
    Command.name

/-- Why a command line names no command to run. -/
inductive CommandError where
  | unknownCommand (word : String)
  | flags (e : FlagError)
  | tooFewArgs (needed given : Nat)
  deriving DecidableEq, Repr, Inhabited

/-- The words of a command error. -/
def CommandError.message : CommandError → String
  | .unknownCommand word =>
    let close := suggestions word
    let hint := if close.isEmpty then ""
      else "\n\nDid you mean this?\n" ++ String.join (close.map fun s => "\t" ++ s ++ "\n")
    "unknown command " ++ Quoted.quote word ++ " for " ++ Quoted.quote programName ++ hint
  | .flags e => e.message
  | .tooFewArgs needed given => s!"requires at least {needed} arg(s), only received {given}"

/-- What a command line asks for. -/
inductive Invocation where
  /-- Show the help of a command. -/
  | help (c : Command)
  /-- Run a command with the flags and arguments read. -/
  | run (c : Command) (a : Action) (p : Parsed)
  deriving Repr

/-- The command a command line names. -/
def Command.find (args : List String) : Command × List String :=
  findFrom 3 root args

/-- What a command line asks for, or why it asks for nothing. -/
def Command.invoke (args : List String) : Except CommandError Invocation :=
  let (c, rest) := Command.find args
  match (if c.path.isEmpty then commandWords c.known rest else []) with
  | word :: _ => .error (.unknownCommand word)
  | [] =>
    match parseFlags c.allFlags rest with
    | .error e => .error (.flags e)
    | .ok p =>
      if p.get? "help" = some (.switch true) then .ok (.help c)
      else match c.action with
        | none => .ok (.help c)
        | some a =>
          if p.args.length < c.minArgs then .error (.tooFewArgs c.minArgs p.args.length)
          else .ok (.run c a p)

/-! ## Help -/

/-- The help lines of some flags, sorted by name, their descriptions aligned. -/
def flagUsages (flags : List Flag) : String :=
  let sorted := flags.mergeSort fun a b => decide (a.name ≤ b.name)
  let lead (f : Flag) : String :=
    (match f.short with
      | some c => "  -" ++ String.singleton c ++ ", --" ++ f.name
      | none => "      --" ++ f.name) ++
    (if f.default.typeName = "" then "" else " " ++ f.default.typeName)
  let width := (sorted.map fun f => (lead f).length + 1).foldl max 0
  String.join <| sorted.map fun f =>
    let l := lead f
    let default := match f.default.defaultText with
      | some d => " (default " ++ d ++ ")"
      | none => ""
    l ++ " " ++ "".pushn ' ' (width - l.length) ++ " " ++ f.usage ++ default ++ "\n"

/-- A text without the white space at its end. -/
def trimEnd (s : String) : String := String.ofList (s.toList.reverse.dropWhile Char.isWhitespace).reverse

namespace Command

/-- The usage line: the command's path and use, and `[flags]`. -/
def useLine (c : Command) : String :=
  let line := if c.path.isEmpty then c.use else " ".intercalate (programName :: c.path.dropLast) ++ " " ++ c.use
  if (line.splitOn "[flags]").length > 1 then line else line ++ " [flags]"

/-- The usage text of a command. -/
def usage (c : Command) : String :=
  let listed := (c.children.filter fun d => d.available || d.name = "help").mergeSort
    fun a b => decide (a.name ≤ b.name)
  let hasSub := c.children.any Command.available
  let padding := max 11 ((c.children.map fun d => d.name.length).foldl max 0)
  let own := if c.path.isEmpty then globalFlags ++ [c.helpFlag] else c.flags ++ [c.helpFlag]
  let inherited := if c.path.isEmpty then [] else globalFlags
  "Usage:" ++ (if c.action.isSome then "\n  " ++ c.useLine else "") ++
    (if hasSub then "\n  " ++ c.commandPath ++ " [command]" else "") ++
    (if hasSub then
      "\n\nAvailable Commands:" ++ String.join (listed.map fun d =>
        "\n  " ++ d.name.pushn ' ' (padding - d.name.length) ++ " " ++ d.short)
    else "") ++
    "\n\nFlags:\n" ++ trimEnd (flagUsages own) ++
    (if inherited.isEmpty then "" else "\n\nGlobal Flags:\n" ++ trimEnd (flagUsages inherited)) ++
    (if hasSub then "\n\nUse \"" ++ c.commandPath ++ " [command] --help\" for more information about a command."
     else "") ++ "\n"

/-- The help text of a command: what it does, then its usage. -/
def helpText (c : Command) : String :=
  let about := trimEnd (if c.long = "" then c.short else c.long)
  (if about = "" then "" else about ++ "\n\n") ++
    (if c.action.isSome || !c.children.isEmpty then c.usage else "")

end Command

end TestDispatch.Cli
