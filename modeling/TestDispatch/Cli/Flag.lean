import TestDispatch.Text.Csv
import TestDispatch.Text.Duration
import TestDispatch.Text.Integer
/-!
# Command-line flags

A flag is named on the command line as `--name value`, `--name=value`, or by its one-letter
short name as `-n value`, `-nvalue` or `-n=value`; several switches may share one dash (`-ab`).
A switch (a flag whose value is a truth value) needs no value: naming it sets it, and
`--name=false` clears it. Arguments that are not flags are kept in order, wherever they stand,
and `--` ends the flags.

Each kind of flag reads its value its own way:

* a text is taken as it is;
* a switch reads `1`, `t`, `T`, `TRUE`, `true`, `True` and their opposites with `0` and `f`;
* a list reads one record of comma-separated values (`Csv.items`); the first time it is named
  it replaces the default, then it appends;
* an integer is read in the base its prefix names;
* a duration is read as `Duration.parse` reads it.

`parseFlags` reads the arguments against a list of flags and answers the values set and the
other arguments, or the first error: an unknown flag, a flag without its value, or a value its
flag cannot read (`invalid argument "x" for "--count" flag: ...`).
-/

namespace TestDispatch.Cli

open TestDispatch.Text

/-- A value of a flag. -/
inductive FlagValue where
  | text (s : String)
  | switch (on : Bool)
  | texts (items : List String)
  | int (n : Int)
  | duration (d : Duration)
  deriving DecidableEq, Repr, Inhabited

/-- A flag a command accepts: its name, its short name, what it is for and its default, which
also fixes its kind. -/
structure Flag where
  name : String
  short : Option Char := none
  usage : String
  default : FlagValue := .text ""
  deriving DecidableEq, Repr, Inhabited

namespace FlagValue

/-- The name of the kind of value, as help shows it after the flag; a switch shows none. -/
def typeName : FlagValue → String
  | .text _ => "string"
  | .switch _ => ""
  | .texts _ => "strings"
  | .int _ => "int"
  | .duration _ => "duration"

/-- How help shows a default value; nothing for the zero value of its kind. -/
def defaultText : FlagValue → Option String
  | .text s => if s = "" then none else some (Quoted.quote s)
  | .switch b => if b then some "true" else none
  | .texts xs => if xs.isEmpty then none else some ("[" ++ ",".intercalate xs ++ "]")
  | .int n => if n = 0 then none else some (toString n)
  | .duration d => if d.nanos = 0 then none else some d.format

end FlagValue

/-- Reads a truth value. -/
def parseBool (s : String) : Except String Bool :=
  if ["1", "t", "T", "TRUE", "true", "True"].contains s then .ok true
  else if ["0", "f", "F", "FALSE", "false", "False"].contains s then .ok false
  else .error s!"strconv.ParseBool: parsing {Quoted.quote s}: invalid syntax"

namespace Flag

/-- Whether the flag is a switch. -/
def isSwitch (f : Flag) : Bool :=
  match f.default with
  | .switch _ => true
  | _ => false

/-- How errors name the flag: `-o, --output` or `--name`. -/
def shown (f : Flag) : String :=
  match f.short with
  | some c => "-" ++ String.singleton c ++ ", --" ++ f.name
  | none => "--" ++ f.name

/-- The value of the flag after reading `value`, given its value so far if it was set. -/
def read (f : Flag) (before : Option FlagValue) (value : String) : Except String FlagValue :=
  let fail (why : String) : Except String FlagValue :=
    .error s!"invalid argument {Quoted.quote value} for {Quoted.quote f.shown} flag: {why}"
  match f.default with
  | .text _ => .ok (.text value)
  | .switch _ =>
    match parseBool value with
    | .ok b => .ok (.switch b)
    | .error e => fail e
  | .texts _ =>
    match Csv.items value with
    | .error e => fail e.message
    | .ok xs =>
      match before with
      | some (.texts old) => .ok (.texts (old ++ xs))
      | _ => .ok (.texts xs)
  | .int _ =>
    match parseInt value 0 64 with
    | .ok n => .ok (.int n)
    | .error e => fail e.message
  | .duration _ =>
    match Duration.parse value with
    | .ok d => .ok (.duration d)
    | .error e => fail e

end Flag

/-- The flags set on a command line and the arguments that are not flags. -/
structure Parsed where
  /-- Each flag set, with its last value. -/
  values : List (String × FlagValue) := []
  args : List String := []
  deriving DecidableEq, Repr, Inhabited

namespace Parsed

/-- The value of a flag, if it was set. -/
def get? (p : Parsed) (name : String) : Option FlagValue := (p.values.find? (·.1 = name)).map (·.2)

/-- Whether a flag was set. -/
def changed (p : Parsed) (name : String) : Bool := (p.get? name).isSome

/-- Records a value of a flag. -/
def set (p : Parsed) (name : String) (v : FlagValue) : Parsed :=
  { p with values := (name, v) :: p.values.filter (·.1 ≠ name) }

end Parsed

/-- Why the flags of a command line could not be read. -/
inductive FlagError where
  /-- An argument that starts with `---` or `--=`. -/
  | badSyntax (arg : String)
  | unknown (name : String)
  /-- An unknown short name, and the group of short names it stands at the front of. -/
  | unknownShort (c : Char) (group : String)
  | needsValue (arg : String)
  | needsShortValue (c : Char) (group : String)
  /-- A value its flag cannot read, in the flag's words. -/
  | invalid (message : String)
  deriving DecidableEq, Repr, Inhabited

/-- A short name as errors show it: between single quotes, by its first octet. -/
def shortShown (c : Char) : String :=
  match c.toString.toUTF8.toList with
  | b :: _ => Quoted.quoteChar (Char.ofNat b.toNat)
  | [] => Quoted.quoteChar c

/-- The words of a flag error. -/
def FlagError.message : FlagError → String
  | .badSyntax arg => "bad flag syntax: " ++ arg
  | .unknown name => "unknown flag: --" ++ name
  | .unknownShort c group => "unknown shorthand flag: " ++ shortShown c ++ " in -" ++ group
  | .needsValue arg => "flag needs an argument: " ++ arg
  | .needsShortValue c group => "flag needs an argument: " ++ shortShown c ++ " in -" ++ group
  | .invalid message => message

/-- Sets a flag from a text. -/
def setFlag (f : Flag) (value : String) (p : Parsed) : Except FlagError Parsed :=
  match f.read (p.get? f.name) value with
  | .ok v => .ok (p.set f.name v)
  | .error e => .error (.invalid e)

/-- Reads a group of short names (the text after a single dash); answers the arguments left
and the flags read. -/
def shortGroup (flags : List Flag) : List Char → List String → Parsed →
    Except FlagError (List String × Parsed)
  | [], args, p => .ok (args, p)
  | c :: more, args, p =>
    let group := String.ofList (c :: more)
    match flags.find? (·.short = some c) with
    | none => .error (.unknownShort c group)
    | some f =>
      match more with
      | '=' :: value@(_ :: _) => (setFlag f (String.ofList value) p).map fun p => (args, p)
      | _ =>
        if f.isSwitch then
          match setFlag f "true" p with
          | .ok p => shortGroup flags more args p
          | .error e => .error e
        else if !more.isEmpty then (setFlag f (String.ofList more) p).map fun p => (args, p)
        else match args with
          | value :: rest => (setFlag f value p).map fun p => (rest, p)
          | [] => .error (.needsShortValue c group)

/-- Reads a flag named in full, `--name` or `--name=value`; answers the arguments left and the
flags read. -/
def longFlag (flags : List Flag) (arg : String) (args : List String) (p : Parsed) :
    Except FlagError (List String × Parsed) :=
  let body := (arg.drop 2).toString
  match body.toList with
  | [] | '-' :: _ | '=' :: _ => .error (.badSyntax arg)
  | cs =>
    let name := String.ofList (cs.takeWhile (· ≠ '='))
    let value := match cs.dropWhile (· ≠ '=') with
      | _ :: v => some (String.ofList v)
      | [] => none
    match flags.find? (·.name = name) with
    | none => .error (.unknown name)
    | some f =>
      match value with
      | some v => (setFlag f v p).map fun p => (args, p)
      | none =>
        if f.isSwitch then (setFlag f "true" p).map fun p => (args, p)
        else match args with
          | v :: rest => (setFlag f v p).map fun p => (rest, p)
          | [] => .error (.needsValue arg)

/-- Reads a command line against the flags, with fuel for the arguments left. -/
def parseFrom (flags : List Flag) : Nat → List String → Parsed → Except FlagError Parsed
  | 0, rest, p => .ok { p with args := p.args ++ rest }
  | _ + 1, [], p => .ok p
  | fuel + 1, arg :: rest, p =>
    match arg.toList with
    | '-' :: '-' :: [] => .ok { p with args := p.args ++ rest }
    | '-' :: '-' :: _ =>
      match longFlag flags arg rest p with
      | .ok (rest, p) => parseFrom flags fuel rest p
      | .error e => .error e
    | '-' :: c :: more =>
      match shortGroup flags (c :: more) rest p with
      | .ok (rest, p) => parseFrom flags fuel rest p
      | .error e => .error e
    | _ => parseFrom flags fuel rest { p with args := p.args ++ [arg] }

/-- Reads a command line against the flags. -/
def parseFlags (flags : List Flag) (args : List String) : Except FlagError Parsed :=
  parseFrom flags (args.length + 1) args {}

end TestDispatch.Cli
