/-!
# Shell scripts

The scripts a test command hands to `sh -c`, as the shell's grammar builds them: simple
commands with their assignments, words and redirections, joined into pipelines, `&&` and `||`
lists and sequences, and the compound commands `{ ...; }`, `( ... )`, `if`, `while`, `until`,
`for`, `case` and function definitions.

A word is made of parts: literal text, quoted or not, parameter expansions (`$1`, `$name`,
`${name}`, `${#name}` and `${name op word}`), command substitutions (`$(...)` and
`` `...` ``) and arithmetic expansions (`$((...))`), each quoted (inside double quotes) or not.
Quoting matters when a word becomes fields: the value of an unquoted expansion is split at
blanks, a quoted one is kept whole, and a word with a quoted part is a field even when it comes
out empty. The text of a substitution, of an arithmetic expansion and of the word after an
expansion operator is kept as written, and read again when it is expanded.
-/

namespace TestDispatch.Shell

/-- The operator of a parameter expansion `${name op word}`. -/
inductive ParamOp where
  /-- `-`, or `:-` when `colon`: the word when the parameter is unset (or empty). -/
  | useDefault (colon : Bool)
  /-- `=`, or `:=`: as `-`, and the parameter is set to the word. -/
  | assignDefault (colon : Bool)
  /-- `?`, or `:?`: a failure with the word as its message. -/
  | errorIfUnset (colon : Bool)
  /-- `+`, or `:+`: the word when the parameter is set (and not empty). -/
  | useAlternative (colon : Bool)
  /-- `%`, or `%%` when `longest`: the value without its shortest (longest) suffix matching
  the word. -/
  | removeSuffix (longest : Bool)
  /-- `#`, or `##`: the value without a prefix matching the word. -/
  | removePrefix (longest : Bool)
  deriving DecidableEq, Repr, Inhabited

/-- A part of a word. -/
inductive Part where
  /-- Literal text; `quoted` when it was written in quotes or escaped. -/
  | text (s : String) (quoted : Bool)
  /-- A parameter expansion. -/
  | param (name : String) (quoted : Bool)
  /-- The length of a parameter's value, `${#name}`. -/
  | length (name : String) (quoted : Bool)
  /-- A parameter expansion with an operator and the text of its word. -/
  | modified (name : String) (op : ParamOp) (arg : String) (quoted : Bool)
  /-- A command substitution: the text of the script and the line it starts on. -/
  | command (source : String) (line : Nat) (quoted : Bool)
  /-- An arithmetic expansion: the text of the expression and its line. -/
  | arith (source : String) (line : Nat) (quoted : Bool)
  deriving DecidableEq, Repr, Inhabited

/-- A word. -/
abbrev Word := List Part

/-- A redirection. -/
inductive Redirect where
  /-- `fd>path`, or `fd>>path` when `append`. -/
  | toFile (fd : Nat) (path : Word) (append : Bool)
  /-- `fd<path`. -/
  | fromFile (fd : Nat) (path : Word)
  /-- `fd<>path`. -/
  | readWrite (fd : Nat) (path : Word)
  /-- `fd>&target` (when `output`) or `fd<&target`: the descriptor becomes a copy of another,
  or is closed by `-`. -/
  | dup (fd : Nat) (target : Word) (output : Bool)
  /-- `fd<<word`: the descriptor reads a here-document. -/
  | heredoc (fd : Nat) (body : Word)
  deriving DecidableEq, Repr, Inhabited

/-- A command. -/
inductive Command where
  /-- A simple command: assignments, words and redirections, and the line it starts on. -/
  | simple (assigns : List (String × Word)) (words : List Word) (redirects : List Redirect)
      (line : Nat)
  /-- A compound command with redirections. -/
  | redirected (body : Command) (redirects : List Redirect)
  /-- Commands joined by pipes, the status negated when written after `!`. -/
  | pipeline (negated : Bool) (stages : List Command)
  /-- `first && second`. -/
  | andThen (first second : Command)
  /-- `first || second`. -/
  | orElse (first second : Command)
  /-- Commands run one after the other. -/
  | sequence (items : List Command)
  /-- `body &`. -/
  | background (body : Command)
  /-- `{ body; }`. -/
  | group (body : Command)
  /-- `( body )`, run in a subshell. -/
  | subshell (body : Command)
  /-- `if cond; then thenPart; else elsePart; fi`; an `elif` is an `if` in the else part. -/
  | ifThen (cond thenPart : Command) (elsePart : Option Command)
  /-- `for name in items; do body; done`; without `in`, over the positional parameters. -/
  | forIn (name : String) (items : Option (List Word)) (body : Command) (line : Nat)
  /-- `while cond; do body; done`, or `until` when `isUntil`. -/
  | loop (isUntil : Bool) (cond body : Command)
  /-- `case subject in patterns) body;; ... esac`. -/
  | caseOf (subject : Word) (arms : List (List Word × Command)) (line : Nat)
  /-- `name() body`. -/
  | function (name : String) (body : Command) (line : Nat)
  deriving Inhabited

/-- The command that does nothing: an empty list. -/
def Command.nothing : Command := .sequence []

end TestDispatch.Shell
