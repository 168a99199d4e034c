import TestDispatch.Shell.Lexer
/-!
# Parsing a script

The grammar, over the tokens of `Shell.Lexer`:

```
list     := and_or ((";" | "&" | newline) and_or)*
and_or   := pipeline (("&&" | "||") newline* pipeline)*
pipeline := "!"? command ("|" newline* command)*
command  := simple | compound redirection* | name "(" ")" newline* command
compound := "{" list "}" | "(" list ")" | if | while | until | for | case
```

Reserved words (`if`, `then`, `elif`, `else`, `fi`, `while`, `until`, `do`, `done`, `for`, `in`,
`case`, `esac`, `{`, `}`, `!`) are words written without quotes, and are reserved only where a
command may start (and `in`, `do` and `esac` where the grammar expects them). A script runs a
line at a time: a list at the top ends at a line end, and the next one is parsed only after it
ran. Inside a compound command line ends separate commands like `;`.

A token where the grammar has no place for it is a syntax error, named as the shell names it:
`"fi" unexpected`, `word unexpected (expecting "do")`, or `end of file unexpected` when the
script stops where more is needed. The words of a command substitution are parsed with the
command they stand in, so a syntax error inside one stops the line before it runs.

Every step of the parser is bounded by a fuel computed from the number of tokens.
-/

namespace TestDispatch.Shell

/-- A syntax error: the line and the shell's words. -/
structure SyntaxError where
  line : Nat
  message : String
  deriving DecidableEq, Repr, Inhabited

/-- Tokens with their lines. -/
abbrev Tokens := List (Token × Nat)

/-- The reserved words. -/
def reservedWords : List String :=
  ["!", "case", "do", "done", "elif", "else", "esac", "fi", "for", "if", "in", "then", "until",
   "while", "\x7b", "\x7d"]

/-- The reserved word a token is, where reserved words are recognized. -/
def Token.reserved? : Token → Option String
  | .word [.text s false] => if reservedWords.contains s then some s else none
  | _ => none

/-- Whether a token is the reserved word `k`. -/
def Token.isReserved (t : Token) (k : String) : Bool := t.reserved? = some k

/-- How a token is named in a syntax error; `kw` when reserved words are recognized there. -/
def Token.shown (kw : Bool) : Token → String
  | .word w =>
    match kw, Token.reserved? (.word w) with
    | true, some k => "\"" ++ k ++ "\""
    | _, _ => "word"
  | .redirect _ _ | .heredoc _ _ => "redirection"
  | .semi => "\";\""
  | .dsemi => "\";;\""
  | .amp => "\"&\""
  | .andIf => "\"&&\""
  | .orIf => "\"||\""
  | .pipe => "\"|\""
  | .lparen => "\"(\""
  | .rparen => "\")\""
  | .newline => "newline"
  | .bad m => m

/-- The error for the token at the front, or for the end of the script, with what was
expected there, if anything. -/
def unexpected (ts : Tokens) (kw : Bool) (expecting : Option String) (lastLine : Nat) : SyntaxError :=
  let tail := match expecting with
    | some e => " (expecting " ++ e ++ ")"
    | none => ""
  match ts with
  | (.bad m, line) :: _ => { line, message := m }
  | (t, line) :: _ => { line, message := t.shown kw ++ " unexpected" ++ tail }
  | [] => { line := lastLine, message := "end of file unexpected" ++ tail }

/-- Skips line ends. -/
def skipNewlines : Tokens → Tokens
  | (.newline, _) :: rest => skipNewlines rest
  | ts => ts

/-- Whether a token ends a list: a closing reserved word or operator. -/
def Token.endsList (t : Token) : Bool :=
  match t with
  | .rparen | .dsemi => true
  | t => match t.reserved? with
    | some k => ["do", "done", "elif", "else", "esac", "fi", "then", "\x7d"].contains k
    | none => false

/-- The assignment a word makes when it is `name=value` with the name written plainly. -/
def assignment? (w : Word) : Option (String × Word) :=
  match w with
  | .text s false :: rest =>
    let cs := s.toList
    let name := cs.takeWhile (· ≠ '=')
    match cs.drop name.length with
    | '=' :: value =>
      if isName (String.ofList name) then
        some (String.ofList name, (if value.isEmpty then [] else [.text (String.ofList value) false]) ++ rest)
      else none
    | _ => none
  | _ => none

/-- The special built-in commands, which a function may not be named for. -/
def specialBuiltins : List String :=
  [":", ".", "break", "continue", "eval", "exec", "exit", "export", "readonly", "return", "set",
   "shift", "times", "trap", "unset"]

/-- A redirection from its operator and target word. -/
def Redirect.ofOp (fd : Option Nat) (op : RedirectOp) (w : Word) : Redirect :=
  match op with
  | .write => .toFile (fd.getD 1) w false
  | .append => .toFile (fd.getD 1) w true
  | .read => .fromFile (fd.getD 0) w
  | .readWrite => .readWrite (fd.getD 0) w
  | .dupOut => .dup (fd.getD 1) w true
  | .dupIn => .dup (fd.getD 0) w false

/-- Where a list stands, which decides where it ends. -/
inductive ListPlace where
  /-- At the top of a script: the list ends at a line end. -/
  | top
  /-- Inside a compound command: line ends separate commands. -/
  | inner
  /-- The body of a case arm, which may be empty. -/
  | arm
  deriving DecidableEq, Repr, Inhabited

/-- Expects the reserved word `k` at the front; answers the tokens after it. -/
def expectReserved (k : String) (ts : Tokens) (lastLine : Nat) : Except SyntaxError Tokens :=
  match ts with
  | (t, _) :: rest => if t.isReserved k then .ok rest else .error (unexpected ts true (some ("\"" ++ k ++ "\"")) lastLine)
  | [] => .error (unexpected [] true (some ("\"" ++ k ++ "\"")) lastLine)

mutual

/-- Parses a list; answers it and the tokens after it. -/
def parseList (fuel : Nat) (place : ListPlace) (ts : Tokens) (lastLine : Nat) :
    Except SyntaxError (Command × Tokens) :=
  match fuel with
  | 0 => .error { line := lastLine, message := "script too long" }
  | fuel + 1 => listItems fuel place true ts [] lastLine

/-- The items of a list from a place where an item may start. -/
def listItems (fuel : Nat) (place : ListPlace) (first : Bool) (ts : Tokens) (acc : List Command)
    (lastLine : Nat) : Except SyntaxError (Command × Tokens) :=
  match fuel with
  | 0 => .error { line := lastLine, message := "script too long" }
  | fuel + 1 =>
    let ts := if place = .top then ts else skipNewlines ts
    match ts with
    | [] => .ok (.sequence acc.reverse, [])
    | (.newline, _) :: rest => .ok (.sequence acc.reverse, rest)
    | (t, _) :: _ =>
      if (place = .arm || (place = .inner && !first)) && t.endsList then .ok (.sequence acc.reverse, ts)
      else
        match parseAndOr fuel ts lastLine with
        | .error e => .error e
        | .ok (item, rest) =>
          match rest with
          | (.amp, _) :: more => listItems fuel place false more (.background item :: acc) lastLine
          | (.semi, _) :: more => listItems fuel place false more (item :: acc) lastLine
          | (.newline, _) :: _ => listItems fuel place false rest (item :: acc) lastLine
          | [] => .ok (.sequence (item :: acc).reverse, [])
          | _ =>
            if place = .top then .error (unexpected rest true none lastLine)
            else .ok (.sequence (item :: acc).reverse, rest)

/-- Parses pipelines joined by `&&` and `||`. -/
def parseAndOr (fuel : Nat) (ts : Tokens) (lastLine : Nat) : Except SyntaxError (Command × Tokens) :=
  match fuel with
  | 0 => .error { line := lastLine, message := "script too long" }
  | fuel + 1 =>
    match parsePipeline fuel ts lastLine with
    | .error e => .error e
    | .ok (p, rest) => andOrRest fuel p rest lastLine

/-- The pipelines after the first of an and-or list. -/
def andOrRest (fuel : Nat) (acc : Command) (ts : Tokens) (lastLine : Nat) :
    Except SyntaxError (Command × Tokens) :=
  match fuel with
  | 0 => .error { line := lastLine, message := "script too long" }
  | fuel + 1 =>
    match ts with
    | (.andIf, _) :: rest =>
      match parsePipeline fuel (skipNewlines rest) lastLine with
      | .error e => .error e
      | .ok (p, more) => andOrRest fuel (.andThen acc p) more lastLine
    | (.orIf, _) :: rest =>
      match parsePipeline fuel (skipNewlines rest) lastLine with
      | .error e => .error e
      | .ok (p, more) => andOrRest fuel (.orElse acc p) more lastLine
    | _ => .ok (acc, ts)

/-- Parses a pipeline. -/
def parsePipeline (fuel : Nat) (ts : Tokens) (lastLine : Nat) : Except SyntaxError (Command × Tokens) :=
  match fuel with
  | 0 => .error { line := lastLine, message := "script too long" }
  | fuel + 1 =>
    let (negated, ts) := match ts with
      | (t, _) :: rest => if t.isReserved "!" then (true, rest) else (false, ts)
      | [] => (false, ts)
    match parseCommand fuel ts lastLine with
    | .error e => .error e
    | .ok (c, rest) =>
      match pipeStages fuel rest [c] lastLine with
      | .error e => .error e
      | .ok (stages, more) =>
        match stages, negated with
        | [c], false => .ok (c, more)
        | stages, negated => .ok (.pipeline negated stages, more)

/-- The commands of a pipeline after its first, each after a `|`. -/
def pipeStages (fuel : Nat) (ts : Tokens) (acc : List Command) (lastLine : Nat) :
    Except SyntaxError (List Command × Tokens) :=
  match fuel with
  | 0 => .error { line := lastLine, message := "script too long" }
  | fuel + 1 =>
    match ts with
    | (.pipe, _) :: rest =>
      match parseCommand fuel (skipNewlines rest) lastLine with
      | .error e => .error e
      | .ok (c, more) => pipeStages fuel more (acc ++ [c]) lastLine
    | _ => .ok (acc, ts)

/-- Parses a command where reserved words are recognized. -/
def parseCommand (fuel : Nat) (ts : Tokens) (lastLine : Nat) : Except SyntaxError (Command × Tokens) :=
  match fuel with
  | 0 => .error { line := lastLine, message := "script too long" }
  | fuel + 1 =>
    match ts with
    | (t, line) :: rest =>
      match t.reserved? with
      | some "if" =>
        match parseIf fuel rest lastLine with
        | .error e => .error e
        | .ok (c, more) => trailingRedirects fuel c more lastLine
      | some "while" | some "until" =>
        match parseList fuel .inner rest lastLine with
        | .error e => .error e
        | .ok (cond, more) =>
          match expectReserved "do" more lastLine with
          | .error e => .error e
          | .ok more =>
            match parseList fuel .inner more lastLine with
            | .error e => .error e
            | .ok (body, more) =>
              match expectReserved "done" more lastLine with
              | .error e => .error e
              | .ok more => trailingRedirects fuel (.loop (t.isReserved "until") cond body) more lastLine
      | some "for" => parseFor fuel rest line lastLine
      | some "case" => parseCase fuel rest line lastLine
      | some "\x7b" =>
        match parseList fuel .inner rest lastLine with
        | .error e => .error e
        | .ok (body, more) =>
          match expectReserved "\x7d" more lastLine with
          | .error e => .error e
          | .ok more => trailingRedirects fuel (.group body) more lastLine
      | some _ => .error (unexpected ts true none lastLine)
      | none =>
        match t with
        | .lparen =>
          match parseList fuel .inner rest lastLine with
          | .error e => .error e
          | .ok (body, more) =>
            match more with
            | (.rparen, _) :: after => trailingRedirects fuel (.subshell body) after lastLine
            | _ => .error (unexpected more true (some "\")\"") lastLine)
        | .word _ | .redirect _ _ | .heredoc _ _ => parseSimple fuel ts line [] [] [] true lastLine
        | _ => .error (unexpected ts true none lastLine)
    | [] => .error (unexpected [] true none lastLine)

/-- Parses an `if` after its `if`: conditions, branches, and the closing `fi`. -/
def parseIf (fuel : Nat) (ts : Tokens) (lastLine : Nat) : Except SyntaxError (Command × Tokens) :=
  match fuel with
  | 0 => .error { line := lastLine, message := "script too long" }
  | fuel + 1 =>
    match parseList fuel .inner ts lastLine with
    | .error e => .error e
    | .ok (cond, more) =>
      match expectReserved "then" more lastLine with
      | .error e => .error e
      | .ok more =>
        match parseList fuel .inner more lastLine with
        | .error e => .error e
        | .ok (thenPart, more) =>
          match more with
          | (t, _) :: after =>
            if t.isReserved "elif" then
              match parseIf fuel after lastLine with
              | .error e => .error e
              | .ok (elsePart, rest) => .ok (.ifThen cond thenPart (some elsePart), rest)
            else if t.isReserved "else" then
              match parseList fuel .inner after lastLine with
              | .error e => .error e
              | .ok (elsePart, rest) =>
                match expectReserved "fi" rest lastLine with
                | .error e => .error e
                | .ok rest => .ok (.ifThen cond thenPart (some elsePart), rest)
            else
              match expectReserved "fi" more lastLine with
              | .error e => .error e
              | .ok rest => .ok (.ifThen cond thenPart none, rest)
          | [] => .error (unexpected [] true (some "\"fi\"") lastLine)

/-- Parses a `for` after its `for`. -/
def parseFor (fuel : Nat) (ts : Tokens) (line lastLine : Nat) : Except SyntaxError (Command × Tokens) :=
  match fuel with
  | 0 => .error { line := lastLine, message := "script too long" }
  | fuel + 1 =>
    match ts with
    | (.word [.text name false], _) :: rest =>
      if !isName name then .error { line, message := "Bad for loop variable" }
      else
        let rest := skipNewlines rest
        let header : Except SyntaxError (Option (List Word) × Tokens) :=
          match rest with
          | (t, _) :: after =>
            if t.isReserved "in" then
              let items := after.takeWhile fun (t, _) => match t with | .word _ => true | _ => false
              let words := items.filterMap fun (t, _) => match t with | .word w => some w | _ => none
              match after.drop items.length with
              | (.newline, _) :: more | (.semi, _) :: more => .ok (some words, more)
              | more => .error (unexpected more false none lastLine)
            else
              match rest with
              | (.semi, _) :: more => .ok (none, more)
              | _ => .ok (none, rest)
          | [] => .ok (none, [])
        match header with
        | .error e => .error e
        | .ok (items, more) =>
          match expectReserved "do" (skipNewlines more) lastLine with
          | .error e => .error e
          | .ok more =>
            match parseList fuel .inner more lastLine with
            | .error e => .error e
            | .ok (body, more) =>
              match expectReserved "done" more lastLine with
              | .error e => .error e
              | .ok more => trailingRedirects fuel (.forIn name items body line) more lastLine
    | _ => .error { line := (ts.head?.map Prod.snd).getD lastLine, message := "Bad for loop variable" }

/-- Parses a `case` after its `case`. -/
def parseCase (fuel : Nat) (ts : Tokens) (line lastLine : Nat) : Except SyntaxError (Command × Tokens) :=
  match fuel with
  | 0 => .error { line := lastLine, message := "script too long" }
  | fuel + 1 =>
    match ts with
    | (.word subject, _) :: rest =>
      match expectReserved "in" (skipNewlines rest) lastLine with
      | .error e => .error e
      | .ok more =>
        match caseArms fuel more [] lastLine with
        | .error e => .error e
        | .ok (arms, after) => trailingRedirects fuel (.caseOf subject arms line) after lastLine
    | _ => .error (unexpected ts false (some "word") lastLine)

/-- The arms of a `case` up to its `esac`. -/
def caseArms (fuel : Nat) (ts : Tokens) (acc : List (List Word × Command)) (lastLine : Nat) :
    Except SyntaxError (List (List Word × Command) × Tokens) :=
  match fuel with
  | 0 => .error { line := lastLine, message := "script too long" }
  | fuel + 1 =>
    match skipNewlines ts with
    | (t, l) :: rest =>
      if t.isReserved "esac" then .ok (acc.reverse, rest)
      else
        let afterParen := match t with
          | .lparen => rest
          | _ => (t, l) :: rest
        match casePatterns fuel afterParen [] lastLine with
        | .error e => .error e
        | .ok (patterns, more) =>
          match parseList fuel .arm more lastLine with
          | .error e => .error e
          | .ok (body, more) =>
            match skipNewlines more with
            | (t', _) :: after =>
              if t'.isReserved "esac" then .ok (((patterns, body) :: acc).reverse, after)
              else if t' = .dsemi then caseArms fuel after ((patterns, body) :: acc) lastLine
              else .error (unexpected (skipNewlines more) true (some "\";;\"") lastLine)
            | [] => .error (unexpected [] true (some "\";;\"") lastLine)
    | [] => .error (unexpected [] true none lastLine)

/-- The patterns of a case arm, up to its `)`. -/
def casePatterns (fuel : Nat) (ts : Tokens) (acc : List Word) (lastLine : Nat) :
    Except SyntaxError (List Word × Tokens) :=
  match fuel with
  | 0 => .error { line := lastLine, message := "script too long" }
  | fuel + 1 =>
    match ts with
    | (.word w, _) :: rest =>
      match rest with
      | (.pipe, _) :: more => casePatterns fuel more (acc ++ [w]) lastLine
      | (.rparen, _) :: more => .ok (acc ++ [w], more)
      | _ => .error (unexpected rest false (some "\")\"") lastLine)
    | _ => .error (unexpected ts false none lastLine)

/-- The words, assignments and redirections of a simple command, or a function definition
when its only word is followed by `()`. -/
def parseSimple (fuel : Nat) (ts : Tokens) (line : Nat) (assigns : List (String × Word))
    (words : List Word) (redirects : List Redirect) (assigning : Bool) (lastLine : Nat) :
    Except SyntaxError (Command × Tokens) :=
  match fuel with
  | 0 => .error { line := lastLine, message := "script too long" }
  | fuel + 1 =>
    let done := Command.simple assigns words redirects line
    match ts with
    | (.word w, _) :: rest =>
      match checkWord fuel w with
      | some e => .error e
      | none =>
        match assigning, assignment? w with
        | true, some a => parseSimple fuel rest line (assigns ++ [a]) words redirects true lastLine
        | _, _ => parseSimple fuel rest line assigns (words ++ [w]) redirects false lastLine
    | (.redirect fd op, _) :: rest =>
      match rest with
      | (.word w, _) :: more =>
        match checkWord fuel w with
        | some e => .error e
        | none => parseSimple fuel more line assigns words (redirects ++ [Redirect.ofOp fd op w]) assigning lastLine
      | more => .error (unexpected more false none lastLine)
    | (.heredoc fd body, _) :: rest =>
      parseSimple fuel rest line assigns words (redirects ++ [.heredoc (fd.getD 0) body]) assigning lastLine
    | (.lparen, _) :: rest =>
      match words, assigns, redirects with
      | [[.text name false]], [], [] =>
        match rest with
        | (.rparen, _) :: more =>
          if !isName name || specialBuiltins.contains name then .error { line, message := "Bad function name" }
          else
            match parseCommand fuel (skipNewlines more) lastLine with
            | .error e => .error e
            | .ok (body, after) => .ok (.function name body line, after)
        | _ => .error (unexpected rest false (some "\")\"") lastLine)
      | [_], [], [] =>
        match rest with
        | (.rparen, _) :: _ => .error { line, message := "Bad function name" }
        | _ => .error (unexpected rest false (some "\")\"") lastLine)
      | _, _, _ => .ok (done, ts)
    | _ => .ok (done, ts)

/-- The redirections after a compound command. -/
def trailingRedirects (fuel : Nat) (c : Command) (ts : Tokens) (lastLine : Nat) :
    Except SyntaxError (Command × Tokens) :=
  match fuel with
  | 0 => .error { line := lastLine, message := "script too long" }
  | fuel + 1 =>
    match redirectsFrom fuel ts [] lastLine with
    | .error e => .error e
    | .ok ([], more) => .ok (c, more)
    | .ok (rs, more) => .ok (.redirected c rs, more)

/-- Redirections at the front of the tokens. -/
def redirectsFrom (fuel : Nat) (ts : Tokens) (acc : List Redirect) (lastLine : Nat) :
    Except SyntaxError (List Redirect × Tokens) :=
  match fuel with
  | 0 => .error { line := lastLine, message := "script too long" }
  | fuel + 1 =>
    match ts with
    | (.redirect fd op, _) :: rest =>
      match rest with
      | (.word w, _) :: more => redirectsFrom fuel more (acc ++ [Redirect.ofOp fd op w]) lastLine
      | more => .error (unexpected more false none lastLine)
    | (.heredoc fd body, _) :: rest => redirectsFrom fuel rest (acc ++ [.heredoc (fd.getD 0) body]) lastLine
    | _ => .ok (acc, ts)

/-- The first syntax error in the command substitutions of a word, if any. -/
def checkWord (fuel : Nat) (w : Word) : Option SyntaxError :=
  match fuel with
  | 0 => none
  | fuel + 1 =>
    w.findSome? fun p => match p with
      | .command src line _ =>
        let ts := lex src line
        match parseAll fuel ts (line + src.toList.count '\n') with
        | .error e => some e
        | .ok _ => none
      | _ => none

/-- Parses every list of a token stream, up to its end. -/
def parseAll (fuel : Nat) (ts : Tokens) (lastLine : Nat) : Except SyntaxError (List Command) :=
  match fuel with
  | 0 => .ok []
  | fuel + 1 =>
    match ts with
    | [] => .ok []
    | ts =>
      match parseList fuel .top ts lastLine with
      | .error e => .error e
      | .ok (c, rest) =>
        match parseAll fuel rest lastLine with
        | .error e => .error e
        | .ok cs => .ok (c :: cs)

end

/-- The fuel that bounds parsing a token stream. -/
def parseFuel (ts : Tokens) : Nat := 16 * (ts.length + 4)

/-- Parses the next list at the top of a token stream: the list (none at the end) and the
tokens after it. -/
def parseNext (ts : Tokens) (lastLine : Nat) : Except SyntaxError (Option Command × Tokens) :=
  match ts with
  | [] => .ok (none, [])
  | ts => (parseList (parseFuel ts) .top ts lastLine).map fun (c, rest) => (some c, rest)

/-- Parses a whole script. -/
def parse (script : String) (line : Nat := 1) : Except SyntaxError (List Command) :=
  let ts := lex script line
  parseAll (parseFuel ts) ts (line + script.toList.count '\n')

end TestDispatch.Shell
