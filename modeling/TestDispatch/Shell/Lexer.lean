import TestDispatch.Text.Decimal
import TestDispatch.Shell.Syntax
/-!
# Reading a script into tokens

A script is cut into words and operators. Blanks separate words; a line end is a token of its
own, as are `;`, `;;`, `&`, `&&`, `|`, `||`, the parentheses and the redirection operators
(`>`, `>>`, `>|`, `<`, `<>`, `>&`, `<&`, `<<`, `<<-`), which may be led by a descriptor number
written right before them. A `#` that starts a word starts a comment running to the line end.

Inside a word, single quotes keep everything up to the next single quote; double quotes keep
everything but expansions and the backslash before `$`, `` ` ``, `"`, `\` or a line end; an
unquoted backslash keeps the next character, and a backslash before a line end joins the lines.
A `$` starts a parameter expansion (`$name`, `$1`, `$?`, `${...}`), a command substitution
(`$(...)`) or an arithmetic expansion (`$((...))`); one that starts none is literal. A
backquoted text is a command substitution too, with `\$`, `` \` `` and `\\` read as the
character after the backslash.

A here-document's text is taken from the lines after the one its operator stands on, up to a
line holding only its delimiter; it is expanded like a double-quoted text unless some part of
the delimiter was quoted.

A script that cannot be read gives the tokens before the fault and then a `bad` token with the
shell's words for it: the shell runs what comes before a fault before it reports it.

Reading is bounded by the length of the script: every step takes at least one character.
-/

namespace TestDispatch.Shell

/-- A redirection operator. -/
inductive RedirectOp where
  /-- `>` or `>|`. -/
  | write
  /-- `>>`. -/
  | append
  /-- `<`. -/
  | read
  /-- `<>`. -/
  | readWrite
  /-- `>&`. -/
  | dupOut
  /-- `<&`. -/
  | dupIn
  deriving DecidableEq, Repr, Inhabited

/-- A token. -/
inductive Token where
  | word (w : Word)
  | redirect (fd : Option Nat) (op : RedirectOp)
  /-- A here-document, its delimiter read already. -/
  | heredoc (fd : Option Nat) (body : Word)
  | semi
  /-- `;;`, which ends a case branch. -/
  | dsemi
  | amp
  | andIf
  | orIf
  | pipe
  | lparen
  | rparen
  | newline
  /-- Where the script could not be read, and why. -/
  | bad (message : String)
  deriving DecidableEq, Repr, Inhabited

/-- Why a script could not be read: the line and the shell's words. -/
structure LexError where
  line : Nat
  message : String
  deriving DecidableEq, Repr, Inhabited

/-- The word with one more character of the given quoting. -/
def pushChar (w : Word) (c : Char) (quoted : Bool) : Word :=
  match w.reverse with
  | .text s q :: before =>
    if q = quoted then (.text (s.push c) q :: before).reverse else w ++ [.text (String.singleton c) quoted]
  | _ => w ++ [.text (String.singleton c) quoted]

/-- Whether a character may start a variable name. -/
def isNameStart (c : Char) : Bool := c.isAlpha || c = '_'

/-- Whether a character may continue a variable name. -/
def isNameChar (c : Char) : Bool := c.isAlphanum || c = '_'

/-- Whether a text is a variable name. -/
def isName (s : String) : Bool :=
  match s.toList with
  | c :: rest => isNameStart c && rest.all isNameChar
  | [] => false

/-- The special parameters, each named by one character. -/
def specialParams : List Char := "@*#?$!-0".toList

/-! ## Raw texts of substitutions -/

/-- Copies a single-quoted text (after its opening quote) up to and including its closing
quote; answers the copy, reversed after `acc`, and what follows. -/
def copySingle : Nat → List Char → List Char → Nat → Option (List Char × List Char × Nat)
  | 0, _, _, _ => none
  | _ + 1, [], _, _ => none
  | fuel + 1, c :: rest, acc, line =>
    if c = '\'' then some (c :: acc, rest, line)
    else copySingle fuel rest (c :: acc) (if c = '\n' then line + 1 else line)

/-- Copies a double-quoted text (after its opening quote) up to and including its closing
quote, stepping over escaped characters. -/
def copyDouble : Nat → List Char → List Char → Nat → Option (List Char × List Char × Nat)
  | 0, _, _, _ => none
  | _ + 1, [], _, _ => none
  | fuel + 1, c :: rest, acc, line =>
    if c = '"' then some (c :: acc, rest, line)
    else if c = '\\' then
      match rest with
      | d :: more => copyDouble fuel more (d :: c :: acc) (if d = '\n' then line + 1 else line)
      | [] => none
    else copyDouble fuel rest (c :: acc) (if c = '\n' then line + 1 else line)

/-- Why a raw scan stopped. -/
inductive ScanStop where
  /-- The text ended before the closing character. -/
  | ended
  /-- A quote inside was never closed. -/
  | unquoted (line : Nat)
  deriving DecidableEq, Repr, Inhabited

/-- Scans the text of a substitution up to its closing character `close` at depth 0, `open_`
raising the depth; quotes and escapes inside are stepped over. Answers the text, what follows
the closing character, and the line reached. -/
def scanNested (open_ close : Char) : Nat → List Char → Nat → List Char → Nat →
    Except ScanStop (String × List Char × Nat)
  | 0, _, _, _, _ => .error .ended
  | _ + 1, [], _, _, _ => .error .ended
  | fuel + 1, c :: rest, depth, acc, line =>
    if c = close then
      if depth = 0 then .ok (String.ofList acc.reverse, rest, line)
      else scanNested open_ close fuel rest (depth - 1) (c :: acc) line
    else if c = open_ then scanNested open_ close fuel rest (depth + 1) (c :: acc) line
    else if c = '\'' then
      match copySingle rest.length rest (c :: acc) line with
      | some (acc, more, line) => scanNested open_ close fuel more depth acc line
      | none => .error (.unquoted line)
    else if c = '"' then
      match copyDouble rest.length rest (c :: acc) line with
      | some (acc, more, line) => scanNested open_ close fuel more depth acc line
      | none => .error (.unquoted line)
    else if c = '\\' then
      match rest with
      | d :: more => scanNested open_ close fuel more depth (d :: c :: acc) (if d = '\n' then line + 1 else line)
      | [] => .error .ended
    else scanNested open_ close fuel rest depth (c :: acc) (if c = '\n' then line + 1 else line)

/-- Scans an arithmetic expansion after its `$((` up to the `))` that closes it. -/
def scanArith : Nat → List Char → Nat → List Char → Nat → Option (String × List Char × Nat)
  | 0, _, _, _, _ => none
  | _ + 1, [], _, _, _ => none
  | fuel + 1, c :: rest, depth, acc, line =>
    if c = ')' then
      if depth = 0 then
        match rest with
        | ')' :: more => some (String.ofList acc.reverse, more, line)
        | _ => none
      else scanArith fuel rest (depth - 1) (c :: acc) line
    else if c = '(' then scanArith fuel rest (depth + 1) (c :: acc) line
    else scanArith fuel rest depth (c :: acc) (if c = '\n' then line + 1 else line)

/-- Scans a backquoted text after its opening backquote: a backslash before `$`, a backquote or
a backslash (and before `"` inside double quotes) is dropped. -/
def scanBackquote (inDouble : Bool) : Nat → List Char → List Char → Nat →
    Option (String × List Char × Nat)
  | 0, _, _, _ => none
  | _ + 1, [], _, _ => none
  | fuel + 1, c :: rest, acc, line =>
    if c.toNat = 0x60 then some (String.ofList acc.reverse, rest, line)
    else if c = '\\' then
      match rest with
      | d :: more =>
        if d = '$' || d.toNat = 0x60 || d = '\\' || (inDouble && d = '"') then
          scanBackquote inDouble fuel more (d :: acc) line
        else if d = '\n' then scanBackquote inDouble fuel more acc (line + 1)
        else scanBackquote inDouble fuel more (d :: c :: acc) line
      | [] => none
    else scanBackquote inDouble fuel rest (c :: acc) (if c = '\n' then line + 1 else line)

/-- The operator at the front of the text after a parameter name in braces, and its word. -/
def braceOp (cs : List Char) : Option (ParamOp × List Char) :=
  match cs with
  | ':' :: '-' :: rest => some (.useDefault true, rest)
  | ':' :: '=' :: rest => some (.assignDefault true, rest)
  | ':' :: '?' :: rest => some (.errorIfUnset true, rest)
  | ':' :: '+' :: rest => some (.useAlternative true, rest)
  | '-' :: rest => some (.useDefault false, rest)
  | '=' :: rest => some (.assignDefault false, rest)
  | '?' :: rest => some (.errorIfUnset false, rest)
  | '+' :: rest => some (.useAlternative false, rest)
  | '%' :: '%' :: rest => some (.removeSuffix true, rest)
  | '%' :: rest => some (.removeSuffix false, rest)
  | '#' :: '#' :: rest => some (.removePrefix true, rest)
  | '#' :: rest => some (.removePrefix false, rest)
  | _ => none

/-- The parameter name at the front of the text inside braces: a variable name, digits, or a
special parameter. -/
def braceName (cs : List Char) : Option (String × List Char) :=
  match cs with
  | c :: rest =>
    if isNameStart c then some (String.ofList (c :: rest.takeWhile isNameChar), rest.dropWhile isNameChar)
    else if c.isDigit then some (String.ofList (c :: rest.takeWhile Char.isDigit), rest.dropWhile Char.isDigit)
    else if specialParams.contains c then some (String.singleton c, rest)
    else none
  | [] => none

/-- The expansion a text in braces stands for. -/
def braced (inner : List Char) (quoted : Bool) : Option Part :=
  let plain : Option Part :=
    match braceName inner with
    | some (name, []) => some (.param name quoted)
    | some (name, rest) =>
      match braceOp rest with
      | some (op, arg) => some (.modified name op (String.ofList arg) quoted)
      | none => none
    | none => none
  match inner with
  | '#' :: rest =>
    match braceName rest with
    | some (name, []) => some (.length name quoted)
    | _ => plain
  | _ => plain

/-- Reads an expansion after its `$`: the part, what follows, and the line reached; none when
the `$` starts no expansion. -/
def readDollar (cs : List Char) (quoted : Bool) (line : Nat) :
    Except LexError (Option (Part × List Char × Nat)) :=
  match cs with
  | '(' :: '(' :: rest =>
    match scanArith (rest.length + 1) rest 0 [] line with
    | some (src, more, line') => .ok (some (.arith src line quoted, more, line'))
    | none => .error { line, message := "Missing '))'" }
  | '(' :: rest =>
    match scanNested '(' ')' (rest.length + 1) rest 0 [] line with
    | .ok (src, more, line') => .ok (some (.command src line quoted, more, line'))
    | .error (.unquoted l) => .error { line := l, message := "Unterminated quoted string" }
    | .error .ended =>
      .error { line := line + rest.count '\n', message := "end of file unexpected (expecting \")\")" }
  | '{' :: rest =>
    match scanNested '{' '}' (rest.length + 1) rest 0 [] line with
    | .ok (inner, more, line') =>
      match braced inner.toList quoted with
      | some p => .ok (some (p, more, line'))
      | none => .error { line, message := "Bad substitution" }
    | .error (.unquoted l) => .error { line := l, message := "Unterminated quoted string" }
    | .error .ended => .error { line := line + rest.count '\n', message := "Missing '\x7d'" }
  | c :: rest =>
    if c.isDigit || specialParams.contains c then .ok (some (.param (String.singleton c) quoted, rest, line))
    else if isNameStart c then
      .ok (some (.param (String.ofList (c :: rest.takeWhile isNameChar)) quoted, rest.dropWhile isNameChar, line))
    else .ok none
  | [] => .ok none

/-! ## Words -/

/-- Reads the rest of a double-quoted text into the word (its parts quoted); answers the word,
what follows the closing quote and the line reached. With `closing` false the text runs to the
end (a here-document's body) and a `"` is an ordinary character. -/
def readDouble (closing : Bool) : Nat → List Char → Word → Nat → Except LexError (Word × List Char × Nat)
  | 0, _, w, line => if closing then .error { line, message := "Unterminated quoted string" } else .ok (w, [], line)
  | _ + 1, [], w, line =>
    if closing then .error { line, message := "Unterminated quoted string" } else .ok (w, [], line)
  | fuel + 1, c :: rest, w, line =>
    if c = '"' && closing then .ok (w, rest, line)
    else if c = '\\' then
      match rest with
      | d :: more =>
        if d = '\n' then readDouble closing fuel more w (line + 1)
        else if d = '$' || d.toNat = 0x60 || d = '\\' || (closing && d = '"') then
          readDouble closing fuel more (pushChar w d true) line
        else readDouble closing fuel more (pushChar (pushChar w '\\' true) d true) line
      | [] => readDouble closing fuel [] (pushChar w '\\' true) line
    else if c = '$' then
      match readDollar rest true line with
      | .ok (some (p, more, line')) => readDouble closing fuel more (w ++ [p]) line'
      | .ok none => readDouble closing fuel rest (pushChar w '$' true) line
      | .error e => .error e
    else if c.toNat = 0x60 then
      match scanBackquote closing (rest.length + 1) rest [] line with
      | some (src, more, line') => readDouble closing fuel more (w ++ [.command src line true]) line'
      | none => .error { line, message := "EOF in backquote substitution" }
    else readDouble closing fuel rest (pushChar w c true) (if c = '\n' then line + 1 else line)

/-- Whether a character ends an unquoted word. -/
def endsWord (c : Char) : Bool := " \t\n;&|<>()".toList.contains c

/-- Reads the rest of a word; answers the word, what follows it and the line reached. With
`plain` the word runs to the end of the text and blanks and operators are ordinary
characters (the word of an expansion operator). -/
def readWord (plain : Bool) : Nat → List Char → Word → Nat → Except LexError (Word × List Char × Nat)
  | 0, cs, w, line => .ok (w, cs, line)
  | _ + 1, [], w, line => .ok (w, [], line)
  | fuel + 1, c :: rest, w, line =>
    if endsWord c && !plain then .ok (w, c :: rest, line)
    else if c = '\'' then
      let body := rest.takeWhile (· ≠ '\'')
      match rest.dropWhile (· ≠ '\'') with
      | _ :: more =>
        let w := if body.isEmpty then w ++ [.text "" true] else w ++ [.text (String.ofList body) true]
        readWord plain fuel more w (line + body.count '\n')
      | [] => .error { line := line + body.count '\n', message := "Unterminated quoted string" }
    else if c = '"' then
      match readDouble true (rest.length + 1) rest w line with
      | .ok (w', more, line') =>
        let w' := if w'.length = w.length && w' = w then w' ++ [.text "" true] else w'
        readWord plain fuel more w' line'
      | .error e => .error e
    else if c = '\\' then
      match rest with
      | '\n' :: more => readWord plain fuel more w (line + 1)
      | d :: more => readWord plain fuel more (pushChar w d true) line
      | [] => readWord plain fuel [] (pushChar w '\\' false) line
    else if c = '$' then
      match readDollar rest false line with
      | .ok (some (p, more, line')) => readWord plain fuel more (w ++ [p]) line'
      | .ok none => readWord plain fuel rest (pushChar w '$' false) line
      | .error e => .error e
    else if c.toNat = 0x60 then
      match scanBackquote false (rest.length + 1) rest [] line with
      | some (src, more, line') => readWord plain fuel more (w ++ [.command src line false]) line'
      | none => .error { line, message := "EOF in backquote substitution" }
    else readWord plain fuel rest (pushChar w c false) (if c = '\n' then line + 1 else line)

/-- The word of an expansion operator, read from its text: as a double-quoted text when the
expansion stands in double quotes, else as a word whose blanks are ordinary characters. -/
def operandWord (arg : String) (quoted : Bool) : Except LexError Word :=
  let cs := arg.toList
  if quoted then (readDouble false (cs.length + 1) cs [] 1).map (·.1)
  else (readWord true (cs.length + 1) cs [] 1).map (·.1)

/-- The digits of an unquoted word made of digits only. -/
def Token.descriptor? (w : Word) : Option Nat :=
  match w with
  | [.text s false] => if !s.isEmpty && s.all Char.isDigit then some (Text.decimalText s) else none
  | _ => none

/-- The redirection operator at the front of the characters after `>` or `<`; none for `<<`. -/
def redirectAt (first : Char) (rest : List Char) : Option (RedirectOp × List Char) :=
  if first = '>' then
    match rest with
    | '>' :: more => some (.append, more)
    | '&' :: more => some (.dupOut, more)
    | '|' :: more => some (.write, more)
    | more => some (.write, more)
  else
    match rest with
    | '&' :: more => some (.dupIn, more)
    | '>' :: more => some (.readWrite, more)
    | '<' :: _ => none
    | more => some (.read, more)

/-! ## Here-documents -/

/-- The literal text of a delimiter word, and whether any of it was quoted. -/
def delimiterText (w : Word) : String × Bool :=
  w.foldl (fun (s, q) p => match p with
    | .text t quoted => (s ++ t, q || quoted)
    | _ => (s, q)) ("", false)

/-- Splits the lines of a here-document's body off the text after its operator's line: the
body's lines up to the delimiter line (tabs stripped first when `strip`), and the lines after
it. -/
def bodyLines (delim : String) (strip : Bool) : List String → List String → List String × List String
  | [], acc => (acc.reverse, [])
  | l :: rest, acc =>
    let l' := if strip then String.ofList (l.toList.dropWhile (· = '\t')) else l
    if l' = delim then (acc.reverse, rest) else bodyLines delim strip rest (l' :: acc)

/-- Takes a here-document's body out of the text after its delimiter word: the body, the text
with the body's lines removed, and how many lines were removed. -/
def takeHeredoc (delim : String) (strip : Bool) (after : List Char) : String × List Char × Nat :=
  let lineRest := after.takeWhile (· ≠ '\n')
  match after.dropWhile (· ≠ '\n') with
  | _ :: following =>
    let (body, rest) := bodyLines delim strip ((String.ofList following).splitOn "\n") []
    let removed := (String.ofList following).splitOn "\n" |>.length
    let kept := rest.length
    let bodyText := String.join (body.map (· ++ "\n"))
    (bodyText, lineRest ++ ('\n' :: ("\n".intercalate rest).toList), removed - kept)
  | [] => ("", lineRest, 0)

/-! ## Tokens -/

/-- Cuts a script into tokens, each with the line it stands on. `skipped` counts the lines of
here-documents taken out of the text, added to the line count at the next line end. -/
def lexFrom : Nat → List Char → Nat → Nat → List (Token × Nat) → List (Token × Nat)
  | 0, _, _, _, acc => acc.reverse
  | _ + 1, [], _, _, acc => acc.reverse
  | fuel + 1, c :: rest, line, skipped, acc =>
    let op (t : Token) (more : List Char) := lexFrom fuel more line skipped ((t, line) :: acc)
    let fail (e : LexError) := ((.bad e.message, e.line) :: acc).reverse
    let heredoc (fd : Option Nat) (strip : Bool) (more : List Char) (lineAt : Nat) :=
      let more := more.dropWhile (fun c => c = ' ' || c = '\t')
      match readWord false (more.length + 1) more [] lineAt with
      | .error e => fail e
      | .ok ([], _, _) =>
        match more with
        | [] => fail { line := lineAt, message := "end of file unexpected" }
        | '\n' :: _ => fail { line := lineAt, message := "newline unexpected" }
        | d :: _ => fail { line := lineAt, message := s!"\"{d}\" unexpected" }
      | .ok (w, after, line') =>
        let (delim, quotedDelim) := delimiterText w
        let (body, after', removed) := takeHeredoc delim strip after
        let bodyWord : Word :=
          if quotedDelim then [.text body true]
          else match readDouble false (body.length + 1) body.toList [] (line' + 1) with
            | .ok (bw, _, _) => bw
            | .error _ => [.text body true]
        lexFrom fuel after' line' (skipped + removed) ((.heredoc fd bodyWord, lineAt) :: acc)
    if c = ' ' || c = '\t' then lexFrom fuel rest line skipped acc
    else if c = '\\' && rest.head? = some '\n' then lexFrom fuel rest.tail (line + 1) skipped acc
    else if c = '\n' then lexFrom fuel rest (line + 1 + skipped) 0 ((.newline, line) :: acc)
    else if c = '#' then lexFrom fuel (rest.dropWhile (· ≠ '\n')) line skipped acc
    else if c = ';' then
      match rest with
      | ';' :: more => op .dsemi more
      | _ => op .semi rest
    else if c = '&' then
      match rest with
      | '&' :: more => op .andIf more
      | _ => op .amp rest
    else if c = '|' then
      match rest with
      | '|' :: more => op .orIf more
      | _ => op .pipe rest
    else if c = '(' then op .lparen rest
    else if c = ')' then op .rparen rest
    else if c = '>' || c = '<' then
      match redirectAt c rest with
      | some (r, more) => op (.redirect none r) more
      | none =>
        match rest.drop 1 with
        | '-' :: more => heredoc none true more line
        | more => heredoc none false more line
    else
      match readWord false (rest.length + 2) (c :: rest) [] line with
      | .error e => fail e
      | .ok (w, more, line') =>
        match Token.descriptor? w, more with
        | some fd, d :: after =>
          if d = '>' || d = '<' then
            match redirectAt d after with
            | some (r, after') => lexFrom fuel after' line' skipped ((.redirect (some fd) r, line) :: acc)
            | none =>
              match after.drop 1 with
              | '-' :: more' => heredoc (some fd) true more' line
              | more' => heredoc (some fd) false more' line
          else lexFrom fuel more line' skipped ((.word w, line) :: acc)
        | _, _ => lexFrom fuel more line' skipped ((.word w, line) :: acc)

/-- The tokens of a script whose first line is `line`. -/
def lex (script : String) (line : Nat := 1) : List (Token × Nat) :=
  let cs := script.toList
  lexFrom (cs.length + 1) cs line 0 []

end TestDispatch.Shell
