import TestDispatch.Shell.Lexer
/-!
# Arithmetic expansion

`$((expression))` evaluates an integer expression over 64-bit signed numbers that wrap
around. The grammar is C's, without the increment operators:

* numbers in decimal, octal (a leading `0`) or hexadecimal (`0x`), read as far as they are
  digits of their base, a number too large for 64 bits being the largest one;
* variables by name, whose values are read as numbers the same way (an unset or empty variable
  is 0, and a value that is no number fails with `Illegal number: value`);
* unary `+`, `-`, `!` and `~`; the binary operators `*`, `/`, `%`, `+`, `-`, `<<`, `>>`, `<`,
  `<=`, `>`, `>=`, `==`, `!=`, `&`, `^`, `|` with C's precedence, left to right; `&&` and `||`
  (1 or 0); the conditional `a ? b : c`; and the assignments `=`, `*=`, `/=`, `%=`, `+=`,
  `-=`, `<<=`, `>>=`, `&=`, `^=`, `|=` to a variable, right to left.

The parts of `&&`, `||` and `?:` that are not taken are parsed but not evaluated: they neither
read nor assign variables nor fail on a division by zero. A faulty expression fails with the
shell's words (`expecting primary`, `expecting ')'`, `expecting ':'`, `expecting EOF`,
`division by zero`); the shell reports it as `arithmetic expression: <words>: "<text>"`.
-/

namespace TestDispatch.Shell

/-- A token of an arithmetic expression. -/
inductive ArithToken where
  | num (v : Int)
  | var (name : String)
  /-- An operator, by its text. -/
  | op (s : String)
  /-- A character that starts no token. -/
  | bad
  deriving DecidableEq, Repr, Inhabited

/-- Wraps an integer to 64-bit two's complement. -/
def wrap64 (x : Int) : Int :=
  let m : Int := 18446744073709551616
  let r := x % m
  if r ≥ 9223372036854775808 then r - m else r

/-- The value of a digit in base 16, if it is one. -/
def hexValue (c : Char) : Option Nat :=
  if c.isDigit then some (c.toNat - 48)
  else if 'a' ≤ c && c ≤ 'f' then some (c.toNat - 87)
  else if 'A' ≤ c && c ≤ 'F' then some (c.toNat - 55)
  else none

/-- Reads the digits of a base at the front; answers their value and what follows. -/
def readDigits (base : Nat) : List Char → Nat → Nat × List Char
  | [], acc => (acc, [])
  | c :: rest, acc =>
    match hexValue c with
    | some d => if d < base then readDigits base rest (acc * base + d) else (acc, c :: rest)
    | none => (acc, c :: rest)

/-- The largest 64-bit number. -/
def maxInt64 : Int := 9223372036854775807

/-- A number at the front of a text in the base its prefix says (`0x` hexadecimal, `0`
octal, else decimal), as far as its digits go, and what follows; a number too large is the
largest one. -/
def readNumber (cs : List Char) : Nat × List Char :=
  match cs with
  | '0' :: x :: rest =>
    if (x = 'x' || x = 'X') && (rest.head?.bind hexValue).isSome then readDigits 16 rest 0
    else readDigits 8 (x :: rest) 0
  | cs => readDigits 10 cs 0

/-- A number read by its base prefix, clamped to 64 bits. -/
def clampedNumber (n : Nat) : Int := if (n : Int) > maxInt64 then maxInt64 else n

/-- The value of a variable read as a number: optional blanks and a sign, a number in its
base, and trailing blanks only; a text of blanks only is 0. -/
def numericValue (s : String) : Option Int :=
  let cs := s.toList.dropWhile (fun c => c = ' ' || c = '\t' || c = '\n')
  if cs.isEmpty then some 0
  else
    let (neg, body) := match cs with
      | '-' :: r => (true, r)
      | '+' :: r => (false, r)
      | r => (false, r)
    match body with
    | c :: _ =>
      if !c.isDigit then none
      else
        let (n, rest) := readNumber body
        if !(rest.all fun c => c = ' ' || c = '\t' || c = '\n') then none
        else if (n : Int) > maxInt64 + (if neg then 1 else 0) then none
        else some (if neg then -(n : Int) else n)
    | [] => none

/-- The operators, longest first. -/
def arithOps : List String :=
  ["<<=", ">>=", "<<", ">>", "<=", ">=", "==", "!=", "&&", "||", "*=", "/=", "%=", "+=", "-=",
   "&=", "^=", "|=", "*", "/", "%", "+", "-", "<", ">", "&", "^", "|", "!", "~", "?", ":", "=",
   "(", ")"]

/-- Cuts an expression into tokens; a character that starts no token ends the list with `bad`. -/
def arithTokens : Nat → List Char → List ArithToken
  | 0, _ => []
  | _ + 1, [] => []
  | fuel + 1, c :: rest =>
    if c = ' ' || c = '\t' || c = '\n' then arithTokens fuel rest
    else if c.isDigit then
      let (n, more) := readNumber (c :: rest)
      .num (clampedNumber n) :: arithTokens fuel more
    else if isNameStart c then
      .var (String.ofList (c :: rest.takeWhile isNameChar)) :: arithTokens fuel (rest.dropWhile isNameChar)
    else
      match arithOps.find? (fun o => o.toList <+: (c :: rest)) with
      | some o => .op o :: arithTokens fuel ((c :: rest).drop o.length)
      | none => [.bad]

/-- Why an expression failed. -/
inductive ArithError where
  /-- The expression is faulty, in the shell's words. -/
  | faulty (words : String)
  /-- A variable's value is no number. -/
  | illegal (value : String)
  deriving DecidableEq, Repr, Inhabited

/-- Where evaluation stands: the tokens left and the variables read and assigned so far. -/
structure ArithState where
  tokens : List ArithToken
  vars : List (String × String)
  deriving Repr, Inhabited

/-- Evaluation of an arithmetic expression. -/
abbrev ArithM := StateT ArithState (Except ArithError)

/-- The precedence level of a binary operator, 0 binding tightest. -/
def binaryLevel : String → Option Nat
  | "*" | "/" | "%" => some 0
  | "+" | "-" => some 1
  | "<<" | ">>" => some 2
  | "<" | "<=" | ">" | ">=" => some 3
  | "==" | "!=" => some 4
  | "&" => some 5
  | "^" => some 6
  | "|" => some 7
  | _ => none

/-- A 64-bit shift left. -/
def shiftLeft (a b : Int) : Int := wrap64 (a * Nat.pow 2 (b.toNat % 64))

/-- A 64-bit arithmetic shift right. -/
def shiftRight (a b : Int) : Int := Int.fdiv a (Nat.pow 2 (b.toNat % 64))

/-- Bitwise operations on 64-bit numbers. -/
def bitwise (f : Bool → Bool → Bool) (a b : Int) : Int :=
  let m : Int := 18446744073709551616
  let ua := (a % m).toNat
  let ub := (b % m).toNat
  wrap64 (Nat.bitwise f ua ub)

/-- A binary operation; a division by zero fails. -/
def binaryOp (op : String) (a b : Int) : Except ArithError Int :=
  match op with
  | "*" => .ok (wrap64 (a * b))
  | "/" => if b = 0 then .error (.faulty "division by zero") else .ok (wrap64 (a.tdiv b))
  | "%" => if b = 0 then .error (.faulty "division by zero") else .ok (a.tmod b)
  | "+" => .ok (wrap64 (a + b))
  | "-" => .ok (wrap64 (a - b))
  | "<<" => .ok (shiftLeft a b)
  | ">>" => .ok (shiftRight a b)
  | "<" => .ok (if a < b then 1 else 0)
  | "<=" => .ok (if a ≤ b then 1 else 0)
  | ">" => .ok (if a > b then 1 else 0)
  | ">=" => .ok (if a ≥ b then 1 else 0)
  | "==" => .ok (if a = b then 1 else 0)
  | "!=" => .ok (if a ≠ b then 1 else 0)
  | "&" => .ok (bitwise and a b)
  | "^" => .ok (bitwise xor a b)
  | _ => .ok (bitwise or a b)

/-- The token at the front. -/
def peekToken : ArithM (Option ArithToken) := do
  return (← get).tokens.head?

/-- Drops the token at the front. -/
def dropToken : ArithM Unit :=
  modify fun s => { s with tokens := s.tokens.drop 1 }

/-- The value of a variable, looked up in the assignments so far and then in `lookup`. -/
def readVar (lookup : String → Option String) (name : String) : ArithM Int := do
  let s ← get
  let text := match s.vars.find? (·.1 = name) with
    | some (_, v) => v
    | none => (lookup name).getD ""
  match numericValue text with
  | some v => return v
  | none => throw (.illegal text)

mutual

/-- An assignment or a conditional expression. -/
def assignExpr (lookup : String → Option String) (fuel : Nat) (noeval : Bool) : ArithM Int :=
  match fuel with
  | 0 => throw (.faulty "expression too deep")
  | fuel + 1 => do
    let s ← get
    match s.tokens with
    | .var name :: .op o :: _ =>
      if o = "=" || ["*=", "/=", "%=", "+=", "-=", "<<=", ">>=", "&=", "^=", "|="].contains o then
        set { s with tokens := s.tokens.drop 2 }
        let v ← assignExpr lookup fuel noeval
        if noeval then return v
        else
          let result ← if o = "=" then pure v
            else do
              let old ← readVar lookup name
              match binaryOp (String.ofList (o.toList.dropLast)) old v with
              | .ok r => pure r
              | .error e => throw e
          modify fun s => { s with vars := (name, toString result) :: s.vars.filter (·.1 ≠ name) }
          return result
      else condExpr lookup fuel noeval
    | _ => condExpr lookup fuel noeval

/-- A conditional expression `a ? b : c`. -/
def condExpr (lookup : String → Option String) (fuel : Nat) (noeval : Bool) : ArithM Int :=
  match fuel with
  | 0 => throw (.faulty "expression too deep")
  | fuel + 1 => do
    let a ← orExpr lookup fuel noeval
    if (← peekToken) = some (.op "?") then
      dropToken
      let b ← assignExpr lookup fuel (noeval || a = 0)
      if (← peekToken) ≠ some (.op ":") then throw (.faulty "expecting ':'")
      dropToken
      let c ← condExpr lookup fuel (noeval || a ≠ 0)
      return if a ≠ 0 then b else c
    else return a

/-- An `||` list. -/
def orExpr (lookup : String → Option String) (fuel : Nat) (noeval : Bool) : ArithM Int :=
  match fuel with
  | 0 => throw (.faulty "expression too deep")
  | fuel + 1 => do
    let a ← andExpr lookup fuel noeval
    if (← peekToken) = some (.op "||") then
      dropToken
      let b ← orExpr lookup fuel (noeval || a ≠ 0)
      return if a ≠ 0 || b ≠ 0 then 1 else 0
    else return a

/-- An `&&` list. -/
def andExpr (lookup : String → Option String) (fuel : Nat) (noeval : Bool) : ArithM Int :=
  match fuel with
  | 0 => throw (.faulty "expression too deep")
  | fuel + 1 => do
    let a ← binaryExpr lookup fuel 7 noeval
    if (← peekToken) = some (.op "&&") then
      dropToken
      let b ← andExpr lookup fuel (noeval || a = 0)
      return if a ≠ 0 && b ≠ 0 then 1 else 0
    else return a

/-- Binary operators of precedence `level` and tighter, left to right. -/
def binaryExpr (lookup : String → Option String) (fuel : Nat) (level : Nat) (noeval : Bool) :
    ArithM Int :=
  match fuel with
  | 0 => throw (.faulty "expression too deep")
  | fuel + 1 => do
    let a ← if level = 0 then unaryExpr lookup fuel noeval else binaryExpr lookup fuel (level - 1) noeval
    binaryRest lookup fuel level noeval a

/-- The operands after the first at one precedence level. -/
def binaryRest (lookup : String → Option String) (fuel : Nat) (level : Nat) (noeval : Bool)
    (a : Int) : ArithM Int :=
  match fuel with
  | 0 => throw (.faulty "expression too deep")
  | fuel + 1 => do
    match ← peekToken with
    | some (.op o) =>
      if binaryLevel o = some level then
        dropToken
        let b ← if level = 0 then unaryExpr lookup fuel noeval else binaryExpr lookup fuel (level - 1) noeval
        let r ← if noeval then pure b
          else match binaryOp o a b with
            | .ok r => pure r
            | .error e => throw e
        binaryRest lookup fuel level noeval r
      else return a
    | _ => return a

/-- A unary operator applied to a primary, a number, a variable or a parenthesized
expression. -/
def unaryExpr (lookup : String → Option String) (fuel : Nat) (noeval : Bool) : ArithM Int :=
  match fuel with
  | 0 => throw (.faulty "expression too deep")
  | fuel + 1 => do
    match ← peekToken with
    | some (.num v) =>
      dropToken
      return v
    | some (.var name) =>
      dropToken
      if noeval then return 0 else readVar lookup name
    | some (.op "(") =>
      dropToken
      let v ← assignExpr lookup fuel noeval
      if (← peekToken) ≠ some (.op ")") then throw (.faulty "expecting ')'")
      dropToken
      return v
    | some (.op "+") =>
      dropToken
      unaryExpr lookup fuel noeval
    | some (.op "-") =>
      dropToken
      let v ← unaryExpr lookup fuel noeval
      return wrap64 (-v)
    | some (.op "!") =>
      dropToken
      let v ← unaryExpr lookup fuel noeval
      return if v = 0 then 1 else 0
    | some (.op "~") =>
      dropToken
      let v ← unaryExpr lookup fuel noeval
      return wrap64 (-v - 1)
    | _ => throw (.faulty "expecting primary")

end

/-- Evaluates an expression: its value and the variables it assigned, latest first. -/
def evalArith (lookup : String → Option String) (text : String) :
    Except ArithError (Int × List (String × String)) :=
  let toks := arithTokens (text.length + 1) text.toList
  match (assignExpr lookup (4 * toks.length + 16) false).run { tokens := toks, vars := [] } with
  | .error e => .error e
  | .ok (v, s) =>
    if s.tokens.isEmpty then .ok (v, s.vars) else .error (.faulty "expecting EOF")

end TestDispatch.Shell
