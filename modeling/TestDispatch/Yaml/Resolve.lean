import TestDispatch.Text.Decimal
import TestDispatch.Text.Integer
/-!
# What a plain scalar means

A scalar written without quotes and without a tag takes the type its text looks like:
`null`, `~` and the empty text are null, `true`/`false` (three spellings each) are booleans,
integers may be written in decimal, octal (`0o17` or `017`), hexadecimal or binary with `_`
between digits, floats in decimal or as `.inf`/`.nan`, and `YYYY-M-D` dates (with an optional
time) are timestamps. Everything else is a string.

An explicit tag asks for one of these types; `resolve` then checks that the text has it, and a
text that does not is an error naming both types. An integer may stand where a float is asked
for.
-/

namespace TestDispatch.Yaml

open TestDispatch.Text

/-- The value a scalar resolves to. -/
inductive Resolved where
  | null
  | bool (b : Bool)
  /-- An integer of 64 bits, signed or unsigned. -/
  | int (i : Int)
  | float (x : Binary64)
  | timestamp
  | text (s : String)
  deriving DecidableEq, Repr, Inhabited

/-- The prefix of the standard tags, written `!!` for short. -/
def standardTagPrefix : String := "tag:yaml.org,2002:"

/-- The short form of a tag: `!!name` for a standard tag, any other tag as it is. -/
def shortTag (tag : String) : String :=
  if tag.startsWith standardTagPrefix then "!!" ++ String.ofList (tag.toList.drop standardTagPrefix.length)
  else tag

/-- The tags `resolve` checks a text against. -/
def resolvableTag (tag : String) : Bool :=
  tag = "" || tag = "!!str" || tag = "!!bool" || tag = "!!int" || tag = "!!float" || tag = "!!timestamp" ||
    tag = "!!null"

/-- The texts with a fixed meaning. -/
def fixedMeaning : String → Option (String × Resolved)
  | "true" | "True" | "TRUE" => some ("!!bool", .bool true)
  | "false" | "False" | "FALSE" => some ("!!bool", .bool false)
  | "" | "~" | "null" | "Null" | "NULL" => some ("!!null", .null)
  | ".nan" | ".NaN" | ".NAN" => some ("!!float", .float .nan)
  | ".inf" | ".Inf" | ".INF" | "+.inf" | "+.Inf" | "+.INF" => some ("!!float", .float (.infinite false))
  | "-.inf" | "-.Inf" | "-.INF" => some ("!!float", .float (.infinite true))
  | "<<" => some ("!!merge", .text "<<")
  | _ => none

/-- What the first character of a text hints at: `S` a sign, `D` a digit, `M` a text with a
fixed meaning, `.` a float; `none` when the text can only be a string. -/
def hint (value : String) : Option Char :=
  match value.toList with
  | [] => some 'N'
  | c :: _ =>
    if c = '+' || c = '-' then some 'S'
    else if c.isDigit then some 'D'
    else if "yYnNtTfFoO~".toList.contains c then some 'M'
    else if c = '.' then some '.'
    else none

/-- Whether a text is a float in the plain decimal form
`[-+]? ( .digits | digits [. digits?] ) ([eE] [-+]? digits)?`. -/
def floatShaped (text : String) : Bool :=
  let digits (cs : List Char) : List Char × List Char := (cs.takeWhile Char.isDigit, cs.dropWhile Char.isDigit)
  let cs := match text.toList with
    | c :: rest => if c = '-' || c = '+' then rest else c :: rest
    | [] => []
  let afterMantissa : Option (List Char) :=
    match cs with
    | '.' :: rest =>
      let (ds, rest) := digits rest
      if ds.isEmpty then none else some rest
    | _ =>
      let (ds, rest) := digits cs
      if ds.isEmpty then none
      else match rest with
        | '.' :: more => some (digits more).2
        | _ => some rest
  match afterMantissa with
  | none => false
  | some [] => true
  | some (e :: rest) =>
    if e = 'e' || e = 'E' then
      let rest := match rest with
        | c :: more => if c = '-' || c = '+' then more else c :: more
        | [] => []
      let (ds, rest) := digits rest
      !ds.isEmpty && rest.isEmpty
    else false

/-! ## Timestamps -/

/-- One or two digits. -/
def shortNumber : List Char → Option (Nat × List Char)
  | a :: b :: rest =>
    if !a.isDigit then none
    else if b.isDigit then some ((a.toNat - 48) * 10 + (b.toNat - 48), rest)
    else some (a.toNat - 48, b :: rest)
  | [a] => if a.isDigit then some (a.toNat - 48, []) else none
  | [] => none

/-- Whether a year is a leap year. -/
def leapYear (y : Nat) : Bool := y % 4 = 0 && (y % 100 ≠ 0 || y % 400 = 0)

/-- The days of a month. -/
def daysIn (month year : Nat) : Nat :=
  if month = 2 then (if leapYear year then 29 else 28)
  else if month = 4 || month = 6 || month = 9 || month = 11 then 30
  else 31

/-- Reads `H:M:S` with an optional fraction of a second; each of hours, minutes and seconds
has one or two digits and its range. -/
def clockTime (cs : List Char) : Option (List Char) := do
  let (h, cs) ← shortNumber cs
  guard (h < 24)
  let cs ← match cs with | ':' :: r => some r | _ => none
  let (m, cs) ← shortNumber cs
  guard (m < 60)
  let cs ← match cs with | ':' :: r => some r | _ => none
  let (s, cs) ← shortNumber cs
  guard (s < 60)
  match cs with
  | c :: d :: rest =>
    if (c = '.' || c = ',') && d.isDigit then some (rest.dropWhile Char.isDigit) else some cs
  | _ => some cs

/-- Reads a zone: `Z` or `±hh:mm`. -/
def zone (cs : List Char) : Option (List Char) :=
  match cs with
  | 'Z' :: rest => some rest
  | sign :: h1 :: h2 :: ':' :: m1 :: m2 :: rest =>
    if (sign = '+' || sign = '-') && h1.isDigit && h2.isDigit && m1.isDigit && m2.isDigit &&
        (h1.toNat - 48) * 10 + (h2.toNat - 48) ≤ 24 && (m1.toNat - 48) * 10 + (m2.toNat - 48) ≤ 60 then
      some rest
    else none
  | _ => none

/-- Whether a text is a timestamp: `YYYY-M-D`, optionally followed by `T` or `t` and a time with
a zone, or by spaces and a time without one. -/
def isTimestamp (text : String) : Bool :=
  let cs := text.toList
  let year := cs.take 4
  if year.length < 4 || !year.all Char.isDigit || cs.getD 4 ' ' ≠ '-' then false
  else
    let date : Option (Nat × Nat × List Char) := do
      let (month, rest) ← shortNumber (cs.drop 5)
      let rest ← match rest with | '-' :: r => some r | _ => none
      let (day, rest) ← shortNumber rest
      guard (1 ≤ month && month ≤ 12)
      guard (1 ≤ day && day ≤ daysIn month (decimalValue year))
      pure (month, day, rest)
    match date with
    | none => false
    | some (_, _, rest) =>
      let withZone (sep : Char) : Bool :=
        match rest with
        | c :: more => c = sep && (do let r ← clockTime more; let r ← zone r; guard r.isEmpty).isSome
        | [] => false
      let spaced : Bool :=
        match rest with
        | ' ' :: more => ((clockTime (more.dropWhile (· = ' '))).map List.isEmpty).getD false
        | _ => false
      rest.isEmpty || withZone 'T' || withZone 't' || spaced

/-! ## Resolution -/

/-- Reads an integer the way a plain scalar may write it. -/
def readInteger (plain : String) : Option Int :=
  let signed (text : String) (base : Nat) : Option Int :=
    match readSigned text base 64 with
    | .ok i => some i
    | .error _ => none
  let unsigned (text : String) (base : Nat) : Option Int :=
    match readUnsigned text base 64 with
    | .ok n => some n
    | .error _ => none
  let cs := plain.toList
  let rest := String.ofList (cs.drop 2)
  let negRest := "-" ++ String.ofList (cs.drop 3)
  (signed plain 0).orElse fun _ => (unsigned plain 0).orElse fun _ =>
    if plain.startsWith "0b" then (signed rest 2).orElse fun _ => unsigned rest 2
    else if plain.startsWith "-0b" then signed negRest 2
    else if plain.startsWith "0o" then (signed rest 8).orElse fun _ => unsigned rest 8
    else if plain.startsWith "-0o" then signed negRest 8
    else none

/-- The type and value a text has, for an untagged scalar or one tagged with `tag`. -/
def resolvePlain (tag value : String) : String × Resolved :=
  let asText : String × Resolved := ("!!str", .text value)
  match hint value with
  | none => asText
  | some h =>
    if tag = "!!str" || tag = "!!binary" then asText
    else match fixedMeaning value with
      | some r => r
      | none =>
        if h = '.' then
          match Binary64.readDecimal? value with
          | some x@(.finite _ _ _) => ("!!float", .float x)
          | _ => asText
        else if h = 'D' || h = 'S' then
          if (tag = "" || tag = "!!timestamp") && isTimestamp value then ("!!timestamp", .timestamp)
          else
            let plain := String.ofList (value.toList.filter (· ≠ '_'))
            match readInteger plain with
            | some i => ("!!int", .int i)
            | none =>
              if floatShaped plain then
                match Binary64.readDecimal? plain with
                | some x@(.finite _ _ _) => ("!!float", .float x)
                | _ => asText
              else asText
        else asText

/-- Resolves a scalar's text under its tag. A tag the resolver does not know keeps the text; a
known tag the text does not fit is an error, but for an integer asked to be a float. -/
def resolve (tag value : String) : Except String (String × Resolved) :=
  let tag := shortTag tag
  if !resolvableTag tag then .ok (tag, .text value)
  else
    let (rtag, out) := resolvePlain tag value
    if tag = "" || tag = rtag || tag = "!!str" || tag = "!!binary" then .ok (rtag, out)
    else
      let failure : Except String (String × Resolved) :=
        .error s!"cannot decode {shortTag rtag} \x60{value}\x60 as a {tag}"
      if tag = "!!float" && rtag = "!!int" then
        match out with
        | .int i =>
          if i < Int.pow 2 63 then .ok ("!!float", .float (Binary64.ofRatio (i < 0) i.natAbs 1)) else failure
        | _ => failure
      else failure

/-- The tag a plain untagged scalar gets. -/
def plainTag (value : String) : String := (resolvePlain "" value).1

end TestDispatch.Yaml
