import TestDispatch.Text.Utf8
/-!
# Quoted text

Text written between quotes so that it reads back exactly and shows no invisible character:
a printable character stands for itself, the quote and the backslash are preceded by a
backslash, the seven usual control characters get their letter (`\n`, `\t`, …), any other
control character below U+0080 is written `\xNN`, any other unprintable character `\uNNNN` or
`\UNNNNNNNN`, all with lower-case hexadecimal digits.

Messages quote names this way (`duplicate id "x"`), and a character that a reader refuses is
quoted the same way between single quotes (`'\xff'` for an octet that starts no character).
-/

namespace TestDispatch.Quoted

/-- The lower-case hexadecimal digit of a number below 16. -/
def hexDigit (n : Nat) : Char :=
  if n < 10 then Char.ofNat (48 + n) else Char.ofNat (87 + n)

/-- `width` lower-case hexadecimal digits of `n`, most significant first. -/
def hexDigits (width n : Nat) : List Char :=
  (List.range width).reverse.map fun i => hexDigit (n / Nat.pow 16 i % 16)

/-- Ranges of characters above U+007F that count as unprintable: controls, spaces other than
the ASCII space, format characters, separators, private use and non-characters. -/
def unprintableRanges : List (Nat × Nat) :=
  [(0x80, 0xA0), (0xAD, 0xAD), (0x378, 0x379), (0x380, 0x383), (0x38B, 0x38B), (0x38D, 0x38D),
   (0x3A2, 0x3A2), (0x530, 0x530), (0x557, 0x558), (0x58B, 0x58C), (0x590, 0x590),
   (0x5C8, 0x5CF), (0x5EB, 0x5EE), (0x5F5, 0x605), (0x61C, 0x61C), (0x6DD, 0x6DD),
   (0x70E, 0x70F), (0x890, 0x891), (0x8E2, 0x8E2), (0x1680, 0x1680), (0x180E, 0x180E),
   (0x2000, 0x200F), (0x2028, 0x202F), (0x205F, 0x206F), (0x3000, 0x3000),
   (0xD800, 0xF8FF), (0xFEFF, 0xFEFF), (0xFFF0, 0xFFFB), (0xFFFE, 0xFFFF),
   (0x110BD, 0x110BD), (0x110CD, 0x110CD), (0x13430, 0x1343F), (0x1BCA0, 0x1BCA3),
   (0x1D173, 0x1D17A), (0xE0000, 0xE00FF), (0xEFFFF, 0x10FFFF)]

/-- Whether a character is shown as itself inside quotes: letters, marks, numbers, punctuation,
symbols and the ASCII space. -/
def isPrint (c : Char) : Bool :=
  let n := c.toNat
  if n < 0x80 then 0x20 ≤ n && n < 0x7F
  else !(unprintableRanges.any fun r => r.1 ≤ n && n ≤ r.2)

/-- How a character is written inside quotes `q`. -/
def escapeChar (q : Char) (c : Char) : List Char :=
  if c = q || c = '\\' then ['\\', c]
  else if isPrint c then [c]
  else match c with
    | '\x07' => ['\\', 'a']
    | '\x08' => ['\\', 'b']
    | '\x0c' => ['\\', 'f']
    | '\n' => ['\\', 'n']
    | '\r' => ['\\', 'r']
    | '\t' => ['\\', 't']
    | '\x0b' => ['\\', 'v']
    | _ =>
      let n := c.toNat
      if n < 0x80 then '\\' :: 'x' :: hexDigits 2 n
      else if n < 0x10000 then '\\' :: 'u' :: hexDigits 4 n
      else '\\' :: 'U' :: hexDigits 8 n

/-- A text between double quotes. -/
def quote (s : String) : String :=
  String.ofList ('"' :: s.toList.flatMap (escapeChar '"') ++ ['"'])

/-- A character between single quotes. -/
def quoteChar (c : Char) : String :=
  String.ofList ('\'' :: escapeChar '\'' c ++ ['\''])

/-- The character at the front of an octet sequence between single quotes; an octet that starts
no well-formed character is written `'\xNN'`. -/
def quoteOctets (b : UInt8) (rest : List UInt8) : String :=
  if Utf8.wellFormedAt b rest then quoteChar (Utf8.next b rest).1
  else String.ofList ('\'' :: '\\' :: 'x' :: hexDigits 2 b.toNat ++ ['\''])

end TestDispatch.Quoted
