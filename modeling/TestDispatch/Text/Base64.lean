/-!
# Base64

The standard base64 alphabet with `=` padding. Line breaks (CR and LF) inside the text are
skipped; any other character outside the alphabet, a missing or misplaced `=`, or a length that
is not a whole number of four-character groups makes the text unreadable.
-/

namespace TestDispatch.Base64

/-- The value of a character of the alphabet. -/
def sextet (c : Char) : Option Nat :=
  if 'A' ≤ c && c ≤ 'Z' then some (c.toNat - 65)
  else if 'a' ≤ c && c ≤ 'z' then some (c.toNat - 71)
  else if c.isDigit then some (c.toNat + 4)
  else if c = '+' then some 62
  else if c = '/' then some 63
  else none

/-- The octets of one group of four characters; the last group may end in `=` or `==`. -/
def group (a b c d : Char) (last : Bool) : Option (List UInt8) := do
  let va ← sextet a
  let vb ← sextet b
  let n := va * 64 + vb
  if c = '=' then
    guard (last && d = '=')
    pure [UInt8.ofNat (n / 16 % 256)]
  else
    let vc ← sextet c
    let n := n * 64 + vc
    if d = '=' then
      guard last
      pure [UInt8.ofNat (n / 1024 % 256), UInt8.ofNat (n / 4 % 256)]
    else
      let vd ← sextet d
      let n := n * 64 + vd
      pure [UInt8.ofNat (n / 65536 % 256), UInt8.ofNat (n / 256 % 256), UInt8.ofNat (n % 256)]

/-- Decodes groups of four characters. -/
def groups : List Char → Option (List UInt8)
  | [] => some []
  | a :: b :: c :: d :: rest => do
    let here ← group a b c d rest.isEmpty
    let more ← groups rest
    pure (here ++ more)
  | _ => none

/-- The octets a base64 text encodes. -/
def decode (text : String) : Option (List UInt8) :=
  groups (text.toList.filter fun c => c ≠ '\r' && c ≠ '\n')

end TestDispatch.Base64
