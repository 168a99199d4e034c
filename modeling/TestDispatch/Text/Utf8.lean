/-!
# UTF-8 octets and characters

Reading a sequence of octets as characters the forgiving way: every octet that does not start a
well-formed UTF-8 sequence (RFC 3629) stands for one replacement character U+FFFD, and reading
goes on with the next octet. Writing a character gives its UTF-8 octets.

`Utf8.decode` reads a whole octet sequence, `Utf8.encode` writes a text.
-/

namespace TestDispatch.Utf8

/-- The character that stands for an octet which starts no well-formed sequence. -/
def replacement : Char := '\uFFFD'

/-- A continuation octet, `%x80-BF`. -/
def isTail (b : UInt8) : Bool := 0x80 ≤ b && b ≤ 0xBF

/-- The low six bits of a continuation octet. -/
def tailBits (b : UInt8) : Nat := (b &&& 0x3F).toNat

/-- The character that a well-formed sequence of `n + 1` octets encodes, from the lead octet's
payload and the continuation octets. -/
def combine (lead : Nat) (tails : List UInt8) : Char :=
  Char.ofNat (tails.foldl (fun acc t => acc * 64 + tailBits t) lead)

/-- Reads the character at the front of `b :: rest`: the character and how many octets of `rest`
belong to it (0 to 3). An octet that starts no well-formed sequence reads as `replacement` and
takes no octet of `rest`. -/
def lead (b : UInt8) (rest : List UInt8) : Char × Nat :=
  if b < 0x80 then (Char.ofNat b.toNat, 0)
  else if 0xC2 ≤ b && b ≤ 0xDF then
    match rest with
    | t :: _ => if isTail t then (combine (b &&& 0x1F).toNat [t], 1) else (replacement, 0)
    | [] => (replacement, 0)
  else if 0xE0 ≤ b && b ≤ 0xEF then
    let lo : UInt8 := if b = 0xE0 then 0xA0 else 0x80
    let hi : UInt8 := if b = 0xED then 0x9F else 0xBF
    match rest with
    | t1 :: t2 :: _ =>
      if lo ≤ t1 && t1 ≤ hi && isTail t2 then (combine (b &&& 0x0F).toNat [t1, t2], 2)
      else (replacement, 0)
    | _ => (replacement, 0)
  else if 0xF0 ≤ b && b ≤ 0xF4 then
    let lo : UInt8 := if b = 0xF0 then 0x90 else 0x80
    let hi : UInt8 := if b = 0xF4 then 0x8F else 0xBF
    match rest with
    | t1 :: t2 :: t3 :: _ =>
      if lo ≤ t1 && t1 ≤ hi && isTail t2 && isTail t3 then
        (combine (b &&& 0x07).toNat [t1, t2, t3], 3)
      else (replacement, 0)
    | _ => (replacement, 0)
  else (replacement, 0)

/-- The character at the front of a non-empty octet sequence, and the octets after it. -/
def next (b : UInt8) (rest : List UInt8) : Char × List UInt8 :=
  let (c, n) := lead b rest
  (c, rest.drop n)

theorem length_next_le (b : UInt8) (rest : List UInt8) : (next b rest).2.length ≤ rest.length := by
  simp [next]

/-- Every character of an octet sequence, read as UTF-8 with replacement. -/
def decode : List UInt8 → List Char
  | [] => []
  | b :: rest =>
    have : (next b rest).2.length < rest.length + 1 := Nat.lt_succ_of_le (length_next_le b rest)
    (next b rest).1 :: decode (next b rest).2
termination_by bs => bs.length

/-- The text that an octet sequence reads as. -/
def decodeString (bs : List UInt8) : String := String.ofList (decode bs)

/-- The UTF-8 octets of a character. -/
def encodeChar (c : Char) : List UInt8 := String.utf8EncodeChar c

/-- The UTF-8 octets of a text. -/
def encode (s : String) : List UInt8 := s.toList.flatMap encodeChar

/-- Whether the octets at the front of a sequence form a well-formed character, so that the
character read there stands for them and is no replacement. -/
def wellFormedAt (b : UInt8) (rest : List UInt8) : Bool :=
  b < 0x80 || (lead b rest).2 ≠ 0

end TestDispatch.Utf8
