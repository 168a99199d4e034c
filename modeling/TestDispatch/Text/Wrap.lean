import TestDispatch.Text.Width
/-!
# Wrapping text at word boundaries

`Wrap.soft s n` fits a text into lines of at most `n` columns without breaking words where it
can. A text of at most `n` characters is kept as it is (tabs become four blanks first).
Otherwise each paragraph (paragraphs are separated by a blank line) is cut into words at white
space and the words are laid out greedily, one blank between two words on a line. A word that
does not fit starts a new line, and a word wider than a whole line is cut wherever the line is
full.
-/

namespace TestDispatch.Wrap

/-- Whether a character is white space. -/
def isSpace (c : Char) : Bool :=
  c = ' ' || c = '\t' || c = '\n' || c = '\r' || c.toNat = 0x0B || c.toNat = 0x0C ||
    c.toNat = 0x85 || c.toNat = 0xA0 || c.toNat = 0x1680 || (0x2000 ≤ c.toNat && c.toNat ≤ 0x200A) ||
    c.toNat = 0x2028 || c.toNat = 0x2029 || c.toNat = 0x202F || c.toNat = 0x205F || c.toNat = 0x3000

/-- The words of a text: its runs of characters other than white space. -/
def words (cs : List Char) : List (List Char) :=
  ((cs.splitBy fun a b => isSpace a == isSpace b).filter fun run =>
    match run with
    | c :: _ => !isSpace c
    | [] => false)

/-- Lays out the characters of a word one by one from column `lineLen`, starting a new line
whenever the current one is full. -/
def hard (width : Nat) : List Char → String → Nat → String × Nat
  | [], out, lineLen => (out, lineLen)
  | c :: rest, out, lineLen =>
    let (out, lineLen) := if lineLen = width then (out.push '\n', 0) else (out, lineLen)
    hard width rest (out.push c) (lineLen + Width.ofChar c)

/-- Lays out the words of a paragraph after `out`, the current line being `lineLen` wide. -/
def layout (width : Nat) : List (List Char) → String → Nat → String
  | [], out, _ => out
  | w :: rest, out, lineLen =>
    let spacing := if lineLen > 0 then 1 else 0
    let wordLen := Width.ofChars w
    let (out, lineLen) :=
      if lineLen + spacing + wordLen ≤ width then
        ((if spacing = 1 then out.push ' ' else out) ++ String.ofList w, lineLen + spacing + wordLen)
      else
        let out := if lineLen > 0 then out.push '\n' else out
        if wordLen ≤ width then (out ++ String.ofList w, wordLen) else hard width w out 0
    if lineLen = width && !rest.isEmpty then layout width rest (out.push '\n') 0
    else layout width rest out lineLen

/-- A text wrapped softly to lines of at most `width` columns. -/
def soft (s : String) (width : Nat) : String :=
  if width = 0 then ""
  else
    let s := s.replace "\t" "    "
    if s.length ≤ width then s
    else "\n\n".intercalate ((s.splitOn "\n\n").map fun p => layout width (words p.toList) "" 0)

end TestDispatch.Wrap
