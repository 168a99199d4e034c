import TestDispatch.Proofs.Text.Utf8
import TestDispatch.Json.Reader
import TestDispatch.Json.Writer
/-!
# The reader reads back what the writer writes

`Value.write` writes a value as compact JSON text, and `readFirst` and `readWhole` read text
octet by octet with the machine of `Machine.step`. Every value without numbers is read back from
its written text, whether `<`, `>` and `&` are escaped or not:

* `readFirst_write`: as the first value of a stream, the octets after the text left unread;
* `readWhole_write`: as a whole text.

A number is written as its literal, which the writer takes as it is, so numbers are left out.

The argument follows the text. `Machine.Feeds m xs m'` says that the octets `xs` take the
machine from `m` to `m'`, for both ways of reading and whatever follows; it composes along the
text (`Feeds.append`), and one octet is one step of the machine (`Feeds.byte`). A character of a
string is written in one of three forms (`escapedOctets_cases`): the machine keeps the octets of
each in the string body (`feeds_escapedOctets`) and `unescape` gives the character back
(`unescape_escapedOctets`). A value is `Readable` when its text takes the machine, inside any
open arrays and objects, to the value closed into them; literals and strings are, and so are
arrays and objects of readable values, hence every value without numbers
(`readable_of_numberFree`).
-/

namespace TestDispatch.Json

/-! ## Reading a piece of text -/

/-- A lexeme in the middle of a value: nothing is whole yet, and no number stands that the next
octet could end. -/
def Lexeme.Pending : Lexeme → Prop
  | .done _ => False
  | .number _ _ => False
  | _ => True

namespace Machine

/-- How a stream reader goes on from `m` over `ys`: a value already whole is the first value. -/
def readOn (m : Machine) (ys : List UInt8) : Except ReadError (Value × List UInt8) :=
  match m.lexeme with
  | .done v => .ok (v, ys)
  | _ => m.runFirst ys

/-- Reading the octets `xs` takes the machine from `m` to `m'`, whatever follows them, when a
whole text is read and when a stream's first value is read. -/
def Feeds (m : Machine) (xs : List UInt8) (m' : Machine) : Prop :=
  ∀ ys, m.runWhole (xs ++ ys) = m'.runWhole ys ∧ m.readOn (xs ++ ys) = m'.readOn ys

theorem Feeds.nil (m : Machine) : m.Feeds [] m := fun _ => ⟨rfl, rfl⟩

theorem Feeds.append {m₁ m₂ m₃ : Machine} {xs ys : List UInt8} (h₁ : m₁.Feeds xs m₂)
    (h₂ : m₂.Feeds ys m₃) : m₁.Feeds (xs ++ ys) m₃ := by
  intro zs
  rw [List.append_assoc]
  exact ⟨(h₁ _).1.trans (h₂ zs).1, (h₁ _).2.trans (h₂ zs).2⟩

/-- One octet that a pending machine takes, whatever follows it. -/
theorem Feeds.byte {m m' : Machine} {b : UInt8} (hstep : ∀ rest, m.step b rest = .ok m')
    (hp : m.lexeme.Pending) : m.Feeds [b] m' := by
  intro ys
  have hends : m.endsNumber? b = none := by
    unfold endsNumber?
    split
    · rename_i hlex
      rw [hlex] at hp
      exact hp.elim
    · rfl
  have hfirst : m.readOn (b :: ys) = m.runFirst (b :: ys) := by
    unfold readOn
    split
    · rename_i hlex
      rw [hlex] at hp
      exact hp.elim
    · rfl
  refine ⟨by simp only [List.cons_append, List.nil_append, runWhole, hstep], ?_⟩
  rw [List.cons_append, List.nil_append, hfirst]
  simp only [runFirst, hends, hstep]
  rfl

/-- One octet and then more; the machine after the octet is given, as the octets that follow
cannot tell it. -/
theorem Feeds.cons {m m'' : Machine} (m' : Machine) {b : UInt8} {xs : List UInt8}
    (hstep : ∀ rest, m.step b rest = .ok m') (hp : m.lexeme.Pending) (h : m'.Feeds xs m'') :
    m.Feeds (b :: xs) m'' :=
  (Feeds.byte hstep hp).append h

/-- The first value of a stream is the one whose octets take the machine from the start to it,
whatever follows. -/
theorem readFirst_of_feeds {xs : List UInt8} {v : Value} (h : start.Feeds xs (close [] v))
    (ys : List UInt8) : readFirst (xs ++ ys) = .ok (v, ys) :=
  (h ys).2

theorem readWhole_of_feeds {xs : List UInt8} {v : Value} (h : start.Feeds xs (close [] v)) :
    readWhole xs = .ok v := by
  have hwhole := (h []).1
  rw [List.append_nil] at hwhole
  exact hwhole

/-- A whole text whose octets end inside a string is cut short, whatever is open around it. -/
theorem readWhole_of_feeds_str {xs : List UInt8} {st : List Frame} {isKey : Bool}
    {body : List UInt8} (h : start.Feeds xs ⟨st, .str isKey body⟩) :
    readWhole xs = .error .truncated := by
  have hwhole := (h []).1
  rw [List.append_nil] at hwhole
  rw [readWhole, hwhole]
  cases st <;> rfl

@[simp] theorem close_array (items : List Value) (st : List Frame) (v : Value) :
    close (.array items :: st) v = ⟨.array (v :: items) :: st, .afterValue⟩ := rfl

@[simp] theorem close_member (ms : List (String × Value)) (k : String) (st : List Frame)
    (v : Value) :
    close (.object ms (some k) :: st) v = ⟨.object ((k, v) :: ms) none :: st, .afterValue⟩ := rfl

end Machine

/-! ## How a character is written -/

/-- The octets that one character of a string is written as. -/
def escapedOctets (html : Bool) (c : Char) : List UInt8 :=
  (escapeChar html c).flatMap Utf8.encodeChar

/-- The octet of a lower-case hexadecimal digit. -/
def hexOctet (k : Nat) : UInt8 := UInt8.ofNat (Quoted.hexDigit k).toNat

/-- The escapes by a letter or by the character itself: the octet after the backslash, and the
character it stands for. -/
def letterEscapes : List (UInt8 × Char) :=
  [(0x22, '"'), (0x5C, '\\'), (0x62, '\x08'), (0x66, '\x0c'), (0x6E, '\n'), (0x72, '\r'),
    (0x74, '\t')]

/-- A plain octet of a string body: no quote, no backslash, no control character. -/
def Plain (b : UInt8) : Prop := b ≠ 0x22 ∧ b ≠ 0x5C ∧ 0x20 ≤ b.toNat

theorem hexDigits_four (n : Nat) : Quoted.hexDigits 4 n =
    [Quoted.hexDigit (n / 4096 % 16), Quoted.hexDigit (n / 256 % 16),
      Quoted.hexDigit (n / 16 % 16), Quoted.hexDigit (n % 16)] := by
  simp [Quoted.hexDigits, List.range_succ]

/-- A written hexadecimal digit is one octet, which the reader takes for that digit. -/
theorem hexDigit_octet : ∀ k < 16, Utf8.encodeChar (Quoted.hexDigit k) = [hexOctet k] ∧
    isHexOctet (hexOctet k) = true ∧ hexValue (hexOctet k) = k := by
  decide

theorem hexDigit_mod_octet (k : Nat) :
    Utf8.encodeChar (Quoted.hexDigit (k % 16)) = [hexOctet (k % 16)] ∧
      isHexOctet (hexOctet (k % 16)) = true ∧ hexValue (hexOctet (k % 16)) = k % 16 :=
  hexDigit_octet _ (Nat.mod_lt _ (by decide))

/-- A character written by its code: backslash, `u` and four digits. -/
theorem flatMap_u4 (n : Nat) : ('\\' :: 'u' :: Quoted.hexDigits 4 n).flatMap Utf8.encodeChar =
    [0x5C, 0x75, hexOctet (n / 4096 % 16), hexOctet (n / 256 % 16), hexOctet (n / 16 % 16),
      hexOctet (n % 16)] := by
  rw [hexDigits_four]
  simp only [List.flatMap_cons, List.flatMap_nil, (hexDigit_mod_octet _).1]
  rfl

/-- The characters a string writes as themselves are plain octets. -/
theorem plain_of_encodeChar {c : Char} (hq : c ≠ '"') (hb : c ≠ '\\') (hlow : 0x20 ≤ c.toNat) :
    ∀ b ∈ Utf8.encodeChar c, Plain b := by
  intro b hmem
  by_cases hascii : c.toNat < 0x80
  · rw [Utf8.encodeChar, Utf8.utf8EncodeChar_ascii hascii, List.mem_singleton] at hmem
    subst hmem
    have hval : (UInt8.ofNat c.toNat).toNat = c.toNat := Utf8.toNat_ofNat_lt (by omega)
    have hq' : c.toNat ≠ 0x22 := fun h => hq (by rw [← Char.ofNat_toNat c, h])
    have hb' : c.toNat ≠ 0x5C := fun h => hb (by rw [← Char.ofNat_toNat c, h])
    refine ⟨fun h => hq' ?_, fun h => hb' ?_, by omega⟩
    · simpa [hval] using congrArg UInt8.toNat h
    · simpa [hval] using congrArg UInt8.toNat h
  · have hhigh := Utf8.le_of_mem_utf8EncodeChar (by omega) hmem
    refine ⟨fun h => ?_, fun h => ?_, by omega⟩ <;> subst h <;> simp at hhigh

/-- Each character is written in one of three forms: a backslash and a letter (or the character
itself), a backslash and four hexadecimal digits of a code below the surrogates, or its own
octets, all plain. -/
theorem escapedOctets_cases (html : Bool) (c : Char) :
    (∃ e, escapedOctets html c = [0x5C, e] ∧ (e, c) ∈ letterEscapes) ∨
    (c.toNat < 0xD800 ∧ escapedOctets html c = [0x5C, 0x75, hexOctet (c.toNat / 4096 % 16),
      hexOctet (c.toNat / 256 % 16), hexOctet (c.toNat / 16 % 16), hexOctet (c.toNat % 16)]) ∨
    (escapedOctets html c = Utf8.encodeChar c ∧ ∀ b ∈ Utf8.encodeChar c, Plain b) := by
  unfold escapedOctets escapeChar
  split
  · exact .inl ⟨0x22, by decide, by decide⟩
  · exact .inl ⟨0x5C, by decide, by decide⟩
  · exact .inl ⟨0x62, by decide, by decide⟩
  · exact .inl ⟨0x66, by decide, by decide⟩
  · exact .inl ⟨0x6E, by decide, by decide⟩
  · exact .inl ⟨0x72, by decide, by decide⟩
  · exact .inl ⟨0x74, by decide, by decide⟩
  · rename_i hq hb _ _ _ _ _
    dsimp only
    split
    · rename_i hctl
      simp only [Bool.or_eq_true, decide_eq_true_eq] at hctl
      exact .inr (.inl ⟨by omega, flatMap_u4 _⟩)
    · rename_i hctl
      split
      · rename_i hhtml
        simp only [Bool.and_eq_true, Bool.or_eq_true, decide_eq_true_eq] at hhtml
        have hlow : c.toNat < 0xD800 := by
          rcases hhtml.2 with (rfl | rfl) | rfl <;> decide
        exact .inr (.inl ⟨hlow, flatMap_u4 _⟩)
      · simp only [Bool.or_eq_true, decide_eq_true_eq] at hctl
        exact .inr (.inr ⟨by simp, plain_of_encodeChar hq hb (by omega)⟩)

theorem encode_writeString (html : Bool) (s : String) :
    Utf8.encode (writeString html s) = 0x22 :: s.toList.flatMap (escapedOctets html) ++ [0x22] := by
  have hq : Utf8.encodeChar '"' = [0x22] := by decide
  rw [writeString, Utf8.encode_ofList, List.cons_append, List.flatMap_cons, List.flatMap_append,
    List.flatMap_assoc, List.flatMap_singleton, hq]
  rfl

/-! ## Escapes resolved -/

theorem unescape_letter {e : UInt8} {c : Char} (he : (e, c) ∈ letterEscapes) (rest : List UInt8) :
    unescape (0x5C :: e :: rest) = c :: unescape rest := by
  simp only [letterEscapes, List.mem_cons, Prod.mk.injEq, List.not_mem_nil, or_false] at he
  rcases he with ⟨rfl, rfl⟩ | ⟨rfl, rfl⟩ | ⟨rfl, rfl⟩ | ⟨rfl, rfl⟩ | ⟨rfl, rfl⟩ | ⟨rfl, rfl⟩ |
    ⟨rfl, rfl⟩ <;> simp [unescape]

/-- A `\u` escape of no surrogate is its code unit, whatever follows it. -/
theorem unescape_u4 (a b c d : UInt8) (rest : List UInt8)
    (hu : ¬ (0xD800 ≤ hex4 a b c d ∧ hex4 a b c d < 0xDC00)) :
    unescape (0x5C :: 0x75 :: a :: b :: c :: d :: rest) =
      unitChar (hex4 a b c d) :: unescape rest := by
  by_cases hr : ∃ a' b' c' d' rest', rest = 0x5C :: 0x75 :: a' :: b' :: c' :: d' :: rest'
  · -- a second escape follows: it makes no surrogate pair with this one
    obtain ⟨a', b', c', d', rest', rfl⟩ := hr
    rw [unescape.eq_2, if_neg (by simp only [Bool.and_eq_true, decide_eq_true_eq]; omega)]
  · exact unescape.eq_3 a b c d rest fun a' b' c' d' rest' h => hr ⟨a', b', c', d', rest', h⟩

theorem unescape_plain {b : UInt8} (hb : b ≠ 0x5C) (rest : List UInt8) :
    unescape (b :: rest) = (Utf8.next b rest).1 :: unescape (Utf8.next b rest).2 :=
  unescape.eq_10 b rest (fun _ _ _ _ _ _ _ _ _ h _ => hb h) (fun _ _ _ _ _ h _ => hb h)
    (fun _ _ h _ => hb h)

/-- Resolving the escapes of a written character gives it back, whatever follows. -/
theorem unescape_escapedOctets (html : Bool) (c : Char) (rest : List UInt8) :
    unescape (escapedOctets html c ++ rest) = c :: unescape rest := by
  rcases escapedOctets_cases html c with ⟨e, he, hmem⟩ | ⟨hlow, he⟩ | ⟨he, hplain⟩
  · rw [he]
    exact unescape_letter hmem rest
  · -- the four digits give the code back, and a code below the surrogates is the character
    have hval : hex4 (hexOctet (c.toNat / 4096 % 16)) (hexOctet (c.toNat / 256 % 16))
        (hexOctet (c.toNat / 16 % 16)) (hexOctet (c.toNat % 16)) = c.toNat := by
      simp only [hex4, (hexDigit_mod_octet _).2.2]
      omega
    rw [he, List.cons_append, List.cons_append, List.cons_append, List.cons_append,
      List.cons_append, List.cons_append, List.nil_append, unescape_u4 _ _ _ _ _ (by omega),
      hval, unitChar, if_neg (by simp only [Bool.and_eq_true, decide_eq_true_eq]; omega),
      Char.ofNat_toNat]
  · obtain ⟨b, bs, hbs⟩ := List.exists_cons_of_ne_nil (Utf8.utf8EncodeChar_ne_nil c)
    have hb : b ≠ 0x5C := (hplain b (by simp [Utf8.encodeChar, hbs])).2.1
    rw [he, Utf8.encodeChar, hbs, List.cons_append, unescape_plain hb,
      Utf8.next_utf8EncodeChar hbs]

/-- Resolving the escapes of a written string body gives its characters back. -/
theorem unescape_chars (html : Bool) (cs : List Char) :
    unescape (cs.flatMap (escapedOctets html)) = cs := by
  induction cs with
  | nil => simp [unescape]
  | cons c cs ih => rw [List.flatMap_cons, unescape_escapedOctets, ih]

/-! ## The machine inside a string -/

namespace Machine

theorem feeds_plain {st : List Frame} {isKey : Bool} {body : List UInt8} {bs : List UInt8}
    (hbs : ∀ b ∈ bs, Plain b) :
    Feeds ⟨st, .str isKey body⟩ bs ⟨st, .str isKey (bs.reverse ++ body)⟩ := by
  induction bs generalizing body with
  | nil => exact Feeds.nil _
  | cons b bs ih =>
    obtain ⟨hq, hbs', hlow⟩ := hbs b (List.mem_cons_self ..)
    have hlt : ¬ b < 0x20 := fun h => by
      have := UInt8.lt_iff_toNat_lt.mp h
      simp at this
      omega
    rw [List.reverse_cons, List.append_assoc, List.singleton_append]
    exact .cons _ (fun _ => by simp [step, hq, hbs', hlt]) trivial
      (ih fun x hx => hbs x (List.mem_cons_of_mem _ hx))

theorem feeds_letter {st : List Frame} {isKey : Bool} {body : List UInt8} {e : UInt8} {c : Char}
    (he : (e, c) ∈ letterEscapes) :
    Feeds ⟨st, .str isKey body⟩ [0x5C, e] ⟨st, .str isKey (e :: 0x5C :: body)⟩ := by
  refine .cons ⟨st, .escape isKey (0x5C :: body)⟩ (fun _ => by simp [step]) trivial
    (.cons _ (fun _ => ?_) trivial (.nil _))
  simp only [letterEscapes, List.mem_cons, Prod.mk.injEq, List.not_mem_nil, or_false] at he
  rcases he with ⟨rfl, -⟩ | ⟨rfl, -⟩ | ⟨rfl, -⟩ | ⟨rfl, -⟩ | ⟨rfl, -⟩ | ⟨rfl, -⟩ | ⟨rfl, -⟩ <;>
    simp [step]

theorem feeds_u4 {st : List Frame} {isKey : Bool} {body : List UInt8} {a b c d : UInt8}
    (ha : isHexOctet a = true) (hb : isHexOctet b = true) (hc : isHexOctet c = true)
    (hd : isHexOctet d = true) :
    Feeds ⟨st, .str isKey body⟩ [0x5C, 0x75, a, b, c, d]
      ⟨st, .str isKey (d :: c :: b :: a :: 0x75 :: 0x5C :: body)⟩ := by
  refine .cons ⟨st, .escape isKey (0x5C :: body)⟩ (fun _ => by simp [step]) trivial ?_
  refine .cons ⟨st, .unicode isKey (0x75 :: 0x5C :: body) 0⟩ (fun _ => by simp [step]) trivial ?_
  refine .cons ⟨st, .unicode isKey (a :: 0x75 :: 0x5C :: body) 1⟩ (fun _ => by simp [step, ha])
    trivial ?_
  refine .cons ⟨st, .unicode isKey (b :: a :: 0x75 :: 0x5C :: body) 2⟩ (fun _ => by simp [step, hb])
    trivial ?_
  refine .cons ⟨st, .unicode isKey (c :: b :: a :: 0x75 :: 0x5C :: body) 3⟩
    (fun _ => by simp [step, hc]) trivial ?_
  exact .cons _ (fun _ => by simp [step, hd]) trivial (.nil _)

/-- An opening quote where a value may begin, then plain octets, leave the machine inside a
string that holds those octets. -/
theorem feeds_open_string {st : List Frame} {ec : Bool} {bs : List UInt8}
    (hbs : ∀ b ∈ bs, Plain b) :
    Feeds ⟨st, .value ec⟩ (0x22 :: bs) ⟨st, .str false (bs.reverse ++ [])⟩ :=
  .cons ⟨st, .str false []⟩ (fun _ => by simp [step, valueStep, isBlank]) trivial (feeds_plain hbs)

/-- The machine keeps the octets of every written character in the string body. -/
theorem feeds_escapedOctets (html : Bool) (c : Char) {st : List Frame} {isKey : Bool}
    {body : List UInt8} :
    Feeds ⟨st, .str isKey body⟩ (escapedOctets html c)
      ⟨st, .str isKey ((escapedOctets html c).reverse ++ body)⟩ := by
  rcases escapedOctets_cases html c with ⟨e, he, hmem⟩ | ⟨-, he⟩ | ⟨he, hplain⟩
  · rw [he]
    exact feeds_letter hmem
  · rw [he]
    exact feeds_u4 (hexDigit_mod_octet _).2.1 (hexDigit_mod_octet _).2.1
      (hexDigit_mod_octet _).2.1 (hexDigit_mod_octet _).2.1
  · rw [he]
    exact feeds_plain hplain

theorem feeds_chars (html : Bool) (cs : List Char) {st : List Frame} {isKey : Bool}
    {body : List UInt8} :
    Feeds ⟨st, .str isKey body⟩ (cs.flatMap (escapedOctets html))
      ⟨st, .str isKey ((cs.flatMap (escapedOctets html)).reverse ++ body)⟩ := by
  induction cs generalizing body with
  | nil => exact .nil _
  | cons c cs ih =>
    rw [List.flatMap_cons, List.reverse_append, List.append_assoc]
    exact (feeds_escapedOctets html c).append ih

/-- A written string, where a value may begin, is read as that string and closed into the open
arrays and objects. -/
theorem feeds_string (html : Bool) (s : String) (st : List Frame) (ec : Bool) :
    Feeds ⟨st, .value ec⟩ (Utf8.encode (writeString html s)) (close st (.string s)) := by
  rw [encode_writeString]
  refine .cons ⟨st, .str false []⟩ (fun _ => by simp [step, valueStep, isBlank]) trivial ?_
  refine (feeds_chars html s.toList).append (.byte (fun _ => ?_) trivial)
  simp [step, unescape_chars]

/-- A written string, where a member name may begin, becomes the name of the member read next. -/
theorem feeds_key (html : Bool) (k : String) (ms : List (String × Value)) (st : List Frame)
    (ec : Bool) :
    Feeds ⟨.object ms none :: st, .key ec⟩ (Utf8.encode (writeString html k))
      ⟨.object ms (some k) :: st, .colon⟩ := by
  rw [encode_writeString]
  refine .cons ⟨.object ms none :: st, .str true []⟩ (fun _ => by simp [step, isBlank]) trivial ?_
  refine (feeds_chars html k.toList).append (.byte (fun _ => ?_) trivial)
  simp [step, unescape_chars]

end Machine

/-! ## Values -/

/-- A member followed by more is written with a comma after it. -/
theorem writeMembers_cons (html : Bool) (k : String) (v : Value) {ms : List (String × Value)}
    (hms : ms ≠ []) :
    Value.writeMembers html ((k, v) :: ms) =
      writeString html k ++ ":" ++ v.write html ++ "," ++ Value.writeMembers html ms := by
  obtain ⟨m, ms, rfl⟩ := List.exists_cons_of_ne_nil hms
  rw [Value.writeMembers]
  exact hms

/-- Members written one list after another are separated by one comma. -/
theorem writeMembers_append (html : Bool) {ms ns : List (String × Value)} (hms : ms ≠ [])
    (hns : ns ≠ []) :
    Value.writeMembers html (ms ++ ns) =
      Value.writeMembers html ms ++ "," ++ Value.writeMembers html ns := by
  induction ms with
  | nil => contradiction
  | cons m ms ih =>
    obtain ⟨k, v⟩ := m
    have hne : ms ++ ns ≠ [] := by simp [hns]
    rw [List.cons_append, writeMembers_cons html k v hne]
    cases ms with
    | nil => simp only [List.nil_append, Value.writeMembers]
    | cons m' ms =>
      rw [ih (List.cons_ne_nil _ _), writeMembers_cons html k v (List.cons_ne_nil _ _)]
      simp only [String.append_assoc]

/-- The written text of `v`, read where a value may begin inside any open arrays and objects,
closes `v` into them. -/
def Readable (html : Bool) (v : Value) : Prop :=
  ∀ st ec, Machine.Feeds ⟨st, .value ec⟩ (Utf8.encode (v.write html)) (Machine.close st v)

namespace Machine

/-- The rest of a literal word, each letter one octet. -/
theorem feeds_literal (word : String) (st : List Frame) (c : Char) (cs : List Char)
    (hascii : ∀ x ∈ c :: cs, x.toNat < 0x80) :
    Feeds ⟨st, .literal word (c :: cs)⟩ ((c :: cs).map fun x => UInt8.ofNat x.toNat)
      (close st (literalValue word)) := by
  have hc : (UInt8.ofNat c.toNat).toNat = c.toNat :=
    Utf8.toNat_ofNat_lt (by have := hascii c (List.mem_cons_self ..); omega)
  induction cs generalizing c with
  | nil => exact .byte (fun _ => by simp [step, hc]) trivial
  | cons c' cs ih =>
    exact .cons ⟨st, .literal word (c' :: cs)⟩ (fun _ => by simp [step, hc]) trivial
      (ih c' (fun x hx => hascii x (List.mem_cons_of_mem _ hx)) (Utf8.toNat_ofNat_lt
        (by have := hascii c' (List.mem_cons_of_mem _ (List.mem_cons_self ..)); omega)))

/-- The elements of an array after its opening bracket, each readable, are added to it in
order. -/
theorem feeds_elements (html : Bool) (st : List Frame) :
    ∀ (v : Value) (vs acc : List Value) (ec : Bool), (∀ x ∈ v :: vs, Readable html x) →
      Feeds ⟨.array acc :: st, .value ec⟩ (Utf8.encode (Value.writeElements html (v :: vs)))
        ⟨.array ((v :: vs).reverse ++ acc) :: st, .afterValue⟩
  | v, [], acc, ec, h => by
    simpa [Value.writeElements] using h v (List.mem_cons_self ..) (.array acc :: st) ec
  | v, w :: ws, acc, ec, h => by
    have hcomma : Utf8.encode "," = [0x2C] := by decide
    simp only [Value.writeElements]
    rw [Utf8.encode_append, Utf8.encode_append, hcomma, List.append_assoc, List.singleton_append]
    have hrest := feeds_elements html st w ws (v :: acc) false
      (fun x hx => h x (List.mem_cons_of_mem _ hx))
    refine (h v (List.mem_cons_self ..) (.array acc :: st) ec).append
      (.cons ⟨.array (v :: acc) :: st, .value false⟩
        (fun _ => by simp [step, afterValueStep, isBlank]) trivial ?_)
    simpa using hrest

/-- One member after an object's opening brace or a comma: its name, the colon and its
readable value. -/
theorem feeds_member (html : Bool) (st : List Frame) (k : String) (v : Value)
    (acc : List (String × Value)) (ec : Bool) (hv : Readable html v) :
    Feeds ⟨.object acc none :: st, .key ec⟩
      (Utf8.encode (writeString html k ++ ":" ++ v.write html))
      ⟨.object ((k, v) :: acc) none :: st, .afterValue⟩ := by
  have hcolon : Utf8.encode ":" = [0x3A] := by decide
  rw [Utf8.encode_append, Utf8.encode_append, hcolon, List.append_assoc, List.singleton_append]
  refine (feeds_key html k acc st ec).append
    (.cons ⟨.object acc (some k) :: st, .value false⟩ (fun _ => by simp [step, isBlank]) trivial ?_)
  simpa using hv (.object acc (some k) :: st) false

/-- The members of an object after its opening brace, each value readable, are added to it in
order. -/
theorem feeds_members (html : Bool) (st : List Frame) :
    ∀ (m : String × Value) (ms acc : List (String × Value)) (ec : Bool),
      (∀ x ∈ m :: ms, Readable html x.2) →
      Feeds ⟨.object acc none :: st, .key ec⟩ (Utf8.encode (Value.writeMembers html (m :: ms)))
        ⟨.object ((m :: ms).reverse ++ acc) none :: st, .afterValue⟩
  | m, [], acc, ec, h => by
    obtain ⟨k, v⟩ := m
    have hone := feeds_member html st k v acc ec (h (k, v) (List.mem_cons_self ..))
    simp only [Value.writeMembers]
    simpa using hone
  | m, m' :: ms, acc, ec, h => by
    obtain ⟨k, v⟩ := m
    have hcomma : Utf8.encode "," = [0x2C] := by decide
    simp only [Value.writeMembers]
    rw [Utf8.encode_append, Utf8.encode_append (writeString html k ++ ":" ++ v.write html) ",",
      hcomma, List.append_assoc, List.singleton_append]
    have hrest := feeds_members html st m' ms ((k, v) :: acc) false
      (fun x hx => h x (List.mem_cons_of_mem _ hx))
    refine (feeds_member html st k v acc ec (h (k, v) (List.mem_cons_self ..))).append
      (.cons ⟨.object ((k, v) :: acc) none :: st, .key false⟩
        (fun _ => by simp [step, afterValueStep, isBlank]) trivial ?_)
    simpa using hrest

end Machine

/-- A literal is readable when its first octet starts its word where a value may begin and the
rest of its text is the rest of the word, one octet a letter. -/
theorem readable_literal (html : Bool) (v : Value) (word : String) (b : UInt8) (c : Char)
    (cs : List Char)
    (henc : Utf8.encode (v.write html) = b :: (c :: cs).map fun x => UInt8.ofNat x.toNat)
    (hstart : ∀ st ec rest, Machine.valueStep st ec b rest = .ok ⟨st, .literal word (c :: cs)⟩)
    (hascii : ∀ x ∈ c :: cs, x.toNat < 0x80) (hv : literalValue word = v) : Readable html v := by
  intro st ec
  rw [henc, ← hv]
  exact .cons _ (hstart st ec) trivial (Machine.feeds_literal word st c cs hascii)

theorem readable_null (html : Bool) : Readable html .null :=
  readable_literal html .null "null" 0x6E 'u' ['l', 'l'] (by simp only [Value.write]; decide)
    (fun _ _ _ => by simp [Machine.valueStep, isBlank, isDigitOctet]) (by simp)
    (by simp [literalValue])

theorem readable_bool (html : Bool) : ∀ b, Readable html (.bool b)
  | true => readable_literal html (.bool true) "true" 0x74 'r' ['u', 'e']
    (by simp only [Value.write]; decide)
    (fun _ _ _ => by simp [Machine.valueStep, isBlank, isDigitOctet]) (by simp)
    (by simp [literalValue])
  | false => readable_literal html (.bool false) "false" 0x66 'a' ['l', 's', 'e']
    (by simp only [Value.write]; decide)
    (fun _ _ _ => by simp [Machine.valueStep, isBlank, isDigitOctet]) (by simp)
    (by simp [literalValue])

theorem Readable.array {html : Bool} {items : List Value} (h : ∀ x ∈ items, Readable html x) :
    Readable html (.array items) := by
  intro st ec
  have hopen : Utf8.encode "[" = [0x5B] := by decide
  have hclose : Utf8.encode "]" = [0x5D] := by decide
  rw [Value.write, Utf8.encode_append, Utf8.encode_append, hopen, hclose, List.singleton_append]
  refine .cons ⟨.array [] :: st, .value true⟩
    (fun _ => by simp [Machine.step, Machine.valueStep, isBlank]) trivial ?_
  cases items with
  | nil =>
    have hnil : Utf8.encode (Value.writeElements html []) = [] := by
      simp only [Value.writeElements]
      decide
    rw [hnil]
    exact .byte (fun _ => by simp [Machine.step, Machine.valueStep, isBlank]) trivial
  | cons v vs =>
    refine (Machine.feeds_elements html st v vs [] true h).append (.byte (fun _ => ?_) trivial)
    simp [Machine.step, Machine.afterValueStep, isBlank]

theorem Readable.object {html : Bool} {ms : List (String × Value)}
    (h : ∀ x ∈ ms, Readable html x.2) : Readable html (.object ms) := by
  intro st ec
  have hopen : Utf8.encode "\x7b" = [0x7B] := by decide
  have hclose : Utf8.encode "\x7d" = [0x7D] := by decide
  rw [Value.write, Utf8.encode_append, Utf8.encode_append, hopen, hclose, List.singleton_append]
  refine .cons ⟨.object [] none :: st, .key true⟩
    (fun _ => by simp [Machine.step, Machine.valueStep, isBlank]) trivial ?_
  cases ms with
  | nil =>
    have hnil : Utf8.encode (Value.writeMembers html []) = [] := by
      simp only [Value.writeMembers]
      decide
    rw [hnil]
    exact .byte (fun _ => by simp [Machine.step, isBlank]) trivial
  | cons m ms =>
    refine (Machine.feeds_members html st m ms [] true h).append (.byte (fun _ => ?_) trivial)
    simp [Machine.step, Machine.afterValueStep, isBlank]

/-! ## Values without numbers -/

mutual

/-- Whether a value holds no number, at any depth. -/
def Value.numberFree : Value → Bool
  | .number _ => false
  | .array items => Value.elementsNumberFree items
  | .object ms => Value.membersNumberFree ms
  | _ => true

/-- Whether elements hold no number. -/
def Value.elementsNumberFree : List Value → Bool
  | [] => true
  | v :: vs => v.numberFree && Value.elementsNumberFree vs

/-- Whether the values of members hold no number. -/
def Value.membersNumberFree : List (String × Value) → Bool
  | [] => true
  | (_, v) :: ms => v.numberFree && Value.membersNumberFree ms

end

mutual

/-- Every value without numbers reads back from its written text, at any depth. -/
theorem readable_of_numberFree (html : Bool) : ∀ v : Value, v.numberFree = true → Readable html v
  | .null, _ => readable_null html
  | .bool b, _ => readable_bool html b
  | .number _, h => nomatch h
  | .string s, _ => Machine.feeds_string html s
  | .array items, h => Readable.array (elements_readable html items h)
  | .object ms, h => Readable.object (members_readable html ms h)

theorem elements_readable (html : Bool) :
    ∀ items : List Value, Value.elementsNumberFree items = true → ∀ x ∈ items, Readable html x
  | [], _, _, hx => nomatch hx
  | v :: vs, h, x, hx => by
    simp only [Value.elementsNumberFree, Bool.and_eq_true] at h
    cases hx with
    | head => exact readable_of_numberFree html v h.1
    | tail _ hx => exact elements_readable html vs h.2 x hx

theorem members_readable (html : Bool) :
    ∀ ms : List (String × Value), Value.membersNumberFree ms = true → ∀ x ∈ ms, Readable html x.2
  | [], _, _, hx => nomatch hx
  | (k, v) :: ms, h, x, hx => by
    simp only [Value.membersNumberFree, Bool.and_eq_true] at h
    cases hx with
    | head => exact readable_of_numberFree html v h.1
    | tail _ hx => exact members_readable html ms h.2 x hx

end

/-- The first value of a stream that starts with the written text of a value without numbers is
that value, and the octets after the text are left unread. -/
theorem readFirst_write {v : Value} (hv : v.numberFree = true) (html : Bool) (rest : List UInt8) :
    readFirst (Utf8.encode (v.write html) ++ rest) = .ok (v, rest) :=
  Machine.readFirst_of_feeds (readable_of_numberFree html v hv [] false) rest

/-- The written text of a value without numbers reads as that value. -/
theorem readWhole_write {v : Value} (hv : v.numberFree = true) (html : Bool) :
    readWhole (Utf8.encode (v.write html)) = .ok v :=
  Machine.readWhole_of_feeds (readable_of_numberFree html v hv [] false)

end TestDispatch.Json
