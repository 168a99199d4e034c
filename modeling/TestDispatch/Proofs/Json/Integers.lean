import TestDispatch.Proofs.Json.Roundtrip
/-!
# Reading back values whose numbers are integers

`Roundtrip` reads back every value without numbers. A number is read differently: the machine
knows that a number has ended only at the octet after it, which inside an array or an object is
the `,`, `]` or `}` that follows it. This module reads back every value whose numbers are the
literals of integers (`Number.ofInt`), as records and answers are written.

* `IntLiterals v`: every number in `v` is the literal of an integer; `simp` decides it for a
  value built of texts, flags and integers.
* `ReadableBefore html v`: the text of `v`, followed inside an array or object by an octet that
  ends a value there, takes the machine where closing `v` and then reading that octet would.
  Every readable value is readable before such an octet (`Readable.before`), and so is an
  integer literal (`readableBefore_int`); an array or object whose elements are readable before
  such an octet is readable (`Readable.array_before`, `Readable.object_before`).
* `readWhole_write_of_intLiterals`: the written text of an array or object whose numbers are
  integer literals reads as that value, also when a line break follows it.
-/

namespace TestDispatch.Json

/-- Every number of a value, at any depth, is the literal of an integer. -/
inductive IntLiterals : Value → Prop
  | null : IntLiterals .null
  | bool (b : Bool) : IntLiterals (.bool b)
  | int (i : Int) : IntLiterals (.number (Number.ofInt i))
  | string (s : String) : IntLiterals (.string s)
  | array {items : List Value} (h : ∀ x ∈ items, IntLiterals x) : IntLiterals (.array items)
  | object {members : List (String × Value)} (h : ∀ x ∈ members, IntLiterals x.2) :
      IntLiterals (.object members)

attribute [simp] IntLiterals.null IntLiterals.bool IntLiterals.int IntLiterals.string

namespace IntLiterals

@[simp] theorem of_int (i : Int) : IntLiterals (Value.int i) := .int i

@[simp] theorem array_iff {items : List Value} :
    IntLiterals (.array items) ↔ ∀ x ∈ items, IntLiterals x :=
  ⟨fun h => by cases h; assumption, .array⟩

@[simp] theorem object_iff {members : List (String × Value)} :
    IntLiterals (.object members) ↔ ∀ m ∈ members, IntLiterals m.2 :=
  ⟨fun h => by cases h; assumption, .object⟩

end IntLiterals

/-- The octets that end a value inside an array or an object. -/
def Closer (b : UInt8) : Prop := b = 0x2C ∨ b = 0x5D ∨ b = 0x7D

/-- The written text of `v`, read where a value may begin inside some open array or object and
followed by an octet that ends a value there, takes the machine where closing `v` and reading
that octet would. -/
def ReadableBefore (html : Bool) (v : Value) : Prop :=
  ∀ st ec b m', st ≠ [] → Closer b →
    (∀ rest, Machine.afterValueStep (Machine.close st v).stack b rest = .ok m') →
    Machine.Feeds ⟨st, .value ec⟩ (Utf8.encode (v.write html) ++ [b]) m'

namespace Machine

/-- One octet inside an open array or object, where no value is whole yet at the top level. -/
theorem Feeds.inner {m m' : Machine} {b : UInt8} (hst : m.stack ≠ [])
    (hnd : ∀ v, m.lexeme ≠ .done v) (hstep : ∀ rest, m.step b rest = .ok m') : m.Feeds [b] m' := by
  intro ys
  obtain ⟨stack, lexeme⟩ := m
  obtain ⟨f, st, rfl⟩ := List.exists_cons_of_ne_nil hst
  have hfirst : readOn ⟨f :: st, lexeme⟩ (b :: ys) = runFirst ⟨f :: st, lexeme⟩ (b :: ys) := by
    unfold readOn
    split
    · rename_i v hlex
      exact absurd hlex (hnd v)
    · rfl
  refine ⟨by simp only [List.cons_append, List.nil_append, runWhole, hstep], ?_⟩
  rw [List.cons_append, List.nil_append, hfirst]
  simp only [runFirst, endsNumber?, hstep]
  rfl

/-- Inside an open array or object, a value that is closed leaves the machine after it. -/
theorem close_inner {st : List Frame} (hst : st ≠ []) (v : Value) :
    (close st v).stack ≠ [] ∧ (close st v).lexeme = .afterValue := by
  obtain ⟨f, st, rfl⟩ := List.exists_cons_of_ne_nil hst
  cases f with
  | array items => simp [close]
  | object members pending => cases pending <;> simp [close]

/-- One octet inside an open array or object, and then more. -/
theorem Feeds.inner_cons {m m'' : Machine} (m' : Machine) {b : UInt8} {xs : List UInt8}
    (hst : m.stack ≠ []) (hnd : ∀ v, m.lexeme ≠ .done v) (hstep : ∀ rest, m.step b rest = .ok m')
    (h : m'.Feeds xs m'') : m.Feeds (b :: xs) m'' :=
  (Feeds.inner hst hnd hstep).append h

theorem step_afterValue {m : Machine} (h : m.lexeme = .afterValue) (b : UInt8)
    (rest : List UInt8) : m.step b rest = afterValueStep m.stack b rest := by
  simp only [step, h]

end Machine

open Machine

/-- A value that reads back closed reads back before any octet that ends it. -/
theorem Readable.before {html : Bool} {v : Value} (h : Readable html v) :
    ReadableBefore html v := by
  intro st ec b m' hst _ hstep
  obtain ⟨hstack, hlex⟩ := close_inner hst v
  refine (h st ec).append (Feeds.inner hstack (fun _ => by rw [hlex]; simp) fun rest => ?_)
  rw [step_afterValue hlex]
  exact hstep rest

/-! ## Integer literals -/

/-- The octet of an ASCII character. -/
def asciiOctet (c : Char) : UInt8 := UInt8.ofNat c.toNat

theorem toNat_asciiOctet {c : Char} (h : c.toNat < 0x80) : (asciiOctet c).toNat = c.toNat :=
  Utf8.toNat_ofNat_lt (by omega)

theorem ofNat_asciiOctet {c : Char} (h : c.toNat < 0x80) :
    Char.ofNat (asciiOctet c).toNat = c := by
  rw [toNat_asciiOctet h, Char.ofNat_toNat]

/-- A text of ASCII characters is one octet a character. -/
theorem encode_ascii {cs : List Char} (h : ∀ c ∈ cs, c.toNat < 0x80) :
    Utf8.encode (String.ofList cs) = cs.map asciiOctet := by
  rw [Utf8.encode_ofList]
  induction cs with
  | nil => rfl
  | cons c cs ih =>
    rw [List.flatMap_cons, List.map_cons, Utf8.encodeChar,
      Utf8.utf8EncodeChar_ascii (h c (List.mem_cons_self ..)),
      ih fun x hx => h x (List.mem_cons_of_mem _ hx)]
    rfl

theorem digit_toNat {c : Char} (h : c.isDigit) : 48 ≤ c.toNat ∧ c.toNat ≤ 57 := by
  simp only [Char.isDigit, Bool.and_eq_true, decide_eq_true_eq] at h
  exact ⟨h.1, h.2⟩

theorem isDigitOctet_of_toNat {b : UInt8} (h : 48 ≤ b.toNat ∧ b.toNat ≤ 57) :
    isDigitOctet b = true := by
  simp only [isDigitOctet, Bool.and_eq_true, decide_eq_true_eq, UInt8.le_iff_toNat_le]
  exact ⟨h.1, h.2⟩

/-- An octet outside a range of codes is none of the octets inside it. -/
theorem ne_of_toNat {b k : UInt8} (hk : k.toNat < b.toNat ∨ b.toNat < k.toNat) : b ≠ k := by
  rintro rfl
  omega

/-- A digit other than `0` begins a number's integer part where a value may begin. -/
theorem valueStep_digit {b : UInt8} (hb : 49 ≤ b.toNat ∧ b.toNat ≤ 57) (st : List Frame)
    (ec : Bool) (rest : List UInt8) :
    Machine.valueStep st ec b rest = .ok ⟨st, .number [b] .integer⟩ := by
  have hlow : ∀ k : UInt8, k.toNat < 49 → b ≠ k := fun k hk => ne_of_toNat (.inl (by omega))
  have hhigh : ∀ k : UInt8, 57 < k.toNat → b ≠ k := fun k hk => ne_of_toNat (.inr (by omega))
  simp [Machine.valueStep, isBlank, hlow 0x20 (by decide), hlow 0x09 (by decide),
    hlow 0x0A (by decide), hlow 0x0D (by decide), hhigh 0x5D (by decide), hhigh 0x7B (by decide),
    hhigh 0x5B (by decide), hlow 0x22 (by decide), hlow 0x2D (by decide), hlow 0x30 (by decide),
    isDigitOctet_of_toNat ⟨by omega, hb.2⟩]

/-- A digit other than `0` after a minus sign begins the integer part. -/
theorem signNext_digit {b : UInt8} (hb : 49 ≤ b.toNat ∧ b.toNat ≤ 57) :
    NumberPhase.sign.next b = some .integer := by
  have h0 : b ≠ 0x30 := ne_of_toNat (.inl (by simp; omega))
  simp [NumberPhase.next, h0, isDigitOctet_of_toNat ⟨by omega, hb.2⟩]

/-- The octet of a digit character other than `0`. -/
theorem asciiOctet_digit {c : Char} (h : c.isDigit) (h0 : c ≠ '0') :
    49 ≤ (asciiOctet c).toNat ∧ (asciiOctet c).toNat ≤ 57 := by
  have hc := digit_toNat h
  have hne : c.toNat ≠ 48 := fun h48 => h0 (Char.toNat_inj.mp h48)
  rw [toNat_asciiOctet (by omega)]
  omega

/-- The decimal digits of a positive number start with a digit other than `0`. -/
theorem toDigits_head (n : Nat) (hn : 0 < n) :
    ∃ d ds, Nat.toDigits 10 n = d :: ds ∧ d ≠ '0' := by
  induction n using Nat.strongRecOn with
  | _ n ih =>
    rw [Nat.toDigits_eq_if (by decide)]
    split
    · exact ⟨_, [], rfl, by simpa using Nat.pos_iff_ne_zero.mp hn⟩
    · obtain ⟨d, ds, hds, hd⟩ := ih (n / 10) (by omega) (by omega)
      exact ⟨d, ds ++ [Nat.digitChar (n % 10)], by rw [hds, List.cons_append], hd⟩

/-- The value of a number read from the octets of ASCII characters is their text. -/
theorem numberValue_ascii {cs : List Char} (h : ∀ c ∈ cs, c.toNat < 0x80) :
    numberValue (cs.map asciiOctet).reverse = .number ⟨String.ofList cs⟩ := by
  simp only [numberValue, List.reverse_reverse, List.map_map]
  congr 2
  exact congrArg String.ofList
    ((List.map_congr_left fun c hc => ofNat_asciiOctet (h c hc)).trans (List.map_id cs))

/-- A complete number inside an open array or object ends at an octet that does not continue
it, which the machine then reads after the number's value. -/
theorem feeds_number_end {st : List Frame} {body : List UInt8} {phase : NumberPhase} {b : UInt8}
    {m' : Machine} (hst : st ≠ []) (hc : phase.complete = true) (hb : phase.next b = none)
    (hstep : ∀ rest, afterValueStep (close st (numberValue body)).stack b rest = .ok m') :
    Feeds ⟨st, .number body phase⟩ [b] m' := by
  obtain ⟨f, st', rfl⟩ := List.exists_cons_of_ne_nil hst
  exact Feeds.inner hst (fun _ => by simp) fun rest => by simp [step, hb, hc, hstep]

/-- No octet that ends a value continues a complete number. -/
theorem next_closer {phase : NumberPhase} {b : UInt8} (hb : Closer b)
    (hc : phase.complete = true) : phase.next b = none := by
  rcases hb with rfl | rfl | rfl <;> cases phase <;>
    simp_all [NumberPhase.next, NumberPhase.complete, isDigitOctet]

/-- Digits after the first keep the machine among the digits of a number's integer part. -/
theorem feeds_digits {st : List Frame} (hst : st ≠ []) :
    ∀ (ds : List Char) (body : List UInt8), (∀ c ∈ ds, c.isDigit) →
      Feeds ⟨st, .number body .integer⟩ (ds.map asciiOctet)
        ⟨st, .number ((ds.map asciiOctet).reverse ++ body) .integer⟩
  | [], body, _ => by simpa using Feeds.nil _
  | c :: ds, body, h => by
    have hc := digit_toNat (h c (List.mem_cons_self ..))
    have hdigit : isDigitOctet (asciiOctet c) = true :=
      isDigitOctet_of_toNat (by rw [toNat_asciiOctet (by omega)]; exact hc)
    have hrest := feeds_digits hst ds (asciiOctet c :: body) fun x hx =>
      h x (List.mem_cons_of_mem _ hx)
    rw [List.map_cons]
    refine Feeds.inner_cons ⟨st, .number (asciiOctet c :: body) .integer⟩ hst (fun _ => by simp)
      (fun _ => by simp [step, NumberPhase.next, hdigit]) ?_
    simpa using hrest

/-- The digits of a positive number, read from a lexeme whose first digit other than `0` begins
an integer part after the octets `start`. -/
theorem feeds_positive {st : List Frame} (hst : st ≠ []) {lex : Lexeme}
    (hnd : ∀ v, lex ≠ .done v) (start : List UInt8) {n : Nat} (hn : 0 < n)
    (hfirst : ∀ b : UInt8, 49 ≤ b.toNat ∧ b.toNat ≤ 57 → ∀ rest,
      Machine.step ⟨st, lex⟩ b rest = .ok ⟨st, .number (b :: start) .integer⟩) :
    Feeds ⟨st, lex⟩ ((Nat.toDigits 10 n).map asciiOctet)
      ⟨st, .number (((Nat.toDigits 10 n).map asciiOctet).reverse ++ start) .integer⟩ := by
  have hdig : ∀ c ∈ Nat.toDigits 10 n, c.isDigit := fun c hc =>
    Nat.isDigit_of_mem_toDigits (by decide) (by decide) hc
  obtain ⟨d, ds, hds, hd⟩ := toDigits_head n hn
  rw [hds] at hdig ⊢
  have hrest := feeds_digits hst ds (asciiOctet d :: start) fun c hc =>
    hdig c (List.mem_cons_of_mem _ hc)
  rw [List.map_cons]
  refine Feeds.inner_cons ⟨st, .number (asciiOctet d :: start) .integer⟩ hst hnd
    (hfirst _ (asciiOctet_digit (hdig d (List.mem_cons_self ..)) hd)) ?_
  simpa using hrest

/-- The characters of an integer's literal: a minus sign for a negative integer, then the
decimal digits of its magnitude. -/
theorem ofInt_chars (i : Int) :
    (Number.ofInt i).text.toList =
      if 0 ≤ i then Nat.toDigits 10 i.toNat else '-' :: Nat.toDigits 10 (-i).toNat := by
  simp only [Number.ofInt, Int.toString_eq_repr, Int.repr_eq_if]
  split <;> simp

theorem ofInt_ascii (i : Int) : ∀ c ∈ (Number.ofInt i).text.toList, c.toNat < 0x80 := by
  intro c hc
  have hdig : ∀ n, ∀ c ∈ Nat.toDigits 10 n, c.toNat < 0x80 := fun n c hc => by
    have := digit_toNat (Nat.isDigit_of_mem_toDigits (by decide) (by decide) hc)
    omega
  rw [ofInt_chars] at hc
  split at hc
  · exact hdig _ c hc
  · rcases List.mem_cons.mp hc with rfl | hc
    · decide
    · exact hdig _ c hc

/-- An integer literal, where a value may begin inside an open array or object, leaves the
machine in a complete number whose octets are the literal's. -/
theorem feeds_intLiteral {st : List Frame} (hst : st ≠ []) (ec : Bool) (i : Int) :
    ∃ phase, phase.complete = true ∧
      Feeds ⟨st, .value ec⟩ ((Number.ofInt i).text.toList.map asciiOctet)
        ⟨st, .number ((Number.ofInt i).text.toList.map asciiOctet).reverse phase⟩ := by
  have hvalue : ∀ b : UInt8, 49 ≤ b.toNat ∧ b.toNat ≤ 57 → ∀ rest,
      Machine.step ⟨st, .value ec⟩ b rest = .ok ⟨st, .number (b :: []) .integer⟩ :=
    fun b hb rest => valueStep_digit hb st ec rest
  rw [ofInt_chars]
  split
  · rcases Nat.eq_zero_or_pos i.toNat with h0 | hpos
    · -- zero is the one literal whose first digit is `0`
      refine ⟨.zero, rfl, ?_⟩
      rw [h0, Nat.toDigits_zero]
      exact Feeds.inner hst (fun _ => by simp) fun _ => rfl
    · refine ⟨.integer, rfl, ?_⟩
      simpa using feeds_positive hst (fun _ => by simp) [] hpos hvalue
  · rename_i hneg
    have hpos : 0 < (-i).toNat := by omega
    refine ⟨.integer, rfl, ?_⟩
    have hsign : ∀ b : UInt8, 49 ≤ b.toNat ∧ b.toNat ≤ 57 → ∀ rest,
        Machine.step ⟨st, .number [0x2D] .sign⟩ b rest = .ok ⟨st, .number (b :: [0x2D]) .integer⟩ :=
      fun b hb rest => by simp [step, signNext_digit hb]
    have hdigits := feeds_positive hst (fun _ => by simp) [0x2D] hpos hsign
    have hminus : asciiOctet '-' = 0x2D := rfl
    rw [List.map_cons, hminus]
    refine Feeds.inner_cons ⟨st, .number [0x2D] .sign⟩ hst (fun _ => by simp) (fun _ => rfl) ?_
    simpa using hdigits

/-- An integer literal is read back before any octet that ends it. -/
theorem readableBefore_int (html : Bool) (i : Int) :
    ReadableBefore html (.number (Number.ofInt i)) := by
  intro st ec b m' hst hb hstep
  have hascii := ofInt_ascii i
  have htext : Utf8.encode ((Value.number (Number.ofInt i)).write html) =
      (Number.ofInt i).text.toList.map asciiOctet := by
    rw [← encode_ascii hascii, String.ofList_toList]
    rfl
  obtain ⟨phase, hc, hfeeds⟩ := feeds_intLiteral hst ec i
  have hval : numberValue ((Number.ofInt i).text.toList.map asciiOctet).reverse =
      .number (Number.ofInt i) := by
    rw [numberValue_ascii hascii, String.ofList_toList]
  rw [htext]
  exact hfeeds.append (feeds_number_end hst hc (next_closer hb hc) (by rw [hval]; exact hstep))

/-! ## Arrays and objects -/

namespace Machine

/-- The elements of an array after its opening bracket, each readable before the octet that
ends it, and the closing bracket close the array. -/
theorem feeds_elements_before (html : Bool) (st : List Frame) :
    ∀ (v : Value) (vs acc : List Value) (ec : Bool), (∀ x ∈ v :: vs, ReadableBefore html x) →
      Feeds ⟨.array acc :: st, .value ec⟩
        (Utf8.encode (Value.writeElements html (v :: vs)) ++ [0x5D])
        (close st (.array ((v :: vs).reverse ++ acc).reverse))
  | v, [], acc, ec, h => by
    simp only [Value.writeElements]
    refine h v (List.mem_cons_self ..) (.array acc :: st) ec 0x5D _ (by simp) (.inr (.inl rfl))
      fun _ => ?_
    simp [afterValueStep, isBlank]
  | v, w :: ws, acc, ec, h => by
    have hcomma : Utf8.encode "," = [0x2C] := by decide
    have hrest := feeds_elements_before html st w ws (v :: acc) false
      (fun x hx => h x (List.mem_cons_of_mem _ hx))
    simp only [Value.writeElements]
    rw [Utf8.encode_append, Utf8.encode_append, hcomma, List.append_assoc]
    -- the element is ended by the comma, after which the next element may begin
    refine (h v (List.mem_cons_self ..) (.array acc :: st) ec 0x2C
      ⟨.array (v :: acc) :: st, .value false⟩ (by simp) (.inl rfl)
      fun _ => by simp [afterValueStep, isBlank]).append ?_
    simpa using hrest

/-- One member after an object's opening brace or a comma: its name, the colon, and a value
readable before the octet `b` that ends it. -/
theorem feeds_member_before (html : Bool) (st : List Frame) (k : String) (v : Value)
    (acc : List (String × Value)) (ec : Bool) {b : UInt8} {m' : Machine}
    (hv : ReadableBefore html v) (hb : Closer b)
    (hstep : ∀ rest, afterValueStep (.object ((k, v) :: acc) none :: st) b rest = .ok m') :
    Feeds ⟨.object acc none :: st, .key ec⟩
      (Utf8.encode (writeString html k ++ ":" ++ v.write html) ++ [b]) m' := by
  have hcolon : Utf8.encode ":" = [0x3A] := by decide
  rw [Utf8.encode_append, Utf8.encode_append, hcolon, List.append_assoc, List.append_assoc,
    List.singleton_append]
  refine (feeds_key html k acc st ec).append
    (.cons ⟨.object acc (some k) :: st, .value false⟩ (fun _ => by simp [step, isBlank]) trivial ?_)
  exact hv (.object acc (some k) :: st) false b m' (by simp) hb (by simpa using hstep)

/-- The members of an object after its opening brace, each value readable before the octet that
ends it, and the closing brace close the object. -/
theorem feeds_members_before (html : Bool) (st : List Frame) :
    ∀ (m : String × Value) (ms acc : List (String × Value)) (ec : Bool),
      (∀ x ∈ m :: ms, ReadableBefore html x.2) →
      Feeds ⟨.object acc none :: st, .key ec⟩
        (Utf8.encode (Value.writeMembers html (m :: ms)) ++ [0x7D])
        (close st (.object ((m :: ms).reverse ++ acc).reverse))
  | (k, v), [], acc, ec, h => by
    simp only [Value.writeMembers]
    exact feeds_member_before html st k v acc ec (h (k, v) (List.mem_cons_self ..))
      (.inr (.inr rfl)) fun _ => by simp [afterValueStep, isBlank]
  | (k, v), m' :: ms, acc, ec, h => by
    have hcomma : Utf8.encode "," = [0x2C] := by decide
    have hrest := feeds_members_before html st m' ms ((k, v) :: acc) false
      (fun x hx => h x (List.mem_cons_of_mem _ hx))
    simp only [Value.writeMembers]
    rw [Utf8.encode_append (writeString html k ++ ":" ++ v.write html ++ ","), Utf8.encode_append _ ",",
      hcomma, List.append_assoc]
    -- the member is ended by the comma, after which the next member's name may begin
    have hfirst : Feeds ⟨.object acc none :: st, .key ec⟩
        (Utf8.encode (writeString html k ++ ":" ++ v.write html) ++ [0x2C])
        ⟨.object ((k, v) :: acc) none :: st, .key false⟩ :=
      feeds_member_before html st k v acc ec (h (k, v) (List.mem_cons_self ..)) (.inl rfl)
        fun _ => by simp [afterValueStep, isBlank]
    refine hfirst.append ?_
    simpa using hrest

end Machine

/-- An array whose elements are readable before the octets that end them is readable. -/
theorem Readable.array_before {html : Bool} {items : List Value}
    (h : ∀ x ∈ items, ReadableBefore html x) : Readable html (.array items) := by
  intro st ec
  have hopen : Utf8.encode "[" = [0x5B] := by decide
  cases items with
  | nil => exact Readable.array (fun _ hx => absurd hx List.not_mem_nil) st ec
  | cons v vs =>
    rw [Value.write, Utf8.encode_append, Utf8.encode_append, hopen,
      show Utf8.encode "]" = [0x5D] by decide, List.append_assoc, List.singleton_append]
    refine .cons ⟨.array [] :: st, .value true⟩
      (fun _ => by simp [Machine.step, Machine.valueStep, isBlank]) trivial ?_
    simpa using Machine.feeds_elements_before html st v vs [] true h

/-- An object whose member values are readable before the octets that end them is readable. -/
theorem Readable.object_before {html : Bool} {ms : List (String × Value)}
    (h : ∀ x ∈ ms, ReadableBefore html x.2) : Readable html (.object ms) := by
  intro st ec
  have hopen : Utf8.encode "\x7b" = [0x7B] := by decide
  cases ms with
  | nil => exact Readable.object (fun _ hx => absurd hx List.not_mem_nil) st ec
  | cons m ms =>
    rw [Value.write, Utf8.encode_append, Utf8.encode_append, hopen,
      show Utf8.encode "\x7d" = [0x7D] by decide, List.append_assoc, List.singleton_append]
    refine .cons ⟨.object [] none :: st, .key true⟩
      (fun _ => by simp [Machine.step, Machine.valueStep, isBlank]) trivial ?_
    simpa using Machine.feeds_members_before html st m ms [] true h

/-! ## Values whose numbers are integers -/

/-- A value whose numbers are integer literals reads back before any octet that ends it. -/
theorem IntLiterals.readableBefore (html : Bool) {v : Value} (h : IntLiterals v) :
    ReadableBefore html v := by
  induction h with
  | null => exact (readable_null html).before
  | bool b => exact (readable_bool html b).before
  | int i => exact readableBefore_int html i
  | string s => exact Readable.before (Machine.feeds_string html s)
  | array _ ih => exact (Readable.array_before ih).before
  | object _ ih => exact (Readable.object_before ih).before

/-- An array or object whose numbers are integer literals reads back closed. -/
theorem IntLiterals.readable (html : Bool) {v : Value} (h : IntLiterals v)
    (hv : ∀ n, v ≠ .number n) : Readable html v := by
  cases h with
  | null => exact readable_null html
  | bool b => exact readable_bool html b
  | int i => exact absurd rfl (hv _)
  | string s => exact Machine.feeds_string html s
  | array h => exact Readable.array_before fun x hx => (h x hx).readableBefore html
  | object h => exact Readable.object_before fun x hx => (h x hx).readableBefore html

/-- The written text of a value that is no number, whose numbers are integer literals, reads as
that value. -/
theorem readWhole_write_of_intLiterals {v : Value} (h : IntLiterals v) (hv : ∀ n, v ≠ .number n)
    (html : Bool) : readWhole (Utf8.encode (v.write html)) = .ok v :=
  Machine.readWhole_of_feeds (h.readable html hv [] false)

/-- The same, with a line break after the text. -/
theorem readWhole_write_newline {v : Value} (h : IntLiterals v) (hv : ∀ n, v ≠ .number n)
    (html : Bool) : readWhole (Utf8.encode (v.write html) ++ [0x0A]) = .ok v := by
  have hwhole := ((h.readable html hv [] false) [0x0A]).1
  have hend : (Machine.close [] v).runWhole [0x0A] = .ok v := by
    simp [Machine.runWhole, Machine.step, Machine.close, Machine.finish, isBlank]
  exact hwhole.trans hend

end TestDispatch.Json
