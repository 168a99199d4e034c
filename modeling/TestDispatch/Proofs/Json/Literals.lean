import TestDispatch.Proofs.Json.Integers
/-!
# Number literals the reader reads

A number keeps its literal as text, and the writer writes that text as it is. The reader takes
a number octet by octet through the phases of `NumberPhase`; the octets it keeps for a number
form a literal that leaves those phases complete (`Number.Valid`). This module shows that this
is all a writer needs:

* `readWhole_validLiterals`: every value the reader reads has only such literals, at any depth
  (`ValidLiterals`). The invariant is carried by the machine (`Machine.Valid`): its open arrays
  and objects hold such values, and the octets of a number it is reading so far leave it in the
  phase it is in. One step keeps it (`Machine.step_valid`), hence a whole text.
* `readWhole_write_of_validLiterals`: an array or object whose literals are valid is read back
  from its written text, also with a line break after it. A valid literal takes the machine, once
  a value may begin, into a complete number (`feeds_validLiteral`), which the octet that ends it
  inside an array or object closes.

So a value read from one text and written again reads back as itself.
-/

namespace TestDispatch.Json

/-! ## Literals -/

namespace NumberPhase

theorem after_append_singleton (p : NumberPhase) (bs : List UInt8) (b : UInt8) :
    p.after (bs ++ [b]) = (p.after bs).bind (·.next b) := by
  induction bs generalizing p with
  | nil => cases h : p.next b <;> simp [after, h]
  | cons c cs ih =>
    cases h : p.next c with
    | none => simp [after, h]
    | some q => simp [after, h, ih]

end NumberPhase

theorem literalPhase_singleton (b : UInt8) : literalPhase [b].reverse = NumberPhase.first b := by
  cases h : NumberPhase.first b <;> simp [literalPhase, NumberPhase.after, h]

theorem literalPhase_append_singleton {bs : List UInt8} {p : NumberPhase}
    (h : literalPhase bs = some p) (b : UInt8) :
    literalPhase (bs ++ [b]) = p.next b := by
  cases bs with
  | nil => cases h
  | cons c cs =>
    simp only [literalPhase, Option.bind_eq_some_iff] at h
    obtain ⟨q, hq, hafter⟩ := h
    simp [literalPhase, hq, NumberPhase.after_append_singleton, hafter]

namespace ValidLiterals

@[simp] theorem array_iff {items : List Value} :
    ValidLiterals (.array items) ↔ ∀ x ∈ items, ValidLiterals x :=
  ⟨fun h => by cases h; assumption, .array⟩

@[simp] theorem object_iff {members : List (String × Value)} :
    ValidLiterals (.object members) ↔ ∀ m ∈ members, ValidLiterals m.2 :=
  ⟨fun h => by cases h; assumption, .object⟩

end ValidLiterals

/-! ## What the reader reads -/

/-- An open array or object whose values so far have valid literals. -/
def Frame.Valid : Frame → Prop
  | .array items => ∀ x ∈ items, ValidLiterals x
  | .object members _ => ∀ m ∈ members, ValidLiterals m.2

/-- A lexeme that holds no value, the octets of a number that leave the phases where the number
stands, or a whole value whose literals are valid. -/
def Lexeme.Valid : Lexeme → Prop
  | .number body phase => literalPhase body.reverse = some phase
  | .done v => ValidLiterals v
  | _ => True

namespace Machine

/-- The invariant of the reader: every value it holds has valid literals, and so will the number
it is reading. -/
def Valid (m : Machine) : Prop := (∀ f ∈ m.stack, f.Valid) ∧ m.lexeme.Valid

/-- A number whose octets leave the phases complete has a valid literal. -/
theorem numberValue_valid {body : List UInt8} {p : NumberPhase}
    (h : literalPhase body.reverse = some p) (hc : p.complete = true) :
    ValidLiterals (numberValue body) :=
  .number ⟨body.reverse, p, rfl, h, hc⟩

theorem close_valid {st : List Frame} {v : Value} (hst : ∀ f ∈ st, f.Valid)
    (hv : ValidLiterals v) : (close st v).Valid := by
  match st, hst with
  | [], _ => exact ⟨by simp [close], hv⟩
  | .array items :: s, hst =>
    refine ⟨fun f hf => ?_, trivial⟩
    rcases List.mem_cons.mp hf with rfl | hf
    · intro x hx
      rcases List.mem_cons.mp hx with rfl | hx
      · exact hv
      · exact hst _ List.mem_cons_self x hx
    · exact hst f (List.mem_cons_of_mem _ hf)
  | .object members (some k) :: s, hst =>
    refine ⟨fun f hf => ?_, trivial⟩
    rcases List.mem_cons.mp hf with rfl | hf
    · intro m hm
      rcases List.mem_cons.mp hm with rfl | hm
      · exact hv
      · exact hst _ List.mem_cons_self m hm
    · exact hst f (List.mem_cons_of_mem _ hf)
  | .object members none :: s, hst => exact ⟨hst, trivial⟩

/-- Closing the innermost array or object closes a value whose literals are valid. -/
theorem close_top_valid {f : Frame} {s : List Frame} (hst : ∀ g ∈ f :: s, g.Valid) :
    (∀ g ∈ s, g.Valid) ∧
      (∀ items, f = .array items → ValidLiterals (.array items.reverse)) ∧
      (∀ members k, f = .object members k → ValidLiterals (.object members.reverse)) := by
  refine ⟨fun g hg => hst g (List.mem_cons_of_mem _ hg), ?_, ?_⟩
  · rintro items rfl
    exact .array fun x hx => hst _ List.mem_cons_self x (List.mem_reverse.mp hx)
  · rintro members k rfl
    exact .object fun m hm => hst _ List.mem_cons_self m (List.mem_reverse.mp hm)

theorem afterValueStep_valid {stack : List Frame} {b : UInt8} {rest : List UInt8} {m' : Machine}
    (hst : ∀ f ∈ stack, f.Valid) (h : afterValueStep stack b rest = .ok m') : m'.Valid := by
  unfold afterValueStep at h
  split at h
  · cases h
    exact ⟨hst, trivial⟩
  · split at h
    · -- a comma or the closing bracket of an array
      have htop := close_top_valid hst
      split at h
      · cases h
        exact ⟨hst, trivial⟩
      · split at h
        · cases h
          exact close_valid htop.1 (htop.2.1 _ rfl)
        · cases h
    · have htop := close_top_valid hst
      split at h
      · cases h
        exact ⟨hst, trivial⟩
      · split at h
        · cases h
          exact close_valid htop.1 (htop.2.2 _ _ rfl)
        · cases h
    · cases h

/-- A value may begin: the octet opens an array, an object, a string, a number or a literal, or
closes the array just opened. -/
theorem valueStep_valid {stack : List Frame} {ec : Bool} {b : UInt8} {rest : List UInt8}
    {m' : Machine} (hst : ∀ f ∈ stack, f.Valid) (h : valueStep stack ec b rest = .ok m') :
    m'.Valid := by
  have hopen : ∀ f : Frame, f.Valid → ∀ g ∈ f :: stack, g.Valid := fun f hf g hg => by
    rcases List.mem_cons.mp hg with rfl | hg
    · exact hf
    · exact hst g hg
  -- the octet's class decides the step; each branch is opened by the condition it tests
  unfold valueStep at h
  by_cases hblank : isBlank b = true
  · rw [if_pos hblank] at h
    cases h
    exact ⟨hst, trivial⟩
  rw [if_neg hblank] at h
  by_cases hclose : (b = 0x5D && ec) = true
  · rw [if_pos hclose] at h
    split at h
    · cases h
      exact close_valid (close_top_valid hst).1 ((close_top_valid hst).2.1 _ rfl)
    · cases h
  rw [if_neg hclose] at h
  by_cases hobject : b = 0x7B
  · rw [if_pos hobject] at h
    cases h
    exact ⟨hopen (.object [] none) (by simp [Frame.Valid]), trivial⟩
  rw [if_neg hobject] at h
  by_cases harray : b = 0x5B
  · rw [if_pos harray] at h
    cases h
    exact ⟨hopen (.array []) (by simp [Frame.Valid]), trivial⟩
  rw [if_neg harray] at h
  by_cases hquote : b = 0x22
  · rw [if_pos hquote] at h
    cases h
    exact ⟨hst, trivial⟩
  rw [if_neg hquote] at h
  -- a number begins with a minus sign, a zero or another digit
  by_cases hminus : b = 0x2D
  · rw [if_pos hminus] at h
    cases h
    exact ⟨hst, by rw [Lexeme.Valid, literalPhase_singleton, NumberPhase.first, if_pos hminus]⟩
  rw [if_neg hminus] at h
  by_cases hzero : b = 0x30
  · rw [if_pos hzero] at h
    cases h
    exact ⟨hst, by
      rw [Lexeme.Valid, literalPhase_singleton, NumberPhase.first, if_neg hminus, if_pos hzero]⟩
  rw [if_neg hzero] at h
  by_cases hdigit : isDigitOctet b = true
  · rw [if_pos hdigit] at h
    cases h
    exact ⟨hst, by
      rw [Lexeme.Valid, literalPhase_singleton, NumberPhase.first, if_neg hminus, if_neg hzero,
        if_pos hdigit]⟩
  rw [if_neg hdigit] at h
  -- what is left is a literal word or an error
  split at h
  · cases h
    exact ⟨hst, trivial⟩
  split at h
  · cases h
    exact ⟨hst, trivial⟩
  split at h
  · cases h
    exact ⟨hst, trivial⟩
  · cases h

theorem literalValue_valid (word : String) : ValidLiterals (literalValue word) := by
  unfold literalValue
  split
  · exact .bool true
  · split
    · exact .bool false
    · exact .null

/-- One step of the reader keeps its invariant. -/
theorem step_valid {m m' : Machine} {b : UInt8} {rest : List UInt8} (hm : m.Valid)
    (h : m.step b rest = .ok m') : m'.Valid := by
  obtain ⟨stack, lexeme⟩ := m
  obtain ⟨hst, hlex⟩ := hm
  cases lexeme with
  | value ec => exact valueStep_valid hst h
  | key ec =>
    simp only [step] at h
    split at h
    · cases h
      exact ⟨hst, trivial⟩
    split at h
    · split at h
      · cases h
        exact close_valid (close_top_valid hst).1 ((close_top_valid hst).2.2 _ _ rfl)
      · cases h
    split at h
    · cases h
      exact ⟨hst, trivial⟩
    · cases h
  | str isKey body =>
    simp only [step] at h
    split at h
    · split at h
      · -- a member name: the frame gets its pending name, its members stay
        split at h
        · cases h
          refine ⟨fun f hf => ?_, trivial⟩
          have hold := hst _ List.mem_cons_self
          rcases List.mem_cons.mp hf with rfl | hf
          · exact hold
          · exact hst f (List.mem_cons_of_mem _ hf)
        · cases h
          exact ⟨hst, trivial⟩
      · cases h
        exact close_valid hst (.string _)
    split at h
    · cases h
      exact ⟨hst, trivial⟩
    split at h
    · cases h
    · cases h
      exact ⟨hst, trivial⟩
  | escape isKey body =>
    simp only [step] at h
    split at h
    · cases h
      exact ⟨hst, trivial⟩
    split at h
    · cases h
      exact ⟨hst, trivial⟩
    · cases h
  | unicode isKey body seen =>
    simp only [step] at h
    split at h
    · split at h
      · cases h
        exact ⟨hst, trivial⟩
      · cases h
        exact ⟨hst, trivial⟩
    · cases h
  | number body phase =>
    have hbody : literalPhase body.reverse = some phase := hlex
    simp only [step] at h
    split at h
    · -- the octet continues the number
      rename_i phase' hnext
      cases h
      refine ⟨hst, ?_⟩
      show literalPhase (b :: body).reverse = some phase'
      rw [List.reverse_cons, literalPhase_append_singleton hbody, hnext]
    · split at h
      · -- the number is complete, and the octet after it ends it
        rename_i hcomplete
        have hv := numberValue_valid hbody hcomplete
        split at h
        · split at h
          · cases h
            exact ⟨by simp, hv⟩
          · cases h
        · exact afterValueStep_valid (close_valid hst hv).1 h
      · cases h
  | literal word expected =>
    simp only [step] at h
    split at h
    · split at h
      · split at h
        · cases h
          exact close_valid hst (literalValue_valid word)
        · cases h
          exact ⟨hst, trivial⟩
      · cases h
    · cases h
      exact close_valid hst (literalValue_valid word)
  | colon =>
    simp only [step] at h
    split at h
    · cases h
      exact ⟨hst, trivial⟩
    split at h
    · cases h
      exact ⟨hst, trivial⟩
    · cases h
  | afterValue => exact afterValueStep_valid hst h
  | done v =>
    simp only [step] at h
    split at h
    · cases h
      exact ⟨hst, hlex⟩
    · cases h

/-- A text that ends where the reader's invariant holds gives a value whose literals are
valid. -/
theorem finish_valid {m : Machine} {v : Value} (hm : m.Valid) (h : m.finish = .ok v) :
    ValidLiterals v := by
  obtain ⟨stack, lexeme⟩ := m
  obtain ⟨-, hlex⟩ := hm
  cases stack with
  | cons f s => cases lexeme <;> simp [finish] at h
  | nil =>
    cases lexeme with
    | done w =>
      simp only [finish, Except.ok.injEq] at h
      subst h
      exact hlex
    | number body phase =>
      simp only [finish] at h
      split at h
      · cases h
        exact numberValue_valid hlex ‹_›
      · cases h
    | value ec => cases ec <;> simp [finish] at h
    | _ => simp [finish] at h

theorem runWhole_valid {v : Value} :
    ∀ (bs : List UInt8) (m : Machine), m.Valid → m.runWhole bs = .ok v → ValidLiterals v
  | [], m, hm, h => finish_valid hm h
  | b :: bs, m, hm, h => by
    simp only [runWhole] at h
    split at h
    · cases h
    · exact runWhole_valid bs _ (step_valid hm ‹_›) h

end Machine

/-- Every value the reader reads from a whole text has valid literals, at any depth. -/
theorem readWhole_validLiterals {bytes : List UInt8} {v : Value} (h : readWhole bytes = .ok v) :
    ValidLiterals v :=
  Machine.runWhole_valid bytes Machine.start ⟨by simp [Machine.start], trivial⟩ h

/-! ## Writing valid literals -/

theorem toNat_of_isDigitOctet {b : UInt8} (h : isDigitOctet b = true) :
    48 ≤ b.toNat ∧ b.toNat ≤ 57 := by
  simpa [isDigitOctet, UInt8.le_iff_toNat_le] using h

/-- Only ASCII octets continue a number. -/
theorem NumberPhase.next_ascii {p q : NumberPhase} {b : UInt8} (h : p.next b = some q) :
    b.toNat < 0x80 := by
  rcases Nat.lt_or_ge b.toNat 0x80 with hlt | hb
  · exact hlt
  exfalso
  have hdigit : isDigitOctet b = false := by
    simp only [isDigitOctet, Bool.and_eq_false_iff, decide_eq_false_iff_not, UInt8.le_iff_toNat_le]
    right
    simp
    omega
  have hne : ∀ k : UInt8, k.toNat < 0x80 → b ≠ k := fun k hk => ne_of_toNat (.inl (by omega))
  cases p <;>
    simp [NumberPhase.next, hdigit, hne 0x2E (by decide), hne 0x65 (by decide),
      hne 0x45 (by decide), hne 0x2B (by decide), hne 0x2D (by decide), hne 0x30 (by decide)] at h

theorem literalPhase_ascii : ∀ {bs : List UInt8} {p : NumberPhase}, literalPhase bs = some p →
    ∀ b ∈ bs, b.toNat < 0x80
  | [], _, h => by cases h
  | c :: cs, p, h => by
    simp only [literalPhase, Option.bind_eq_some_iff] at h
    obtain ⟨q, hq, hafter⟩ := h
    have hc : c.toNat < 0x80 := by
      unfold NumberPhase.first at hq
      split at hq
      · rename_i h; subst h; decide
      split at hq
      · rename_i h; subst h; decide
      split at hq
      · rename_i hd
        have := toNat_of_isDigitOctet hd
        omega
      · cases hq
    have hrest : ∀ (r : NumberPhase) (ds : List UInt8), r.after ds = some p →
        ∀ b ∈ ds, b.toNat < 0x80 := by
      intro r ds
      induction ds generalizing r with
      | nil => simp
      | cons d ds ih =>
        intro hr b hb
        simp only [NumberPhase.after, Option.bind_eq_some_iff] at hr
        obtain ⟨r', hr', hds⟩ := hr
        rcases List.mem_cons.mp hb with rfl | hb
        · exact NumberPhase.next_ascii hr'
        · exact ih r' hds b hb
    intro b hb
    rcases List.mem_cons.mp hb with rfl | hb
    · exact hc
    · exact hrest q cs hafter b hb

/-- A code below 0x80 is the code of its character. -/
theorem toNat_charOfNat {n : Nat} (h : n < 0x80) : (Char.ofNat n).toNat = n := by
  rw [Char.ofNat, dif_pos (Or.inl (by omega) : n.isValidChar)]
  rfl

/-- The octets of a valid literal are the octets of its text. -/
theorem encode_validText {bs : List UInt8} {p : NumberPhase} (h : literalPhase bs = some p) :
    Utf8.encode (String.ofList (bs.map fun b => Char.ofNat b.toNat)) = bs := by
  have hascii := literalPhase_ascii h
  have hchar : ∀ b ∈ bs, (Char.ofNat b.toNat).toNat < 0x80 ∧ asciiOctet (Char.ofNat b.toNat) = b :=
    fun b hb => by
      rw [asciiOctet, toNat_charOfNat (hascii b hb), UInt8.ofNat_toNat]
      exact ⟨hascii b hb, rfl⟩
  rw [encode_ascii (fun c hc => by
    obtain ⟨b, hb, rfl⟩ := List.mem_map.mp hc
    exact (hchar b hb).1), List.map_map]
  exact (List.map_congr_left fun b hb => (hchar b hb).2).trans (List.map_id bs)

namespace Machine

/-- A number's first octet, where a value may begin, begins it. -/
theorem valueStep_first {b : UInt8} {p : NumberPhase} (h : NumberPhase.first b = some p)
    (st : List Frame) (ec : Bool) (rest : List UInt8) :
    valueStep st ec b rest = .ok ⟨st, .number [b] p⟩ := by
  unfold NumberPhase.first at h
  split at h
  · rename_i hminus
    cases h
    subst hminus
    rfl
  split at h
  · rename_i hzero
    cases h
    subst hzero
    rfl
  split at h
  · rename_i hminus hzero hd
    cases h
    have hb := toNat_of_isDigitOctet hd
    have h48 : b.toNat ≠ 48 := fun h48 => hzero (UInt8.toNat_inj.mp h48)
    exact valueStep_digit ⟨by omega, hb.2⟩ st ec rest
  · cases h

/-- The octets that continue a number keep the machine in it, inside an open array or object. -/
theorem feeds_after {st : List Frame} (hst : st ≠ []) :
    ∀ (bs body : List UInt8) (p q : NumberPhase), p.after bs = some q →
      Feeds ⟨st, .number body p⟩ bs ⟨st, .number (bs.reverse ++ body) q⟩
  | [], body, p, q, h => by
    cases h
    simpa using Feeds.nil _
  | b :: bs, body, p, q, h => by
    simp only [NumberPhase.after, Option.bind_eq_some_iff] at h
    obtain ⟨p', hp', hrest⟩ := h
    refine Feeds.inner_cons ⟨st, .number (b :: body) p'⟩ hst (fun _ => by simp)
      (fun _ => by simp [step, hp']) ?_
    simpa using feeds_after hst bs (b :: body) p' q hrest

/-- A valid literal, where a value may begin inside an open array or object, leaves the machine
in the number it spells. -/
theorem feeds_validLiteral {st : List Frame} (hst : st ≠ []) (ec : Bool) {bs : List UInt8}
    {p : NumberPhase} (h : literalPhase bs = some p) :
    Feeds ⟨st, .value ec⟩ bs ⟨st, .number bs.reverse p⟩ := by
  cases bs with
  | nil => cases h
  | cons b rest =>
    simp only [literalPhase, Option.bind_eq_some_iff] at h
    obtain ⟨p0, hp0, hafter⟩ := h
    refine Feeds.inner_cons ⟨st, .number [b] p0⟩ hst (fun _ => by simp)
      (fun _ => valueStep_first hp0 st ec _) ?_
    simpa using feeds_after hst rest [b] p0 p hafter

end Machine

open Machine

/-- A number with a valid literal is read back before any octet that ends it. -/
theorem readableBefore_validNumber (html : Bool) {n : Number} (hn : n.Valid) :
    ReadableBefore html (.number n) := by
  intro st ec b m' hst hb hstep
  obtain ⟨bs, p, htext, hp, hc⟩ := hn
  have henc : Utf8.encode ((Value.number n).write html) = bs := by
    rw [Value.write, htext, encode_validText hp]
  have hval : numberValue bs.reverse = .number n := by
    simp only [numberValue, List.reverse_reverse, ← htext]
  rw [henc]
  exact (feeds_validLiteral hst ec hp).append
    (feeds_number_end hst hc (next_closer hb hc) (by rw [hval]; exact hstep))

/-- A value whose literals are valid reads back before any octet that ends it. -/
theorem ValidLiterals.readableBefore (html : Bool) {v : Value} (h : ValidLiterals v) :
    ReadableBefore html v := by
  induction h with
  | null => exact (readable_null html).before
  | bool b => exact (readable_bool html b).before
  | number hn => exact readableBefore_validNumber html hn
  | string s => exact Readable.before (Machine.feeds_string html s)
  | array _ ih => exact (Readable.array_before ih).before
  | object _ ih => exact (Readable.object_before ih).before

/-- An array or object whose literals are valid reads back closed. -/
theorem ValidLiterals.readable (html : Bool) {v : Value} (h : ValidLiterals v)
    (hv : ∀ n, v ≠ .number n) : Readable html v := by
  cases h with
  | null => exact readable_null html
  | bool b => exact readable_bool html b
  | number hn => exact absurd rfl (hv _)
  | string s => exact Machine.feeds_string html s
  | array h => exact Readable.array_before fun x hx => (h x hx).readableBefore html
  | object h => exact Readable.object_before fun x hx => (h x hx).readableBefore html

/-- The written text of a value that is no number, whose literals are valid, reads as that
value, also with a line break after it. -/
theorem readWhole_write_of_validLiterals {v : Value} (h : ValidLiterals v)
    (hv : ∀ n, v ≠ .number n) (html : Bool) :
    readWhole (Utf8.encode (v.write html)) = .ok v ∧
      readWhole (Utf8.encode (v.write html) ++ [0x0A]) = .ok v := by
  have hread := h.readable html hv [] false
  refine ⟨Machine.readWhole_of_feeds hread, ?_⟩
  have hend : (Machine.close [] v).runWhole [0x0A] = .ok v := by
    simp [Machine.runWhole, Machine.step, Machine.close, Machine.finish, isBlank]
  exact (hread [0x0A]).1.trans hend

end TestDispatch.Json
