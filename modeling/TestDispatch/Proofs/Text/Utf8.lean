import TestDispatch.Text.Utf8
/-!
# Reading back UTF-8

`Utf8.next` reads the character at the front of an octet sequence. For the octets that
`String.utf8EncodeChar` writes, it reads back the character written and takes exactly its
octets (`Utf8.next_utf8EncodeChar`), so `Utf8.decode` inverts `Utf8.encode` (`Utf8.decode_encode`).
The octets of a text as a byte array are its UTF-8 octets (`Utf8.toUTF8_toList`).

The proof follows the four lengths of an encoding: `lead_ascii`, `lead_two`, `lead_three` and
`lead_four` say what the decoder reads from a lead octet and continuation octets in range, and
the encoder's octets are in those ranges for the code points of each length. The bounds on the
second octet of a three- or four-octet sequence exclude surrogates and code points past U+10FFFF,
which no character has.
-/

namespace TestDispatch.Utf8

/-! ## Octets as numbers -/

theorem toNat_ofNat_lt {n : Nat} (h : n < 256) : (UInt8.ofNat n).toNat = n := by
  simp only [UInt8.toNat_ofNat', Nat.reducePow]
  omega

theorem and_63 (n : Nat) : n &&& 63 = n % 64 := Nat.and_two_pow_sub_one_eq_mod n 6
theorem and_31 (n : Nat) : n &&& 31 = n % 32 := Nat.and_two_pow_sub_one_eq_mod n 5
theorem and_15 (n : Nat) : n &&& 15 = n % 16 := Nat.and_two_pow_sub_one_eq_mod n 4
theorem and_7 (n : Nat) : n &&& 7 = n % 8 := Nat.and_two_pow_sub_one_eq_mod n 3

/-! ## Reading one character -/

theorem lead_ascii {b : UInt8} (h : b.toNat < 0x80) (rest : List UInt8) :
    lead b rest = (Char.ofNat b.toNat, 0) := by
  have : b < 0x80 := UInt8.lt_iff_toNat_lt.mpr h
  simp [lead, this]

theorem lead_two {b t : UInt8} (hb : 0xC2 ≤ b.toNat ∧ b.toNat ≤ 0xDF) (ht : 0x80 ≤ t.toNat ∧ t.toNat ≤ 0xBF)
    (rest : List UInt8) :
    lead b (t :: rest) = (Char.ofNat (b.toNat % 32 * 64 + t.toNat % 64), 1) := by
  have h1 : ¬ b < 0x80 := fun h => by have := UInt8.lt_iff_toNat_lt.mp h; simp at this; omega
  have h2 : (0xC2 ≤ b && b ≤ 0xDF) = true := by
    simp [UInt8.le_iff_toNat_le]; omega
  have h3 : isTail t = true := by
    simp [isTail, UInt8.le_iff_toNat_le]; omega
  simp [lead, h1, h2, h3, combine, tailBits, UInt8.toNat_and, and_31, and_63]

theorem lead_three {b t1 t2 : UInt8} (hb : 0xE0 ≤ b.toNat ∧ b.toNat ≤ 0xEF)
    (hlo : b.toNat = 0xE0 → 0xA0 ≤ t1.toNat) (hhi : b.toNat = 0xED → t1.toNat ≤ 0x9F)
    (h1 : 0x80 ≤ t1.toNat ∧ t1.toNat ≤ 0xBF) (h2 : 0x80 ≤ t2.toNat ∧ t2.toNat ≤ 0xBF)
    (rest : List UInt8) :
    lead b (t1 :: t2 :: rest) =
      (Char.ofNat ((b.toNat % 16 * 64 + t1.toNat % 64) * 64 + t2.toNat % 64), 2) := by
  have n1 : ¬ b < 0x80 := fun h => by have := UInt8.lt_iff_toNat_lt.mp h; simp at this; omega
  have n2 : (0xC2 ≤ b && b ≤ 0xDF) = false := by
    simp [UInt8.le_iff_toNat_le]; omega
  have y3 : (0xE0 ≤ b && b ≤ 0xEF) = true := by
    simp [UInt8.le_iff_toNat_le]; omega
  have hlo' : (if b = 0xE0 then (0xA0 : UInt8) else 0x80) ≤ t1 := by
    split <;> rename_i h
    · simp [UInt8.le_iff_toNat_le]; exact hlo (by simp [h])
    · simp [UInt8.le_iff_toNat_le]; omega
  have hhi' : t1 ≤ (if b = 0xED then (0x9F : UInt8) else 0xBF) := by
    split <;> rename_i h
    · simp [UInt8.le_iff_toNat_le]; exact hhi (by simp [h])
    · simp [UInt8.le_iff_toNat_le]; omega
  have ht2 : isTail t2 = true := by
    simp [isTail, UInt8.le_iff_toNat_le]; omega
  simp [lead, n1, n2, y3, hlo', hhi', ht2, combine, tailBits, UInt8.toNat_and, and_15, and_63]

theorem lead_four {b t1 t2 t3 : UInt8} (hb : 0xF0 ≤ b.toNat ∧ b.toNat ≤ 0xF4)
    (hlo : b.toNat = 0xF0 → 0x90 ≤ t1.toNat) (hhi : b.toNat = 0xF4 → t1.toNat ≤ 0x8F)
    (h1 : 0x80 ≤ t1.toNat ∧ t1.toNat ≤ 0xBF) (h2 : 0x80 ≤ t2.toNat ∧ t2.toNat ≤ 0xBF)
    (h3 : 0x80 ≤ t3.toNat ∧ t3.toNat ≤ 0xBF) (rest : List UInt8) :
    lead b (t1 :: t2 :: t3 :: rest) =
      (Char.ofNat (((b.toNat % 8 * 64 + t1.toNat % 64) * 64 + t2.toNat % 64) * 64 + t3.toNat % 64),
        3) := by
  have n1 : ¬ b < 0x80 := fun h => by have := UInt8.lt_iff_toNat_lt.mp h; simp at this; omega
  have n2 : (0xC2 ≤ b && b ≤ 0xDF) = false := by
    simp [UInt8.le_iff_toNat_le]; omega
  have n3 : (0xE0 ≤ b && b ≤ 0xEF) = false := by
    simp [UInt8.le_iff_toNat_le]; omega
  have y4 : (0xF0 ≤ b && b ≤ 0xF4) = true := by
    simp [UInt8.le_iff_toNat_le]; omega
  have hlo' : (if b = 0xF0 then (0x90 : UInt8) else 0x80) ≤ t1 := by
    split <;> rename_i h
    · simp [UInt8.le_iff_toNat_le]; exact hlo (by simp [h])
    · simp [UInt8.le_iff_toNat_le]; omega
  have hhi' : t1 ≤ (if b = 0xF4 then (0x8F : UInt8) else 0xBF) := by
    split <;> rename_i h
    · simp [UInt8.le_iff_toNat_le]; exact hhi (by simp [h])
    · simp [UInt8.le_iff_toNat_le]; omega
  have ht2 : isTail t2 = true := by
    simp [isTail, UInt8.le_iff_toNat_le]; omega
  have ht3 : isTail t3 = true := by
    simp [isTail, UInt8.le_iff_toNat_le]; omega
  simp [lead, n1, n2, n3, y4, hlo', hhi', ht2, ht3, combine, tailBits, UInt8.toNat_and, and_7, and_63]

/-- The decoder reads back the character whose UTF-8 octets stand first. -/
theorem next_utf8EncodeChar {c : Char} {b : UInt8} {bs : List UInt8}
    (h : String.utf8EncodeChar c = b :: bs) (rest : List UInt8) : next b (bs ++ rest) = (c, rest) := by
  have hv : c.toNat < 0xD800 ∨ (0xDFFF < c.toNat ∧ c.toNat < 0x110000) := c.valid
  have hc : Char.ofNat c.toNat = c := Char.ofNat_toNat c
  rw [String.utf8EncodeChar, show c.val.toNat = c.toNat from rfl] at h
  by_cases h1 : c.toNat ≤ 0x7f
  · simp only [h1, if_true, List.cons.injEq] at h
    obtain ⟨rfl, rfl⟩ := h
    have hb : (UInt8.ofNat c.toNat).toNat = c.toNat := toNat_ofNat_lt (by omega)
    rw [next, lead_ascii (by omega), hb, hc]
    rfl
  by_cases h2 : c.toNat ≤ 0x7ff
  · simp only [h1, h2, if_true, if_false, List.cons.injEq] at h
    obtain ⟨rfl, rfl, rfl⟩ := h
    rw [next, List.singleton_append, lead_two (by rw [toNat_ofNat_lt (by omega)]; omega)
      (by rw [toNat_ofNat_lt (by omega)]; omega), toNat_ofNat_lt (by omega),
      toNat_ofNat_lt (by omega)]
    have : (c.toNat / 64 % 32 + 0xc0) % 32 * 64 + (c.toNat % 64 + 0x80) % 64 = c.toNat := by omega
    rw [this, hc]
    rfl
  by_cases h3 : c.toNat ≤ 0xffff
  · simp only [h1, h2, h3, if_true, if_false, List.cons.injEq] at h
    obtain ⟨rfl, rfl, rfl⟩ := h
    rw [next, List.cons_append, List.singleton_append,
      lead_three (by rw [toNat_ofNat_lt (by omega)]; omega)
        (by rw [toNat_ofNat_lt (by omega), toNat_ofNat_lt (by omega)]; omega)
        (by rw [toNat_ofNat_lt (by omega), toNat_ofNat_lt (by omega)]; omega)
        (by rw [toNat_ofNat_lt (by omega)]; omega) (by rw [toNat_ofNat_lt (by omega)]; omega),
      toNat_ofNat_lt (by omega), toNat_ofNat_lt (by omega), toNat_ofNat_lt (by omega)]
    have : ((c.toNat / 4096 % 16 + 0xe0) % 16 * 64 + (c.toNat / 64 % 64 + 0x80) % 64) * 64 +
        (c.toNat % 64 + 0x80) % 64 = c.toNat := by omega
    rw [this, hc]
    rfl
  · simp only [h1, h2, h3, if_false, List.cons.injEq] at h
    obtain ⟨rfl, rfl, rfl⟩ := h
    rw [next, List.cons_append, List.cons_append, List.singleton_append,
      lead_four (by rw [toNat_ofNat_lt (by omega)]; omega)
        (by rw [toNat_ofNat_lt (by omega), toNat_ofNat_lt (by omega)]; omega)
        (by rw [toNat_ofNat_lt (by omega), toNat_ofNat_lt (by omega)]; omega)
        (by rw [toNat_ofNat_lt (by omega)]; omega) (by rw [toNat_ofNat_lt (by omega)]; omega)
        (by rw [toNat_ofNat_lt (by omega)]; omega),
      toNat_ofNat_lt (by omega), toNat_ofNat_lt (by omega), toNat_ofNat_lt (by omega),
      toNat_ofNat_lt (by omega)]
    have : (((c.toNat / 262144 % 8 + 0xf0) % 8 * 64 + (c.toNat / 4096 % 64 + 0x80) % 64) * 64 +
        (c.toNat / 64 % 64 + 0x80) % 64) * 64 + (c.toNat % 64 + 0x80) % 64 = c.toNat := by omega
    rw [this, hc]
    rfl


/-! ## Octets as a list -/

/-- The loop behind `ByteArray.toList` puts the octets from `i` on after the reversed
accumulator. -/
theorem toList_loop_eq_drop (bs : ByteArray) (i : Nat) (acc : List UInt8) :
    ByteArray.toList.loop bs i acc = acc.reverse ++ bs.data.toList.drop i := by
  fun_induction ByteArray.toList.loop bs i acc with
  | case1 i acc hlt ih =>
    -- the octet at `i` moves from the array to the accumulator
    have hdrop : bs.data.toList.drop i = bs.get! i :: bs.data.toList.drop (i + 1) := by
      have hlen : i < bs.data.toList.length := by simpa using hlt
      rw [List.drop_eq_getElem_cons hlen]
      simp [ByteArray.get!, hlt]
    rw [ih, hdrop, List.reverse_cons, List.append_assoc, List.singleton_append]
  | case2 i acc hge =>
    have hnil : bs.data.toList.drop i = [] :=
      List.drop_eq_nil_of_le (by simpa using Nat.le_of_not_lt hge)
    rw [hnil, List.append_nil]

/-- The octets of a text are the UTF-8 octets of its characters. -/
theorem toUTF8_toList (s : String) : s.toUTF8.toList = encode s := by
  rw [ByteArray.toList, toList_loop_eq_drop, String.toUTF8_eq_toByteArray,
    ← String.utf8Encode_toList, List.utf8Encode, List.toList_data_toByteArray]
  rfl

theorem encode_append (s t : String) : encode (s ++ t) = encode s ++ encode t := by
  simp [encode, String.toList_append]

theorem encode_ofList (cs : List Char) : encode (String.ofList cs) = cs.flatMap encodeChar := by
  simp [encode]

/-- A character below U+0080 is one octet, its code. -/
theorem utf8EncodeChar_ascii {c : Char} (h : c.toNat < 0x80) :
    String.utf8EncodeChar c = [UInt8.ofNat c.toNat] := by
  rw [String.utf8EncodeChar, show c.val.toNat = c.toNat from rfl]
  simp [show c.toNat ≤ 0x7f by omega]

/-- Every octet of a character from U+0080 on is at least `0x80`. -/
theorem le_of_mem_utf8EncodeChar {c : Char} (h : 0x80 ≤ c.toNat) {b : UInt8}
    (hb : b ∈ String.utf8EncodeChar c) : 0x80 ≤ b.toNat := by
  have hv : c.toNat < 0x110000 := by
    have : c.toNat < 0xD800 ∨ (0xDFFF < c.toNat ∧ c.toNat < 0x110000) := c.valid
    omega
  rw [String.utf8EncodeChar, show c.val.toNat = c.toNat from rfl] at hb
  by_cases h2 : c.toNat ≤ 0x7ff
  · simp only [show ¬ c.toNat ≤ 0x7f by omega, h2, if_true, if_false, List.mem_cons,
      List.not_mem_nil, or_false] at hb
    rcases hb with rfl | rfl <;> rw [toNat_ofNat_lt (by omega)] <;> omega
  by_cases h3 : c.toNat ≤ 0xffff
  · simp only [show ¬ c.toNat ≤ 0x7f by omega, h2, h3, if_true, if_false, List.mem_cons,
      List.not_mem_nil, or_false] at hb
    rcases hb with rfl | rfl | rfl <;> rw [toNat_ofNat_lt (by omega)] <;> omega
  · simp only [show ¬ c.toNat ≤ 0x7f by omega, h2, h3, if_false, List.mem_cons,
      List.not_mem_nil, or_false] at hb
    rcases hb with rfl | rfl | rfl | rfl <;> rw [toNat_ofNat_lt (by omega)] <;> omega

theorem utf8EncodeChar_ne_nil (c : Char) : String.utf8EncodeChar c ≠ [] := by
  rw [String.utf8EncodeChar]
  split
  · simp
  · split
    · simp
    · split <;> simp

/-- Decoding the octets of a text gives back its characters. -/
theorem decode_encode (s : String) : decode (encode s) = s.toList := by
  suffices h : ∀ cs : List Char, decode (cs.flatMap encodeChar) = cs from h s.toList
  intro cs
  induction cs with
  | nil => simp [decode]
  | cons c cs ih =>
    obtain ⟨b, bs, hc⟩ : ∃ b bs, String.utf8EncodeChar c = b :: bs :=
      List.exists_cons_of_ne_nil (utf8EncodeChar_ne_nil c)
    rw [List.flatMap_cons, encodeChar, hc, List.cons_append, decode,
      next_utf8EncodeChar hc, ih]

end TestDispatch.Utf8
