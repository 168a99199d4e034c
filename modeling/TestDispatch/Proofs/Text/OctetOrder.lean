import Mathlib.Data.String.Basic
import TestDispatch.Proofs.Text.Utf8
import TestDispatch.Proofs.Text.ByteOrder
/-!
# Byte order is the order of texts

Names are listed in byte order, their UTF-8 octets compared one by one, and the sort compares
them with `<` of `String`, which compares characters by code point. The two orders agree
(`lt_iff_textOctets_lt`), so `sortTexts` lists texts in byte order (`sortTexts_byteOrder`).

UTF-8 writes a code point as base-64 digits under a lead octet whose high bits give the number
of octets (`Utf8.octets_eq`). Of two characters, the smaller one has the smaller octets
(`Utf8.octets_lt_of_lt`), and the lead octets already differ when the octet counts do
(`Utf8.octets_length_eq_of_head`). So whatever follows them, the octets of the smaller character
compare smaller (`Utf8.octets_append_lt`), and the order carries over to texts character by
character.
-/

namespace TestDispatch

/-- Lists of one length compared lexicographically: the comparison is decided within them, so it
stays the same whatever follows them. -/
theorem append_lt_append_of_length_eq {α : Type} [LT α] {p q : List α}
    (hl : p.length = q.length) (h : p < q) (x y : List α) : p ++ x < q ++ y := by
  induction h with
  | nil => simp at hl
  | rel h => exact .rel h
  | cons _ ih => exact .cons (ih (by simpa using hl))

namespace Utf8

/-- The UTF-8 octets of a character, as numbers. -/
def octets (c : Char) : List Nat := (encodeChar c).map UInt8.toNat

/-- The UTF-8 octets of a text, as numbers. -/
def textOctets (s : String) : List Nat := (encode s).map UInt8.toNat

theorem textOctets_eq (s : String) : textOctets s = s.toList.flatMap octets := by
  rw [textOctets, encode, List.map_flatMap]
  rfl

theorem toNat_lt_char_limit (c : Char) : c.toNat < 0x110000 := by
  have hc : c.toNat = c.val.toNat := rfl
  rcases c.valid with h | ⟨-, h⟩ <;> omega

/-- The octets of a character: its code point itself below U+0080, and else its base-64 digits,
the first one under the lead octet's marker of the octet count and the others under `0x80`. -/
theorem octets_eq (c : Char) : octets c =
    if c.toNat ≤ 0x7f then [c.toNat]
    else if c.toNat ≤ 0x7ff then [c.toNat / 64 % 32 + 0xc0, c.toNat % 64 + 0x80]
    else if c.toNat ≤ 0xffff then
      [c.toNat / 64 / 64 % 16 + 0xe0, c.toNat / 64 % 64 + 0x80, c.toNat % 64 + 0x80]
    else
      [c.toNat / 64 / 64 / 64 % 8 + 0xf0, c.toNat / 64 / 64 % 64 + 0x80,
        c.toNat / 64 % 64 + 0x80, c.toNat % 64 + 0x80] := by
  have hc : c.val.toNat = c.toNat := rfl
  -- the digits as repeated division by 64, the form in which `omega` compares them
  have h4096 : c.toNat / 4096 = c.toNat / 64 / 64 := by rw [Nat.div_div_eq_div_mul]
  have h262144 : c.toNat / 262144 = c.toNat / 64 / 64 / 64 := by
    rw [Nat.div_div_eq_div_mul, Nat.div_div_eq_div_mul]
  unfold octets encodeChar String.utf8EncodeChar
  simp only [hc, h4096, h262144]
  split_ifs <;> simp only [List.map_cons, List.map_nil] <;>
    (repeat' rw [toNat_ofNat_lt (by omega)])

theorem octets_ne_nil (c : Char) : octets c ≠ [] := by
  simp [octets, encodeChar, utf8EncodeChar_ne_nil c]

/-- A smaller character has smaller octets. -/
theorem octets_lt_of_lt {c d : Char} (h : c < d) : octets c < octets d := by
  have hv : c.toNat < d.toNat := h
  have hd := toNat_lt_char_limit d
  rw [octets_eq, octets_eq]
  split_ifs <;> simp [List.cons_lt_cons_iff] <;> omega

/-- The lead octet tells how many octets a character has. -/
theorem octets_length_eq_of_head {c d : Char} (h : (octets c).head? = (octets d).head?) :
    (octets c).length = (octets d).length := by
  have hc := toNat_lt_char_limit c
  have hd := toNat_lt_char_limit d
  rw [octets_eq, octets_eq] at *
  split_ifs at * <;> simp at * <;> omega

/-- The octets of a smaller character compare smaller, whatever follows them. -/
theorem octets_append_lt {c d : Char} (h : c < d) (x y : List Nat) :
    octets c ++ x < octets d ++ y := by
  by_cases hl : (octets c).length = (octets d).length
  · exact append_lt_append_of_length_eq hl (octets_lt_of_lt h) x y
  -- of different lengths, the lead octets differ, and the smaller one decides
  obtain ⟨a, p, hc⟩ := List.exists_cons_of_ne_nil (octets_ne_nil c)
  obtain ⟨b, q, hd⟩ := List.exists_cons_of_ne_nil (octets_ne_nil d)
  have hab : a ≠ b := fun hab => hl (octets_length_eq_of_head (by simp [hc, hd, hab]))
  have hlt := octets_lt_of_lt h
  rw [hc, hd, List.cons_lt_cons_iff] at hlt
  rw [hc, hd, List.cons_append, List.cons_append, List.cons_lt_cons_iff]
  exact .inl (hlt.resolve_right fun h => hab h.1)

theorem flatMap_octets_lt {cs ds : List Char} (h : cs < ds) :
    cs.flatMap octets < ds.flatMap octets := by
  induction h with
  | nil =>
    obtain ⟨b, q, hd⟩ := List.exists_cons_of_ne_nil (octets_ne_nil ‹Char›)
    rw [List.flatMap_nil, List.flatMap_cons, hd, List.cons_append]
    exact List.nil_lt_cons _ _
  | rel h => exact octets_append_lt h _ _
  | cons _ ih => exact List.Lex.append_left _ ih _

theorem textOctets_lt_of_lt {s t : String} (h : s < t) : textOctets s < textOctets t := by
  rw [textOctets_eq, textOctets_eq]
  exact flatMap_octets_lt (String.lt_iff_toList_lt.mp h)

/-- One text comes before another exactly when its UTF-8 octets do, compared one by one. -/
theorem lt_iff_textOctets_lt (s t : String) : s < t ↔ textOctets s < textOctets t := by
  refine ⟨textOctets_lt_of_lt, fun h => ?_⟩
  -- the converse from the totality of the order of texts
  rcases lt_trichotomy s t with hst | rfl | hts
  · exact hst
  · exact absurd h (List.lt_irrefl _)
  · exact absurd h (List.lt_asymm (textOctets_lt_of_lt hts))

end Utf8

/-- Sorted texts are in byte order: no text has octets smaller than an earlier one's. -/
theorem sortTexts_byteOrder (xs : List String) :
    (sortTexts xs).Pairwise fun a b => ¬ Utf8.textOctets b < Utf8.textOctets a :=
  (sortTexts_sorted xs).imp fun h => by
    rw [← Utf8.lt_iff_textOctets_lt]
    exact not_lt.mpr h

end TestDispatch
