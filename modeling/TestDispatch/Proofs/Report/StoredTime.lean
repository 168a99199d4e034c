import TestDispatch.Report.Database
import TestDispatch.Proofs.Time.Order
import TestDispatch.Proofs.Text.OctetOrder
import TestDispatch.Proofs.Json.Integers
/-!
# Stored times

A report keeps its times as text of one fixed layout, `2024-01-02T03:04:05.120000000Z`: the
instant in UTC, every field written with the digits of its width. The database orders reports
by that text. Main results, for instants whose year in UTC lies in 0..9999 (`Storable`):

* `readTime_storedTime`: the text reads back as the instant, in UTC;
* `storedTime_lt_iff`: one text is below another, compared character by character or octet by
  octet, exactly when its instant is the earlier one;
* `storedTime_eq_iff`: two texts are equal exactly when their instants are the same point in time.

The order rests on the layout: texts of digits of one width compare as the numbers they write
(`padded_lt_iff`), fields of one width compare before what follows them
(`append_lt_append_iff`), and UTC dates and times compare as the instants (`unix_lt_of_civil`).
-/

namespace TestDispatch

open Instant

/-! ## Digits of one width -/

theorem char_lt_iff {c c' : Char} : c < c' ↔ c.toNat < c'.toNat := by
  rw [Char.lt_def, UInt32.lt_iff_toNat_lt]
  rfl

/-- The value of digits: the first digit at the place of the rest's count. -/
theorem ofDigitChars_cons_zero (c : Char) (cs : List Char) :
    Nat.ofDigitChars 10 (c :: cs) 0 = 10 ^ cs.length * (c.toNat - 48) + Nat.ofDigitChars 10 cs 0 := by
  rw [Nat.ofDigitChars_cons, Nat.ofDigitChars_eq_ofDigitChars_zero, Nat.mul_zero, Nat.zero_add]
  rfl

/-- A lower number at a place of value `P` stays lower whatever is below that place. -/
theorem place_lt {P a a' v v' : Nat} (hv : v < P) (ha : a < a') : P * a + v < P * a' + v' := by
  have hle := Nat.mul_le_mul_left P (Nat.succ_le_of_lt ha)
  rw [Nat.mul_succ] at hle
  omega

/-- Digits write a number below the power of ten of their count. -/
theorem ofDigitChars_lt : ∀ {cs : List Char}, (∀ c ∈ cs, c.isDigit) →
    Nat.ofDigitChars 10 cs 0 < 10 ^ cs.length
  | [], _ => by simp [Nat.ofDigitChars_nil]
  | c :: cs, h => by
    have hc := Json.digit_toNat (h c List.mem_cons_self)
    have ih := ofDigitChars_lt fun x hx => h x (List.mem_cons_of_mem c hx)
    rw [ofDigitChars_cons_zero, List.length_cons, Nat.pow_succ]
    have := @place_lt _ (c.toNat - 48) 10 _ 0 ih (by omega)
    omega

/-- Digits of one count compare character by character as the numbers they write. -/
theorem digits_lt_iff : ∀ {xs ys : List Char}, xs.length = ys.length → (∀ c ∈ xs, c.isDigit) →
    (∀ c ∈ ys, c.isDigit) → (xs < ys ↔ Nat.ofDigitChars 10 xs 0 < Nat.ofDigitChars 10 ys 0)
  | [], [], _, _, _ => by simp [Nat.ofDigitChars_nil]
  | c :: cs, c' :: cs', hl, hx, hy => by
    have hl' : cs.length = cs'.length := by simpa using hl
    have htail := digits_lt_iff hl' (fun x hx' => hx x (List.mem_cons_of_mem c hx'))
      (fun y hy' => hy y (List.mem_cons_of_mem c' hy'))
    have hb := ofDigitChars_lt fun x hx' => hx x (List.mem_cons_of_mem c hx')
    have hb' := ofDigitChars_lt fun y hy' => hy y (List.mem_cons_of_mem c' hy')
    have hc := Json.digit_toNat (hx c List.mem_cons_self)
    have hc' := Json.digit_toNat (hy c' List.mem_cons_self)
    rw [List.cons_lt_cons_iff, htail, char_lt_iff, ← Char.toNat_inj, ofDigitChars_cons_zero,
      ofDigitChars_cons_zero, ← hl']
    rw [← hl'] at hb'
    -- the first digits decide, unless they are equal
    rcases Nat.lt_trichotomy c.toNat c'.toNat with hlt | heq | hgt
    · have := @place_lt _ (c.toNat - 48) (c'.toNat - 48) _ (Nat.ofDigitChars 10 cs' 0) hb
        (by omega)
      simp only [hlt, true_or, true_iff]
      exact this
    · rw [heq]
      simp
    · have := @place_lt _ (c'.toNat - 48) (c.toNat - 48) _ (Nat.ofDigitChars 10 cs 0) hb'
        (by omega)
      constructor
      · rintro (h | ⟨h, -⟩) <;> omega
      · intro h
        omega

/-- Numbers written with the digits of one width compare as the numbers. -/
theorem padded_lt_iff {w a b : Nat} (hw : 0 < w) (ha : a < Nat.pow 10 w) (hb : b < Nat.pow 10 w) :
    (padded w a).toList < (padded w b).toList ↔ a < b := by
  rw [digits_lt_iff ((length_padded hw ha).trans (length_padded hw hb).symm)
    (fun _ => isDigit_of_mem_padded) (fun _ => isDigit_of_mem_padded), value_padded,
    value_padded]

theorem padded_inj {w a b : Nat} : (padded w a).toList = (padded w b).toList ↔ a = b :=
  ⟨fun h => by rw [← value_padded w a, h, value_padded], fun h => h ▸ rfl⟩

/-- Lists that begin with parts of one length compare by those parts first. -/
theorem append_lt_append_iff {α : Type} [LT α] : ∀ {p q : List α} (x y : List α),
    p.length = q.length → (p ++ x < q ++ y ↔ p < q ∨ (p = q ∧ x < y))
  | [], [], x, y, _ => by simp
  | a :: p, b :: q, x, y, hl => by
    rw [List.cons_append, List.cons_append, List.cons_lt_cons_iff, List.cons_lt_cons_iff,
      append_lt_append_iff x y (by simpa using hl), List.cons.injEq]
    tauto

/-- A field of one width followed by one separator compares before what follows it. -/
theorem field_lt_iff {w a b : Nat} (hw : 0 < w) (ha : a < Nat.pow 10 w) (hb : b < Nat.pow 10 w)
    (c : Char) (x y : List Char) :
    (padded w a).toList ++ c :: x < (padded w b).toList ++ c :: y ↔ a < b ∨ (a = b ∧ x < y) := by
  rw [append_lt_append_iff _ _ ((length_padded hw ha).trans (length_padded hw hb).symm),
    padded_lt_iff hw ha hb, padded_inj, List.cons_lt_cons_iff]
  simp

/-! ## The layout -/

@[simp] theorem Instant.utc_unix (t : Instant) : t.utc.unix = t.unix := rfl
@[simp] theorem Instant.utc_nanos (t : Instant) : t.utc.nanos = t.nanos := rfl
@[simp] theorem Instant.utc_offset (t : Instant) : t.utc.offset = 0 := rfl

@[simp] theorem Instant.before_utc (t t' : Instant) : t.utc.before t'.utc = t.before t' := rfl
@[simp] theorem Instant.sameTime_utc (t t' : Instant) : t.utc.sameTime t'.utc = t.sameTime t' := rfl

namespace ReportDb

/-- An instant the layout holds: its year in UTC lies in 0..9999, and its nanoseconds are below a
second. -/
def Storable (t : Instant) : Prop := t.utc.yearInRange = true ∧ t.nanos < 1000000000

instance : DecidablePred Storable := fun t =>
  inferInstanceAs (Decidable (t.utc.yearInRange = true ∧ t.nanos < 1000000000))

/-- The stored text, field by field, of an instant that shows the given date and time in UTC. -/
theorem storedTime_toList (t : Instant) {y : Int} {mo d h mi s : Nat}
    (hc : t.utc.civil = (y, mo, d, h, mi, s)) :
    (storedTime t).toList = (yearText y).toList ++ ('-' :: ((padded 2 mo).toList ++
      ('-' :: ((padded 2 d).toList ++ ('T' :: ((padded 2 h).toList ++ (':' ::
      ((padded 2 mi).toList ++ (':' :: ((padded 2 s).toList ++ ('.' ::
      ((padded 9 t.nanos).toList ++ ['Z'])))))))))))) := by
  delta storedTime
  simp [hc]

/-- The year of a storable instant, and its text: four digits. -/
theorem storable_year {t : Instant} (ht : Storable t) {y : Int} {mo d h mi s : Nat}
    (hc : t.utc.civil = (y, mo, d, h, mi, s)) :
    0 ≤ y ∧ y ≤ 9999 ∧ (yearText y).toList = (padded 4 y.toNat).toList := by
  have hy : 0 ≤ y ∧ y ≤ 9999 := by simpa [yearInRange, hc] using ht.1
  exact ⟨hy.1, hy.2, by simp [yearText, show ¬ y < 0 by omega]⟩

/-- The text of a storable instant reads back as the instant, in UTC. -/
theorem readTime_storedTime {t : Instant} (ht : Storable t) : readTime (storedTime t) = some t.utc := by
  generalize hc : t.utc.civil = c
  obtain ⟨y, m, d, h, mi, s⟩ := c
  obtain ⟨hm0, hm1, hd0, hd1, hh, hmi, hs, hlocal⟩ := civil_spec t.utc hc
  obtain ⟨hy0, hy1, hyear⟩ := storable_year ht hc
  have hdays : daysInMonth ((y.toNat : Nat) : Int) m = daysInMonth y m := by
    rw [Int.toNat_of_nonneg hy0]
  -- each field is written with the digits of its width, which read back as the field
  obtain ⟨y1, y2, y3, y4, hyt, hyd⟩ := @padded_four y.toNat 0 9999 (by omega) (by omega)
    (by omega)
  obtain ⟨m1, m2, hmt, hmd⟩ := @padded_two m 1 12 (by omega) hm0 hm1
  obtain ⟨d1, d2, hdt, hdd⟩ := @padded_two d 1 (daysInMonth ((y.toNat : Nat) : Int) m)
    (by have := daysInMonth_le y m; omega) hd0 (by omega)
  obtain ⟨h1, h2, hht, hhd⟩ := @padded_two h 0 23 (by omega) (by omega) (by omega)
  obtain ⟨i1, i2, hit, hid⟩ := @padded_two mi 0 59 (by omega) (by omega) (by omega)
  obtain ⟨s1, s2, hst, hsd⟩ := @padded_two s 0 59 (by omega) (by omega) (by omega)
  have hnlen : (padded 9 t.nanos).toList.length = 9 := length_padded (by decide) ht.2
  have hnd : digitsIn (padded 9 t.nanos).toList 0 999999999 = some t.nanos :=
    digitsIn_padded (by omega) (by have := ht.2; omega)
  have htext : (storedTime t).toList = [y1, y2, y3, y4, '-', m1, m2, '-', d1, d2, 'T', h1, h2,
      ':', i1, i2, ':', s1, s2, '.'] ++ ((padded 9 t.nanos).toList ++ ['Z']) := by
    rw [storedTime_toList t hc, hyear, hyt, hmt, hdt, hht, hit, hst]
    simp
  have hlayout : (String.ofList ([y1, y2, y3, y4, '-', m1, m2, '-', d1, d2, 'T', h1, h2, ':', i1,
      i2, ':', s1, s2] ++ ['Z'])).toList = [y1, y2, y3, y4, '-', m1, m2, '-', d1, d2, 'T', h1, h2,
      ':', i1, i2, ':', s1, s2] ++ ['Z'] := String.toList_ofList
  have hbase := parse_layout hlayout hyd hmd hdd hhd hid hsd (parseFraction_other [] (by decide))
    (by rfl : parseZone ['Z'] = some 0)
  have htake : (storedTime t).toList.take 19 ++ ['Z'] = [y1, y2, y3, y4, '-', m1, m2, '-', d1,
      d2, 'T', h1, h2, ':', i1, i2, ':', s1, s2] ++ ['Z'] := by
    rw [htext]
    rfl
  have hdrop : ((storedTime t).toList.drop 20).take 9 = (padded 9 t.nanos).toList := by
    rw [htext]
    simp [hnlen]
  unfold readTime
  simp only [htake, hdrop, hnd, hbase]
  simp [htext, hnlen]
  -- the date and time read back make the instant's second in UTC
  rw [max_eq_left hy0]
  simp only [Instant.utc_unix, Instant.utc_offset, Int.add_zero] at hlocal
  simp only [ofCivil, Instant.utc, Instant.mk.injEq, and_true]
  omega

/-- Two dates and times of day: one is earlier, they are the same, or the other is earlier. -/
theorem civil_trichotomy (y y' : Int) (m m' d d' h h' mi mi' s s' : Nat) :
    (y < y' ∨ (y = y' ∧ (m < m' ∨ (m = m' ∧ (d < d' ∨ (d = d' ∧ (h < h' ∨
      (h = h' ∧ (mi < mi' ∨ (mi = mi' ∧ s < s')))))))))) ∨
    (y = y' ∧ m = m' ∧ d = d' ∧ h = h' ∧ mi = mi' ∧ s = s') ∨
    (y' < y ∨ (y' = y ∧ (m' < m ∨ (m' = m ∧ (d' < d ∨ (d' = d ∧ (h' < h ∨
      (h' = h ∧ (mi' < mi ∨ (mi' = mi ∧ s' < s)))))))))) := by
  omega

/-- Texts of storable instants compare as the instants: one is below another exactly when its
instant is the earlier one. -/
theorem storedTime_lt_iff {t t' : Instant} (ht : Storable t) (ht' : Storable t') :
    storedTime t < storedTime t' ↔ t.before t' = true := by
  generalize hc : t.utc.civil = c
  generalize hc' : t'.utc.civil = c'
  obtain ⟨y, m, d, h, mi, s⟩ := c
  obtain ⟨y', m', d', h', mi', s'⟩ := c'
  obtain ⟨hm0, hm1, hd0, hd1, hh, hmi, hs, hlocal⟩ := civil_spec t.utc hc
  obtain ⟨hm0', hm1', hd0', hd1', hh', hmi', hs', hlocal'⟩ := civil_spec t'.utc hc'
  obtain ⟨hy0, hy1, hyear⟩ := storable_year ht hc
  obtain ⟨hy0', hy1', hyear'⟩ := storable_year ht' hc'
  have hn := ht.2
  have hn' := ht'.2
  have hdim := daysInMonth_le y m
  have hdim' := daysInMonth_le y' m'
  have p2 : Nat.pow 10 2 = 100 := rfl
  have p4 : Nat.pow 10 4 = 10000 := rfl
  have p9 : Nat.pow 10 9 = 1000000000 := rfl
  have hylt : y.toNat < y'.toNat ↔ y < y' := by omega
  have hyeq : y.toNat = y'.toNat ↔ y = y' := by omega
  -- the texts compare field by field, each field as the number it writes
  show (storedTime t).toList < (storedTime t').toList ↔ _
  rw [storedTime_toList t hc, storedTime_toList t' hc', hyear, hyear',
    field_lt_iff (by decide) (by rw [p4]; omega) (by rw [p4]; omega),
    field_lt_iff (by decide) (by rw [p2]; omega) (by rw [p2]; omega),
    field_lt_iff (by decide) (by rw [p2]; omega) (by rw [p2]; omega),
    field_lt_iff (by decide) (by rw [p2]; omega) (by rw [p2]; omega),
    field_lt_iff (by decide) (by rw [p2]; omega) (by rw [p2]; omega),
    field_lt_iff (by decide) (by rw [p2]; omega) (by rw [p2]; omega),
    field_lt_iff (by decide) (by rw [p9]; omega) (by rw [p9]; omega)]
  simp only [List.lt_irrefl, and_false, or_false, before, Bool.or_eq_true, decide_eq_true_eq,
    Bool.and_eq_true, hylt, hyeq]
  -- the dates and times compare as the instants
  have hlater : (y < y' ∨ (y = y' ∧ (m < m' ∨ (m = m' ∧ (d < d' ∨ (d = d' ∧ (h < h' ∨ (h = h' ∧
      (mi < mi' ∨ (mi = mi' ∧ s < s')))))))))) → t.unix < t'.unix := fun hlex => by
    simpa using unix_lt_of_civil (by simp : t.utc.offset = t'.utc.offset) hc hc' hlex
  have hearlier : (y' < y ∨ (y' = y ∧ (m' < m ∨ (m' = m ∧ (d' < d ∨ (d' = d ∧ (h' < h ∨
      (h' = h ∧ (mi' < mi ∨ (mi' = mi ∧ s' < s)))))))))) → t'.unix < t.unix := fun hlex => by
    simpa using unix_lt_of_civil (by simp : t'.utc.offset = t.utc.offset) hc' hc hlex
  have hsame : t.unix = t'.unix → y = y' ∧ m = m' ∧ d = d' ∧ h = h' ∧ mi = mi' ∧ s = s' :=
    fun hu => by
      simpa [hc, hc'] using civil_eq_of_unix (by simp : t.utc.offset = t'.utc.offset) (by simpa using hu)
  constructor
  · rintro (hlex | ⟨rfl, hlex | ⟨rfl, hlex | ⟨rfl, hlex | ⟨rfl, hlex | ⟨rfl, hlex | ⟨rfl, hlt⟩⟩⟩⟩⟩⟩)
    -- the first field that differs is smaller in the first time
    iterate 6 exact .inl (hlater (by simp [hlex]))
    -- the same date and time, a smaller fraction
    simp only [Instant.utc_unix, Instant.utc_offset, Int.add_zero] at hlocal hlocal'
    exact .inr ⟨by omega, hlt⟩
  · rintro (hu | ⟨hu, hlt⟩)
    · rcases civil_trichotomy y y' m m' d d' h h' mi mi' s s' with hf | hf | hf
      · omega
      · obtain ⟨rfl, rfl, rfl, rfl, rfl, rfl⟩ := hf
        simp only [Instant.utc_unix, Instant.utc_offset, Int.add_zero] at hlocal hlocal'
        omega
      · have := hearlier hf
        omega
    · obtain ⟨rfl, rfl, rfl, rfl, rfl, rfl⟩ := hsame hu
      omega

/-- Texts of storable instants are equal exactly when the instants are the same point in time. -/
theorem storedTime_eq_iff {t t' : Instant} (ht : Storable t) (ht' : Storable t') :
    storedTime t = storedTime t' ↔ t.sameTime t' = true := by
  constructor
  · -- equal texts read back as one instant
    intro h
    have hread : some t.utc = some t'.utc := by
      rw [← readTime_storedTime ht, ← readTime_storedTime ht', h]
    simp only [Option.some.injEq, Instant.utc, Instant.mk.injEq, and_true] at hread
    simp [sameTime, hread]
  · -- the text is made of the instant in UTC alone
    intro h
    have hutc : t.utc = t'.utc := by
      simp only [sameTime, Bool.and_eq_true, decide_eq_true_eq] at h
      simp [Instant.utc, h.1, h.2]
    delta storedTime
    rw [hutc]

end ReportDb

end TestDispatch
