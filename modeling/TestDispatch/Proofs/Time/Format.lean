import TestDispatch.Time.Layout
import Mathlib
/-!
# Reading back the RFC 3339 form of an instant

`Instant.format` writes an instant in its own zone, and `Instant.parse` reads the text back.
Main result, `parse_format`: an instant whose year, as shown, lies in 0..9999, whose zone is a
whole number of minutes less than 24 hours away from UTC and whose nanoseconds are below 10^9
reads back as itself; so does it through `Instant.readStrict`, the reader of a JSON time field
(`readStrict_format`).

The calendar is the proleptic Gregorian one in 400-year eras of 146097 days, each counted from
March 1 so that the leap day ends a year. `civilFromDays` finds the year of an era that a day
falls in by a closed formula, `eraYearOf`; `eraYearOf_bounds` shows that it is the year whose
days hold the day, from the formula's monotonicity and its values at the first and last day of
each of the 400 years. From there `civilFromDays_spec` shows that the date it gives exists and
reads back to the day (`daysFromCivil`), the months from March to December (`date_of_late`) and
January and February, of the year after (`date_of_early`), each on its own; and `civil_spec` that
an instant shows a date and a time of day that together make its local second.

The text is read field by field (`parse_layout`): each number is written with the digits it
needs padded with zeros (`padded_two`, `padded_four`), the fraction without its trailing zeros
(`parseFraction_fraction`) and the zone as `Z` or `±hh:mm` (`parseZone_zoneText`).
-/

namespace TestDispatch.Instant

/-! ## Years of an era -/

/-- The first day of year `yoe` of an era, counted from the era's first March 1. -/
def eraYearStart (yoe : Int) : Int := 365 * yoe + yoe / 4 - yoe / 100

/-- The day after the last day of year `yoe` of an era. -/
def eraYearEnd (yoe : Int) : Int := if yoe = 399 then 146097 else eraYearStart (yoe + 1)

/-- The year of an era that day `doe` of the era falls in, as `civilFromDays` computes it. -/
def eraYearOf (doe : Int) : Int := (doe - doe / 1460 + doe / 36524 - doe / 146096) / 365

/-- The formula gives each year of an era at its first and at its last day. -/
theorem eraYearOf_checkpoints :
    ∀ y : Nat, y < 400 →
      eraYearOf (eraYearStart y) = y ∧ eraYearOf (eraYearEnd y - 1) = y := by
  decide +kernel

theorem eraYearOf_step {d : Int} (h0 : 0 ≤ d) (h1 : d < 146096) :
    eraYearOf d ≤ eraYearOf (d + 1) := by
  unfold eraYearOf
  omega

theorem eraYearOf_mono {a b : Int} (h0 : 0 ≤ a) (hab : a ≤ b) (hb : b ≤ 146096) :
    eraYearOf a ≤ eraYearOf b := by
  obtain ⟨k, rfl⟩ : ∃ k : Nat, b = a + k := ⟨(b - a).toNat, by omega⟩
  induction k with
  | zero => simp
  | succ k ih =>
    have hstep := eraYearOf_step (d := a + k) (by omega) (by omega)
    have := ih (by omega) (by omega)
    rw [show a + ((k + 1 : Nat) : Int) = a + k + 1 by omega]
    omega

theorem eraYearStart_range {y : Int} (h0 : 0 ≤ y) (h1 : y ≤ 399) :
    0 ≤ eraYearStart y ∧ eraYearStart y + 365 ≤ eraYearEnd y ∧ eraYearEnd y ≤ 146097 := by
  unfold eraYearEnd eraYearStart
  split <;> omega

/-- The checkpoints of year `y` of an era, for `y` an integer. -/
theorem eraYearOf_start {y : Int} (h0 : 0 ≤ y) (h1 : y < 400) :
    eraYearOf (eraYearStart y) = y ∧ eraYearOf (eraYearEnd y - 1) = y := by
  have := eraYearOf_checkpoints y.toNat (by omega)
  rwa [Int.toNat_of_nonneg h0] at this

/-- A day is not before the start of the year the formula gives: it would then be in the year
before, whose last day the formula maps to that year. -/
theorem eraYearStart_le {doe : Int} (h0 : 0 ≤ doe) (h1 : doe ≤ 146096)
    (hlow : 0 ≤ eraYearOf doe) (hhigh : eraYearOf doe ≤ 399) :
    eraYearStart (eraYearOf doe) ≤ doe := by
  rcases Int.lt_or_le doe (eraYearStart (eraYearOf doe)) with hlt | hle
  · have hpos : 0 < eraYearOf doe := by
      rcases Int.lt_or_le 0 (eraYearOf doe) with h | h
      · exact h
      · have hzero : eraYearOf doe = 0 := by omega
        rw [hzero, show eraYearStart 0 = 0 by decide] at hlt
        omega
    have hprev := (eraYearOf_start (y := eraYearOf doe - 1) (by omega) (by omega)).2
    have hend : eraYearEnd (eraYearOf doe - 1) = eraYearStart (eraYearOf doe) := by
      simp [eraYearEnd, show eraYearOf doe - 1 ≠ 399 by omega]
    have hrange := eraYearStart_range (y := eraYearOf doe - 1) (by omega) (by omega)
    have hmono := eraYearOf_mono h0 (b := eraYearEnd (eraYearOf doe - 1) - 1) (by omega)
      (by omega)
    omega
  · exact hle

/-- A day is before the end of the year the formula gives: it would otherwise be in the year
after, whose first day the formula maps to that year. -/
theorem lt_eraYearEnd {doe : Int} (h0 : 0 ≤ doe) (h1 : doe ≤ 146096)
    (hlow : 0 ≤ eraYearOf doe) (hhigh : eraYearOf doe ≤ 399) :
    doe < eraYearEnd (eraYearOf doe) := by
  rcases Int.lt_or_le doe (eraYearEnd (eraYearOf doe)) with hlt | hge
  · exact hlt
  · have hne : eraYearOf doe ≠ 399 := by
      intro h
      rw [h] at hge
      simp [eraYearEnd] at hge
      omega
    have hnext := (eraYearOf_start (y := eraYearOf doe + 1) (by omega) (by omega)).1
    have hend : eraYearEnd (eraYearOf doe) = eraYearStart (eraYearOf doe + 1) := by
      simp [eraYearEnd, hne]
    have hrange := eraYearStart_range (y := eraYearOf doe + 1) (by omega) (by omega)
    have hmono := eraYearOf_mono (a := eraYearStart (eraYearOf doe + 1)) (by omega) (by omega)
      h1
    omega

/-- The year `eraYearOf` finds is the year whose days hold the day. -/
theorem eraYearOf_bounds {doe : Int} (h0 : 0 ≤ doe) (h1 : doe ≤ 146096) :
    0 ≤ eraYearOf doe ∧ eraYearOf doe ≤ 399 ∧ eraYearStart (eraYearOf doe) ≤ doe ∧
      doe < eraYearEnd (eraYearOf doe) := by
  -- the formula is monotone, and gives 0 at the era's first day and 399 at its last
  have hlow : 0 ≤ eraYearOf doe := by
    have h := eraYearOf_mono (Int.le_refl 0) h0 h1
    rwa [show eraYearOf 0 = 0 by decide] at h
  have hhigh : eraYearOf doe ≤ 399 := by
    have h := eraYearOf_mono h0 h1 (Int.le_refl 146096)
    rwa [show eraYearOf 146096 = 399 by decide] at h
  exact ⟨hlow, hhigh, eraYearStart_le h0 h1 hlow hhigh, lt_eraYearEnd h0 h1 hlow hhigh⟩

/-! ## Dates -/

/-- A year of an era has 366 days exactly when the year its February falls in is a leap year. -/
theorem eraYear_length {yoe : Int} (era : Int) (h0 : 0 ≤ yoe) (h1 : yoe ≤ 399) :
    eraYearEnd yoe - eraYearStart yoe = if leapYear (yoe + era * 400 + 1) then 366 else 365 := by
  unfold eraYearEnd eraYearStart leapYear
  by_cases h399 : yoe = 399
  · simp [h399]
    omega
  · simp only [h399, if_false]
    split <;> simp_all <;> omega

/-- The day number of a date from March on: the days of the eras before it, of the years of its
era before it, of the months of its year before it, and its day of the month. -/
theorem daysFromCivil_of_late (y : Int) {m : Nat} (d : Nat) (hm : 2 < m) :
    daysFromCivil y m d =
      y / 400 * 146097 + eraYearStart (y % 400) + (153 * ((m : Int) - 3) + 2) / 5 + d - 1
        - 719468 := by
  have hm' : ¬ m ≤ 2 := by omega
  simp only [daysFromCivil, hm', if_false, eraYearStart, Int.emod_def]
  have hgt : (m : Int) > 2 := by omega
  simp only [hgt, if_true]
  omega

/-- The day number of a date in January or February, which belong to the year before in an era
counted from March. -/
theorem daysFromCivil_of_early (y : Int) {m : Nat} (d : Nat) (hm : m ≤ 2) :
    daysFromCivil y m d =
      (y - 1) / 400 * 146097 + eraYearStart ((y - 1) % 400) + (153 * ((m : Int) + 9) + 2) / 5
        + d - 1 - 719468 := by
  have hgt : ¬ (m : Int) > 2 := by omega
  simp only [daysFromCivil, hm, if_true, hgt, if_false, eraYearStart, Int.emod_def]
  omega

/-- The months from March to January have the days the formula `(153 * mp + 2) / 5` gives
between their first days. -/
theorem daysInMonth_of_march {mp : Int} (y : Int) (h0 : 0 ≤ mp) (h1 : mp < 11) :
    (153 * (mp + 1) + 2) / 5 - (153 * mp + 2) / 5 ≤
      daysInMonth y (if mp < 10 then mp + 3 else mp - 9).toNat := by
  have hmp : mp = 0 ∨ mp = 1 ∨ mp = 2 ∨ mp = 3 ∨ mp = 4 ∨ mp = 5 ∨ mp = 6 ∨ mp = 7 ∨
      mp = 8 ∨ mp = 9 ∨ mp = 10 := by omega
  rcases hmp with rfl | rfl | rfl | rfl | rfl | rfl | rfl | rfl | rfl | rfl | rfl <;>
    simp [daysInMonth]

/-- No month has more than 31 days. -/
theorem daysInMonth_le (year : Int) (month : Nat) : daysInMonth year month ≤ 31 := by
  unfold daysInMonth
  split
  · split <;> omega
  · split <;> omega

/-- Day `doy` of year `yoe` of an era, counted from March 1, falls from March to December when
its month from March is below 10: its day of that month exists in the era's year, and the date
reads back to the day. -/
theorem date_of_late (era : Int) {yoe doy mp d : Int} (hy0 : 0 ≤ yoe) (hy1 : yoe ≤ 399)
    (hdoy0 : 0 ≤ doy) (hmp : (5 * doy + 2) / 153 = mp) (hd : doy - (153 * mp + 2) / 5 + 1 = d)
    (hlow : mp < 10) :
    1 ≤ d ∧ d.toNat ≤ daysInMonth (yoe + era * 400) (mp + 3).toNat ∧
      daysFromCivil (yoe + era * 400) (mp + 3).toNat d.toNat =
        era * 146097 + eraYearStart yoe + doy - 719468 := by
  have hdays := daysInMonth_of_march (yoe + era * 400) (by omega : 0 ≤ mp) (by omega)
  simp only [if_pos hlow] at hdays
  refine ⟨by omega, by omega, ?_⟩
  rw [daysFromCivil_of_late _ _ (by omega), show (yoe + era * 400) / 400 = era by omega,
    show (yoe + era * 400) % 400 = yoe by omega]
  omega

/-- The same day falls in January or February of the year after when its month from March is 10
or 11; February has its 29th day exactly when the era's year has 366 days. -/
theorem date_of_early (era : Int) {yoe doy mp d : Int} (hy0 : 0 ≤ yoe) (hy1 : yoe ≤ 399)
    (hdoy0 : 0 ≤ doy) (hend : doy < eraYearEnd yoe - eraYearStart yoe)
    (hmp : (5 * doy + 2) / 153 = mp) (hd : doy - (153 * mp + 2) / 5 + 1 = d) (hlow : ¬ mp < 10) :
    mp ≤ 11 ∧ 1 ≤ d ∧ d.toNat ≤ daysInMonth (yoe + era * 400 + 1) (mp - 9).toNat ∧
      daysFromCivil (yoe + era * 400 + 1) (mp - 9).toNat d.toNat =
        era * 146097 + eraYearStart yoe + doy - 719468 := by
  have hlen := eraYear_length era hy0 hy1
  have hdoy1 : doy ≤ 365 := by split at hlen <;> omega
  refine ⟨by omega, by omega, ?_, ?_⟩
  · by_cases hjan : mp = 10
    · have hdays := daysInMonth_of_march (yoe + era * 400 + 1) (by omega : 0 ≤ mp) (by omega)
      simp only [if_neg hlow] at hdays
      omega
    · -- February: 28 days, or 29 when the era's year is a leap one
      have hfeb : (mp - 9).toNat = 2 := by omega
      rw [hfeb]
      simp only [daysInMonth, if_true]
      cases hleap : leapYear (yoe + era * 400 + 1) <;>
        simp only [hleap, if_true, if_false, Bool.false_eq_true] at hlen ⊢ <;> omega
  · rw [daysFromCivil_of_early _ _ (by omega),
      show (yoe + era * 400 + 1 - 1) / 400 = era by omega,
      show (yoe + era * 400 + 1 - 1) % 400 = yoe by omega]
    omega

/-- The date `civilFromDays` gives exists, and its day number is the day it was given. -/
theorem civilFromDays_spec (z : Int) {Y : Int} {m d : Nat} (h : civilFromDays z = (Y, m, d)) :
    1 ≤ m ∧ m ≤ 12 ∧ 1 ≤ d ∧ d ≤ daysInMonth Y m ∧ daysFromCivil Y m d = z := by
  -- name the era, the day of the era, its year, the day of that year and the month from March
  simp only [civilFromDays, Prod.mk.injEq] at h
  generalize hera : (z + 719468) / 146097 = era at h
  generalize hdoe : z + 719468 - era * 146097 = doe at h
  have hyoe : (doe - doe / 1460 + doe / 36524 - doe / 146096) / 365 = eraYearOf doe := rfl
  rw [hyoe] at h
  have hrange : 0 ≤ doe ∧ doe ≤ 146096 := by omega
  obtain ⟨hy0, hy1, hys, hye⟩ := eraYearOf_bounds hrange.1 hrange.2
  generalize eraYearOf doe = yoe at h hy0 hy1 hys hye
  have hstart : 365 * yoe + yoe / 4 - yoe / 100 = eraYearStart yoe := rfl
  rw [hstart] at h
  generalize hdoy : doe - eraYearStart yoe = doy at h
  generalize hmp : (5 * doy + 2) / 153 = mp at h
  generalize hday : doy - (153 * mp + 2) / 5 + 1 = day at h
  obtain ⟨hY, hm, hd⟩ := h
  subst hm hd hY
  by_cases hlow : mp < 10
  · obtain ⟨hd1, hdays, hback⟩ := date_of_late era hy0 hy1 (by omega) hmp hday hlow
    rw [if_pos hlow, if_neg (by omega : ¬ mp + 3 ≤ 2)]
    exact ⟨by omega, by omega, by omega, hdays, by omega⟩
  · obtain ⟨hmp11, hd1, hdays, hback⟩ :=
      date_of_early era hy0 hy1 (by omega) (by omega) hmp hday hlow
    rw [if_neg hlow, if_pos (by omega : mp - 9 ≤ 2)]
    exact ⟨by omega, by omega, by omega, hdays, by omega⟩

/-! ## Digits -/

theorem foldl_digits_eq (cs : List Char) (init : Nat) :
    cs.foldl (fun acc c => acc * 10 + (c.toNat - 48)) init = Nat.ofDigitChars 10 cs init := by
  induction cs generalizing init with
  | nil => rfl
  | cons c cs ih =>
    rw [List.foldl_cons, ih, Nat.ofDigitChars_cons, Nat.mul_comm]
    rfl

theorem padded_toList (w n : Nat) :
    (padded w n).toList =
      List.replicate (w - (Nat.toDigits 10 n).length) '0' ++ Nat.toDigits 10 n := by
  simp [padded, String.length]

theorem length_padded {w n : Nat} (hw : 0 < w) (h : n < Nat.pow 10 w) :
    (padded w n).toList.length = w := by
  rw [padded_toList]
  have hle : (Nat.toDigits 10 n).length ≤ w :=
    (Nat.length_toDigits_le_iff (by decide) hw).mpr (by simpa using h)
  simp
  omega

theorem isDigit_of_mem_padded {w n : Nat} {c : Char} (hc : c ∈ (padded w n).toList) :
    c.isDigit := by
  rw [padded_toList, List.mem_append, List.mem_replicate] at hc
  rcases hc with ⟨-, rfl⟩ | hc
  · decide
  · exact Nat.isDigit_of_mem_toDigits (by decide) (by decide) hc

theorem value_padded (w n : Nat) : Nat.ofDigitChars 10 (padded w n).toList 0 = n := by
  rw [padded_toList, Nat.ofDigitChars_append, Nat.ofDigitChars_replicate_zero, Nat.mul_zero,
    Nat.ofDigitChars_ten_toDigits]

theorem digitsIn_padded {w n lo hi : Nat} (hlo : lo ≤ n) (hhi : n ≤ hi) :
    digitsIn (padded w n).toList lo hi = some n := by
  have hne : (padded w n).toList ≠ [] := by
    rw [padded_toList]
    simp
  have hdig : (padded w n).toList.all Char.isDigit :=
    List.all_eq_true.mpr fun _ => isDigit_of_mem_padded
  simp [digitsIn, List.isEmpty_iff, hne, hdig, foldl_digits_eq, value_padded, hlo, hhi]

/-- A number below 100 is written as two digits, which read back as the number. -/
theorem padded_two {n lo hi : Nat} (h : n < 100) (hlo : lo ≤ n) (hhi : n ≤ hi) :
    ∃ a b, (padded 2 n).toList = [a, b] ∧ digitsIn [a, b] lo hi = some n := by
  obtain ⟨a, b, hab⟩ := List.length_eq_two.mp (length_padded (by decide) (w := 2) h)
  exact ⟨a, b, hab, hab ▸ digitsIn_padded hlo hhi⟩

/-- A number below 10000 is written as four digits, which read back as the number. -/
theorem padded_four {n lo hi : Nat} (h : n < 10000) (hlo : lo ≤ n) (hhi : n ≤ hi) :
    ∃ a b c d, (padded 4 n).toList = [a, b, c, d] ∧ digitsIn [a, b, c, d] lo hi = some n := by
  obtain ⟨a, b, c, d, habcd⟩ := List.length_eq_four.mp (length_padded (by decide) (w := 4) h)
  exact ⟨a, b, c, d, habcd, habcd ▸ digitsIn_padded hlo hhi⟩

/-! ## The fraction of a second -/

/-- A list of characters is its part before its trailing zeros, then those zeros. -/
theorem trailing_zeros (l : List Char) :
    l = (l.reverse.dropWhile (· = '0')).reverse ++
      List.replicate (l.reverse.takeWhile (· = '0')).length '0' := by
  have hz : l.reverse.takeWhile (· = '0') =
      List.replicate (l.reverse.takeWhile (· = '0')).length '0' := by
    rw [List.eq_replicate_iff]
    refine ⟨rfl, fun c hc => ?_⟩
    simpa using List.all_eq_true.mp List.all_takeWhile c hc
  calc l = (l.reverse.takeWhile (· = '0') ++ l.reverse.dropWhile (· = '0')).reverse := by simp
    _ = _ := by
      rw [List.reverse_append]
      congr 1
      rw [hz, List.reverse_replicate, List.length_replicate]

theorem parseFraction_other {c : Char} (zs : List Char) (hc : c ≠ '.') :
    parseFraction (c :: zs) = (0, c :: zs) := by
  unfold parseFraction
  split
  · rename_i h
    cases h
    exact absurd rfl hc
  · rfl

theorem parseFraction_fraction {n : Nat} (hn : n < Nat.pow 10 9) {c : Char} (zs : List Char)
    (hc : c.isDigit = false) (hdot : c ≠ '.') :
    parseFraction ((fraction n).toList ++ c :: zs) = (n, c :: zs) := by
  by_cases h0 : n = 0
  · subst h0
    simpa [fraction] using parseFraction_other zs hdot
  have hsplit := trailing_zeros (padded 9 n).toList
  generalize htr : ((padded 9 n).toList.reverse.dropWhile (· = '0')).reverse = tr at hsplit
  generalize hk : ((padded 9 n).toList.reverse.takeWhile (· = '0')).length = k at hsplit
  have hfrac : (fraction n).toList = '.' :: tr := by
    simp [fraction, h0, htr]
  have hlen : tr.length + k = 9 := by
    rw [← length_padded (by decide) hn, hsplit]
    simp
  have hdig : ∀ x ∈ tr, x.isDigit := fun x hx =>
    isDigit_of_mem_padded (hsplit ▸ List.mem_append_left _ hx)
  have hval : Nat.pow 10 k * Nat.ofDigitChars 10 tr 0 = n := by
    have h := value_padded 9 n
    rwa [hsplit, Nat.ofDigitChars_append, Nat.ofDigitChars_replicate_zero] at h
  obtain ⟨d, more, rfl⟩ : ∃ d more, tr = d :: more := by
    cases tr with
    | nil => simp [Nat.ofDigitChars_nil] at hval; omega
    | cons d more => exact ⟨d, more, rfl⟩
  have htake : (d :: (more ++ c :: zs)).takeWhile Char.isDigit = d :: more := by
    rw [← List.cons_append, List.takeWhile_append_of_pos hdig,
      List.takeWhile_cons_of_neg (by simp [hc]), List.append_nil]
  rw [hfrac]
  unfold parseFraction
  simp only [List.cons_append, hdig d List.mem_cons_self, if_true, htake]
  have htake9 : (d :: more).take 9 = d :: more := List.take_of_length_le (by omega)
  rw [htake9, foldl_digits_eq, show 9 - (d :: more).length = k by omega, Nat.mul_comm, hval,
    ← List.cons_append, List.drop_left]
/-! ## Time of day -/

/-- The date and time an instant shows: a date that exists, a time of day, and together the
instant's local second. -/
theorem civil_spec (t : Instant) {y : Int} {m d h mi s : Nat} (hc : t.civil = (y, m, d, h, mi, s)) :
    1 ≤ m ∧ m ≤ 12 ∧ 1 ≤ d ∧ d ≤ daysInMonth y m ∧ h < 24 ∧ mi < 60 ∧ s < 60 ∧
      daysFromCivil y m d * 86400 + h * 3600 + mi * 60 + s = t.unix + t.offset := by
  simp only [civil] at hc
  generalize hdate : civilFromDays ((t.unix + t.offset) / 86400) = date at hc
  obtain ⟨y', m', d'⟩ := date
  simp only [Prod.mk.injEq] at hc
  obtain ⟨rfl, rfl, rfl, rfl, rfl, rfl⟩ := hc
  obtain ⟨hm0, hm1, hd0, hd1, hdays⟩ := civilFromDays_spec _ hdate
  refine ⟨hm0, hm1, hd0, hd1, by omega, by omega, by omega, ?_⟩
  rw [hdays]
  omega

/-! ## Zones -/

/-- Interpolating a text inserts it as it is. -/
@[simp] theorem toString_text (s : String) : toString s = s := rfl

/-- A zone of whole minutes less than a day away from UTC reads back as its offset. -/
theorem parseZone_zoneText {offset : Int} (h60 : offset % 60 = 0) (hday : offset.natAbs < 86400) :
    parseZone (zoneText offset).toList = some offset := by
  by_cases h0 : offset = 0
  · simp [zoneText, parseZone, h0]
  obtain ⟨h1, h2, hh, hhd⟩ := @padded_two (offset.natAbs / 60 / 60) 0 23 (by omega) (by omega)
    (by omega)
  obtain ⟨m1, m2, hm, hmd⟩ := @padded_two (offset.natAbs / 60 % 60) 0 59 (by omega) (by omega)
    (by omega)
  have htext : (zoneText offset).toList =
      [if offset < 0 then '-' else '+', h1, h2, ':', m1, m2] := by
    simp only [zoneText, h0, if_false]
    split <;> simp [hh, hm]
  rw [htext]
  -- the offset is its sign and its magnitude, a whole number of minutes
  have hmag : (offset.natAbs : Int) = if offset < 0 then -offset else offset := by
    split
    · exact Int.ofNat_natAbs_of_nonpos (by omega)
    · exact Int.ofNat_natAbs_of_nonneg (by omega)
  generalize offset.natAbs = n at hhd hmd hmag hday
  by_cases hneg : offset < 0
  · simp only [if_pos hneg] at hmag
    simp [parseZone, hneg, hhd, hmd]
    omega
  · simp only [if_neg hneg] at hmag
    simp [parseZone, hneg, hhd, hmd]
    omega

/-- A zone starts with `Z` or a sign: neither a digit nor the point of a fraction. -/
theorem zoneText_head (offset : Int) :
    ∃ c zs, (zoneText offset).toList = c :: zs ∧ c.isDigit = false ∧ c ≠ '.' := by
  unfold zoneText
  split
  · exact ⟨'Z', [], rfl, by decide, by decide⟩
  · split
    · exact ⟨'-', _, by simp; rfl, by decide, by decide⟩
    · exact ⟨'+', _, by simp; rfl, by decide, by decide⟩

/-! ## Reading back -/

/-- `parse` reads a text of the RFC 3339 layout from its fields. -/
theorem parse_layout {text : String} {y1 y2 y3 y4 m1 m2 d1 d2 h1 h2 i1 i2 s1 s2 : Char}
    {rest zone : List Char} {year month day hour minute second nanos : Nat} {offset : Int}
    (htext : text.toList = [y1, y2, y3, y4, '-', m1, m2, '-', d1, d2, 'T', h1, h2, ':', i1, i2,
      ':', s1, s2] ++ rest)
    (hY : digitsIn [y1, y2, y3, y4] 0 9999 = some year) (hM : digitsIn [m1, m2] 1 12 = some month)
    (hD : digitsIn [d1, d2] 1 (daysInMonth year month) = some day)
    (hH : digitsIn [h1, h2] 0 23 = some hour) (hI : digitsIn [i1, i2] 0 59 = some minute)
    (hS : digitsIn [s1, s2] 0 59 = some second)
    (hF : parseFraction rest = (nanos, zone)) (hZ : parseZone zone = some offset) :
    parse text = some (ofCivil year month day hour minute second nanos offset) := by
  simp [parse, htext, hY, hM, hD, hH, hI, hS, hF, hZ]

/-- An instant whose year, as shown, lies in 0..9999, whose zone is a whole number of minutes
less than a day away from UTC and whose nanoseconds are below a second reads back from its
RFC 3339 form as itself. -/
theorem parse_format {t : Instant} (hyear : t.yearInRange) (h60 : t.offset % 60 = 0)
    (hday : t.offset.natAbs < 86400) (hnanos : t.nanos < Nat.pow 10 9) :
    parse t.format = some t := by
  generalize hc : t.civil = c
  obtain ⟨y, m, d, h, mi, s⟩ := c
  obtain ⟨hm0, hm1, hd0, hd1, hh, hmi, hs, hlocal⟩ := civil_spec t hc
  have hy : 0 ≤ y ∧ y ≤ 9999 := by simpa [yearInRange, hc] using hyear
  have hdays : daysInMonth ((y.toNat : Nat) : Int) m = daysInMonth y m := by
    rw [Int.toNat_of_nonneg hy.1]
  obtain ⟨y1, y2, y3, y4, hyt, hyd⟩ := @padded_four y.toNat 0 9999 (by omega) (by omega)
    (by omega)
  obtain ⟨m1, m2, hmt, hmd⟩ := @padded_two m 1 12 (by omega) hm0 hm1
  obtain ⟨d1, d2, hdt, hdd⟩ := @padded_two d 1 (daysInMonth ((y.toNat : Nat) : Int) m)
    (by have := daysInMonth_le y m; omega) hd0 (by omega)
  obtain ⟨h1, h2, hht, hhd⟩ := @padded_two h 0 23 (by omega) (by omega) (by omega)
  obtain ⟨i1, i2, hit, hid⟩ := @padded_two mi 0 59 (by omega) (by omega) (by omega)
  obtain ⟨s1, s2, hst, hsd⟩ := @padded_two s 0 59 (by omega) (by omega) (by omega)
  obtain ⟨c, zs, hz, hzc, hzd⟩ := zoneText_head t.offset
  have hyt' : (yearText y).toList = [y1, y2, y3, y4] := by
    simp [yearText, show ¬ y < 0 by omega, hyt]
  have htext : t.format.toList = [y1, y2, y3, y4, '-', m1, m2, '-', d1, d2, 'T', h1, h2, ':', i1,
      i2, ':', s1, s2] ++ ((fraction t.nanos).toList ++ c :: zs) := by
    simp [format, hc, hyt', hmt, hdt, hht, hit, hst, hz]
  rw [parse_layout htext hyd hmd hdd hhd hid hsd (parseFraction_fraction hnanos zs hzc hzd)
    (hz ▸ parseZone_zoneText h60 hday)]
  rw [Int.toNat_of_nonneg hy.1, Option.some.injEq]
  unfold ofCivil
  rcases t with ⟨unix, nanos, offset⟩
  dsimp only at hlocal ⊢
  simp only [Instant.mk.injEq, and_true]
  omega

/-- The reader of a JSON time field reads such an instant back as itself. -/
theorem readStrict_format {t : Instant} (hyear : t.yearInRange) (h60 : t.offset % 60 = 0)
    (hday : t.offset.natAbs < 86400) (hnanos : t.nanos < Nat.pow 10 9) :
    readStrict t.format = .ok t := by
  simp [readStrict, parse_format hyear h60 hday hnanos]

end TestDispatch.Instant
