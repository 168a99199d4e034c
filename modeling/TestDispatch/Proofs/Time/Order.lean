import TestDispatch.Proofs.Time.Format
/-!
# Later dates, later days

The day number of a date grows with the date: from the first day of a month to the first of the
next lie the days of the month (`daysFromCivil_next_month`, `daysFromCivil_next_year`), so a
later valid date has a larger day number (`daysFromCivil_lt`). With the time of day it makes an
instant's local second, so instants shown in one zone come in the order of the dates and times
they show, field by field from the year down to the second (`unix_lt_of_civil`), and show the
same ones exactly when they are the same second (`civil_eq_of_unix`).
-/

namespace TestDispatch.Instant

/-- A date that exists: a month of the year and a day of that month. -/
def ValidDate (y : Int) (m d : Nat) : Prop := 1 ≤ m ∧ m ≤ 12 ∧ 1 ≤ d ∧ d ≤ daysInMonth y m

/-! ## From month to month -/

theorem daysFromCivil_day (y : Int) (m d : Nat) :
    daysFromCivil y m d = daysFromCivil y m 1 + d - 1 := by
  simp only [daysFromCivil]
  omega

/-- February ends where the year counted from March ends, a day later in a leap year. -/
theorem daysFromCivil_march (y : Int) :
    daysFromCivil y 3 1 = daysFromCivil y 2 1 + daysInMonth y 2 := by
  rw [daysFromCivil_of_late y 1 (by decide), daysFromCivil_of_early y 1 (by decide)]
  -- the year from March before `y` is year `(y - 1) % 400` of its era, the last one or not
  have hlen := @eraYear_length ((y - 1) % 400) ((y - 1) / 400) (by omega) (by omega)
  rw [show (y - 1) % 400 + (y - 1) / 400 * 400 + 1 = y by omega] at hlen
  unfold eraYearEnd at hlen
  simp only [daysInMonth, if_true]
  cases hleap : leapYear y <;>
    simp only [hleap, Bool.false_eq_true, if_false, if_true] at hlen ⊢ <;>
    by_cases h399 : (y - 1) % 400 = 399 <;>
    simp only [h399, if_true, if_false, eraYearStart] at hlen ⊢ <;>
    omega

/-- From the first day of a month to the first of the next month of the year, its days. -/
theorem daysFromCivil_next_month (y : Int) {m : Nat} (h1 : 1 ≤ m) (h11 : m ≤ 11) :
    daysFromCivil y (m + 1) 1 = daysFromCivil y m 1 + daysInMonth y m := by
  rcases (by omega : m = 1 ∨ m = 2 ∨ 3 ≤ m) with rfl | rfl | hm
  · -- January and February lie in the year counted from the March before
    rw [daysFromCivil_of_early y 1 (by decide), daysFromCivil_of_early y 1 (by decide)]
    simp [daysInMonth]
    omega
  · exact daysFromCivil_march y
  · rw [daysFromCivil_of_late y 1 (by omega), daysFromCivil_of_late y 1 (by omega)]
    have hm' : m = 3 ∨ m = 4 ∨ m = 5 ∨ m = 6 ∨ m = 7 ∨ m = 8 ∨ m = 9 ∨ m = 10 ∨ m = 11 := by
      omega
    rcases hm' with rfl | rfl | rfl | rfl | rfl | rfl | rfl | rfl | rfl <;>
      simp [daysInMonth] <;> omega

/-- December ends where the next year begins. -/
theorem daysFromCivil_next_year (y : Int) :
    daysFromCivil (y + 1) 1 1 = daysFromCivil y 12 1 + daysInMonth y 12 := by
  rw [daysFromCivil_of_early (y + 1) 1 (by decide), daysFromCivil_of_late y 1 (by decide),
    Int.add_sub_cancel]
  simp [daysInMonth]
  omega

/-! ## Later dates -/

/-- A month ends before any later month of its year begins. -/
theorem month_end_le (y : Int) {m m' : Nat} (h1 : 1 ≤ m) (hlt : m < m') (h12 : m' ≤ 12) :
    daysFromCivil y m 1 + daysInMonth y m ≤ daysFromCivil y m' 1 := by
  induction m', hlt using Nat.le_induction with
  | base => rw [daysFromCivil_next_month y h1 (by omega)]
  | succ n hn ih =>
    have hstep := daysFromCivil_next_month y (m := n) (by omega) (by omega)
    have := ih (by omega)
    omega

theorem month_start_le (y : Int) {m : Nat} (h1 : 1 ≤ m) (h12 : m ≤ 12) :
    daysFromCivil y 1 1 ≤ daysFromCivil y m 1 := by
  rcases Nat.lt_or_ge 1 m with hlt | hle
  · have := month_end_le y (le_refl 1) hlt h12
    omega
  · obtain rfl : m = 1 := by omega
    exact le_refl _

/-- A year ends before the next begins. -/
theorem year_end_le (y : Int) {m : Nat} (h1 : 1 ≤ m) (h12 : m ≤ 12) :
    daysFromCivil y m 1 + daysInMonth y m ≤ daysFromCivil (y + 1) 1 1 := by
  rw [daysFromCivil_next_year]
  rcases Nat.lt_or_ge m 12 with hlt | hge
  · have := month_end_le y h1 hlt (le_refl 12)
    omega
  · obtain rfl : m = 12 := by omega
    exact le_refl _

/-- Later years begin later. -/
theorem year_start_le {y y' : Int} (h : y < y') :
    daysFromCivil (y + 1) 1 1 ≤ daysFromCivil y' 1 1 := by
  have h' : y + 1 ≤ y' := h
  induction y', h' using Int.leInduction with
  | base => exact le_refl _
  | succ n hn ih =>
    have := year_end_le n (le_refl 1) (by decide)
    omega

/-- A later valid date has a larger day number. -/
theorem daysFromCivil_lt {y y' : Int} {m d m' d' : Nat} (hv : ValidDate y m d)
    (hv' : ValidDate y' m' d') (hlt : y < y' ∨ (y = y' ∧ (m < m' ∨ (m = m' ∧ d < d')))) :
    daysFromCivil y m d < daysFromCivil y' m' d' := by
  obtain ⟨hm1, hm12, hd1, hdm⟩ := hv
  obtain ⟨hm1', hm12', hd1', hdm'⟩ := hv'
  rw [daysFromCivil_day y m d, daysFromCivil_day y' m' d']
  rcases hlt with hy | ⟨rfl, hm | ⟨rfl, hd⟩⟩
  · -- its year ends before the later year begins, which is before its month begins
    have hend := year_end_le y hm1 hm12
    have hyears := year_start_le hy
    have hstart := month_start_le y' hm1' hm12'
    omega
  · have := month_end_le y hm1 hm hm12'
    omega
  · omega

/-! ## Later instants -/

/-- Of two instants shown in one zone, the one that shows the later date and time, compared
field by field from the year down to the second, is the later one. -/
theorem unix_lt_of_civil {t t' : Instant} (ho : t.offset = t'.offset) {y y' : Int}
    {m d h mi s m' d' h' mi' s' : Nat} (hc : t.civil = (y, m, d, h, mi, s))
    (hc' : t'.civil = (y', m', d', h', mi', s'))
    (hlt : y < y' ∨ (y = y' ∧ (m < m' ∨ (m = m' ∧ (d < d' ∨ (d = d' ∧ (h < h' ∨ (h = h' ∧
      (mi < mi' ∨ (mi = mi' ∧ s < s')))))))))) :
    t.unix < t'.unix := by
  obtain ⟨hm1, hm12, hd1, hdm, hh, hmi, hs, hsec⟩ := civil_spec t hc
  obtain ⟨hm1', hm12', hd1', hdm', hh', hmi', hs', hsec'⟩ := civil_spec t' hc'
  by_cases hdate : y < y' ∨ (y = y' ∧ (m < m' ∨ (m = m' ∧ d < d')))
  · -- a later date: a later day, whatever the times of day
    have := daysFromCivil_lt ⟨hm1, hm12, hd1, hdm⟩ ⟨hm1', hm12', hd1', hdm'⟩ hdate
    omega
  · -- the same date: a later time of day
    obtain ⟨rfl, rfl, rfl⟩ : y = y' ∧ m = m' ∧ d = d' := by omega
    omega

/-- Instants shown in one zone at the same second show the same date and time. -/
theorem civil_eq_of_unix {t t' : Instant} (ho : t.offset = t'.offset) (hu : t.unix = t'.unix) :
    t.civil = t'.civil := by
  simp only [civil, ho, hu]

end TestDispatch.Instant
