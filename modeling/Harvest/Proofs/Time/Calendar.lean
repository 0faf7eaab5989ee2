import Harvest.Time
import Mathlib
/-!
# Harvest.Proofs.Time.Calendar

The day number of a civil date and the civil date of a day number are inverse.

Both computations count in eras of 400 years (146097 days) whose years start on the first of March,
so that the leap day ends the year. Within an era, a date is its year of the era and its day of that
year; the day of the era is `dayOfEra`. Reading the year back from the day of the era
(`yearOfEra_dayOfEra`) and the month back from the day of the year (`monthOfYear_dayOfYear`) are
the two facts the round trip rests on; the main statement is `civilFromDays_daysFromCivil`.
-/

namespace Harvest

namespace Instant

/-! ## The parts of a day number -/

/-- The year of a date counted from March: January and February belong to the year before. -/
def marchYear (y : Int) (m : Nat) : Int := if m ≤ 2 then y - 1 else y

/-- The month of a date counted from March, from `0` (March) to `11` (February). -/
def marchMonth (m : Nat) : Int := if m > 2 then m - 3 else m + 9

/-- The day of the year counted from the first of March, from `0`. -/
def dayOfYear (mp : Int) (d : Nat) : Int := (153 * mp + 2) / 5 + d - 1

/-- The day of the era of the `yoe`-th year of an era and its `doy`-th day. -/
def dayOfEra (yoe doy : Int) : Int := yoe * 365 + yoe / 4 - yoe / 100 + doy

/-- The year of the era a day of the era falls in. -/
def yearOfEra (doe : Int) : Int := (doe - doe / 1460 + doe / 36524 - doe / 146096) / 365

/-- The civil date of the day `doe` of the era `era`. -/
def civilOfEra (era doe : Int) : Int × Nat × Nat :=
  let yoe := yearOfEra doe
  let doy := doe - (365 * yoe + yoe / 4 - yoe / 100)
  let mp := (5 * doy + 2) / 153
  let d := doy - (153 * mp + 2) / 5 + 1
  let m := if mp < 10 then mp + 3 else mp - 9
  ((if m ≤ 2 then yoe + era * 400 + 1 else yoe + era * 400), m.toNat, d.toNat)

theorem daysFromCivil_eq (y : Int) (m d : Nat) :
    daysFromCivil y m d = marchYear y m / 400 * 146097 +
      dayOfEra (marchYear y m - marchYear y m / 400 * 400) (dayOfYear (marchMonth m) d) - 719468 :=
  rfl

theorem civilFromDays_eq (z : Int) :
    civilFromDays z = civilOfEra ((z + 719468) / 146097) (z + 719468 - (z + 719468) / 146097 * 146097) :=
  rfl

/-- A civil date that exists: a month from 1 to 12 and a day of that month. -/
structure IsDate (y : Int) (m d : Nat) : Prop where
  month_pos : 1 ≤ m
  month_le : m ≤ 12
  day_pos : 1 ≤ d
  day_le : d ≤ daysIn y m

/-- No month has more than 31 days. -/
theorem daysIn_le (y : Int) (m : Nat) : daysIn y m ≤ 31 := by
  unfold daysIn
  split
  · split <;> omega
  · split <;> omega

/-! ## Reading a date back -/

/-- The year of an era is read back from its day of the era: a day of the year past the 365th is
the leap day, which only a year before a leap year (in the March count) has. -/
theorem yearOfEra_dayOfEra {yoe doy : Int} (h0 : 0 ≤ yoe) (h1 : yoe ≤ 399) (h2 : 0 ≤ doy)
    (h3 : doy ≤ 365) (hleap : doy = 365 → (yoe + 1) % 4 = 0 ∧ ((yoe + 1) % 100 ≠ 0 ∨ yoe = 399)) :
    yearOfEra (dayOfEra yoe doy) = yoe := by
  -- the year of the era as centuries, four-year cycles and years
  obtain ⟨c, q, r, hyoe, hc0, hc1, hq0, hq1, hr0, hr1⟩ : ∃ c q r : Int, yoe = 100 * c + 4 * q + r ∧
      0 ≤ c ∧ c ≤ 3 ∧ 0 ≤ q ∧ q ≤ 24 ∧ 0 ≤ r ∧ r ≤ 3 :=
    ⟨yoe / 100, yoe % 100 / 4, yoe % 4, by omega, by omega, by omega, by omega, by omega, by omega,
      by omega⟩
  have hdoe : dayOfEra yoe doy = 36524 * c + 1461 * q + 365 * r + doy := by
    unfold dayOfEra
    omega
  unfold yearOfEra
  rw [hdoe]
  by_cases hd : doy = 365
  · obtain ⟨h4, h100⟩ := hleap hd
    have hr : r = 3 := by omega
    subst hr
    rcases h100 with h100 | h399
    · -- a leap day that ends no century: one four-year correction, none for the centuries
      have hq : q < 24 := by
        by_contra hq
        have : q = 24 := by omega
        subst this
        omega
      have e1 : (36524 * c + 1461 * q + 365 * 3 + doy) / 1460 = 25 * c + q + 1 := by omega
      have e2 : (36524 * c + 1461 * q + 365 * 3 + doy) / 36524 = c := by omega
      have e3 : (36524 * c + 1461 * q + 365 * 3 + doy) / 146096 = 0 := by omega
      rw [e1, e2, e3]
      omega
    · -- the leap day that ends the era
      have e1 : (36524 * c + 1461 * q + 365 * 3 + doy) / 1460 = 100 := by omega
      have e2 : (36524 * c + 1461 * q + 365 * 3 + doy) / 36524 = 4 := by omega
      have e3 : (36524 * c + 1461 * q + 365 * 3 + doy) / 146096 = 1 := by omega
      rw [e1, e2, e3]
      omega
  · have e2 : (36524 * c + 1461 * q + 365 * r + doy) / 36524 = c := by omega
    have e3 : (36524 * c + 1461 * q + 365 * r + doy) / 146096 = 0 := by omega
    rw [e2, e3]
    omega

/-- The month counted from March is read back from a day of the year within that month. -/
theorem monthOfYear_dayOfYear {mp : Int} {d : Nat} (hd : 1 ≤ d)
    (hlen : dayOfYear mp d < (153 * (mp + 1) + 2) / 5) :
    (5 * dayOfYear mp d + 2) / 153 = mp := by
  unfold dayOfYear at *
  omega

/-- Within a month a day of the year lies before the next month's first; only the 29th of
February is the 366th day of the year counted from March. -/
theorem dayOfYear_bounds {y : Int} {m d : Nat} (h : IsDate y m d) :
    0 ≤ dayOfYear (marchMonth m) d ∧ dayOfYear (marchMonth m) d ≤ 365 ∧
      dayOfYear (marchMonth m) d < (153 * (marchMonth m + 1) + 2) / 5 ∧
      (dayOfYear (marchMonth m) d = 365 → m = 2 ∧ d = 29) := by
  obtain ⟨hm1, hm2, hd1, hd2⟩ := h
  interval_cases m <;> simp [daysIn, marchMonth, dayOfYear] at hd2 ⊢ <;> (try split at hd2) <;>
    omega

/-- A 29th of February is in a leap year. -/
theorem isLeap_of_feb29 {y : Int} (h : 29 ≤ daysIn y 2) : isLeap y = true := by
  unfold daysIn at h
  simp only [beq_self_eq_true, if_true] at h
  split at h
  · assumption
  · omega

/-- A day number is read in its era: the day of the era of a date is within its 146097 days. -/
theorem civilFromDays_era {era doe : Int} (h0 : 0 ≤ doe) (h1 : doe ≤ 146096) :
    civilFromDays (era * 146097 + doe - 719468) = civilOfEra era doe := by
  have hera : (era * 146097 + doe - 719468 + 719468) / 146097 = era := by omega
  have hdoe : era * 146097 + doe - 719468 + 719468 - era * 146097 = doe := by omega
  rw [civilFromDays_eq, hera, hdoe]

/-- Within an era, the year of the era and the day of the year are read back from the day of the
era; the month and the day are then read from the day of the year. -/
theorem civilOfEra_dayOfEra {era yoe doy : Int} (h0 : 0 ≤ yoe) (h1 : yoe ≤ 399) (h2 : 0 ≤ doy)
    (h3 : doy ≤ 365) (hleap : doy = 365 → (yoe + 1) % 4 = 0 ∧ ((yoe + 1) % 100 ≠ 0 ∨ yoe = 399)) :
    civilOfEra era (dayOfEra yoe doy) =
      ((if (if (5 * doy + 2) / 153 < 10 then (5 * doy + 2) / 153 + 3 else (5 * doy + 2) / 153 - 9) ≤ 2
          then yoe + era * 400 + 1 else yoe + era * 400),
        (if (5 * doy + 2) / 153 < 10 then (5 * doy + 2) / 153 + 3 else (5 * doy + 2) / 153 - 9).toNat,
        (doy - (153 * ((5 * doy + 2) / 153) + 2) / 5 + 1).toNat) := by
  have hdoy : dayOfEra yoe doy - (365 * yoe + yoe / 4 - yoe / 100) = doy := by
    unfold dayOfEra
    omega
  simp only [civilOfEra, yearOfEra_dayOfEra h0 h1 h2 h3 hleap, hdoy]

/-- The day number of a civil date gives the date back. -/
theorem civilFromDays_daysFromCivil {y : Int} {m d : Nat} (h : IsDate y m d) :
    civilFromDays (daysFromCivil y m d) = (y, m, d) := by
  obtain ⟨hdoy0, hdoy1, hdoylt, hdoy365⟩ := dayOfYear_bounds h
  have hmonth := monthOfYear_dayOfYear h.day_pos hdoylt
  rw [daysFromCivil_eq]
  generalize hY : marchYear y m = Y
  generalize hmp : marchMonth m = mp at hdoy0 hdoy1 hdoylt hdoy365 hmonth
  generalize hdoy : dayOfYear mp d = doy at hdoy0 hdoy1 hdoylt hdoy365 hmonth
  generalize hera : Y / 400 = era
  have hyoe : 0 ≤ Y - era * 400 ∧ Y - era * 400 ≤ 399 := by omega
  -- the leap day of the March year `Y` is the 29th of February of the civil year `Y + 1`
  have hleap : doy = 365 → (Y - era * 400 + 1) % 4 = 0 ∧
      ((Y - era * 400 + 1) % 100 ≠ 0 ∨ Y - era * 400 = 399) := by
    intro h365
    obtain ⟨rfl, rfl⟩ := hdoy365 h365
    have hy := isLeap_of_feb29 h.day_le
    simp only [marchYear, if_pos (show 2 ≤ 2 by omega)] at hY
    simp [isLeap] at hy
    omega
  have hdoe : 0 ≤ dayOfEra (Y - era * 400) doy ∧ dayOfEra (Y - era * 400) doy ≤ 146096 := by
    unfold dayOfEra
    omega
  have hday : doy - (153 * mp + 2) / 5 + 1 = d := by
    rw [← hdoy]
    unfold dayOfYear
    omega
  have hm : (if mp < 10 then mp + 3 else mp - 9) = m := by
    rw [← hmp]
    unfold marchMonth
    have := h.month_pos
    have := h.month_le
    split <;> split <;> omega
  rw [civilFromDays_era hdoe.1 hdoe.2,
    civilOfEra_dayOfEra hyoe.1 hyoe.2 hdoy0 hdoy1 hleap, hmonth, hday, hm, Int.toNat_natCast]
  -- the civil year is the March year, one later for January and February
  unfold marchYear at hY
  split <;> split at hY <;> simp <;> omega

/-- The calendar fields of an instant within the day of a civil date are that date and the time
of day. -/
theorem fields_civil {y : Int} {m d hh mm ss : Nat} (h : IsDate y m d) (hh24 : hh < 24)
    (hmm : mm < 60) (hss : ss < 60) (ns : Nat) :
    fields ⟨daysFromCivil y m d * 86400 + hh * 3600 + mm * 60 + ss, ns⟩ = (y, m, d, hh, mm, ss) := by
  have hdays : (daysFromCivil y m d * 86400 + hh * 3600 + mm * 60 + ss) / 86400 =
      daysFromCivil y m d := by
    omega
  have hsecs : ((daysFromCivil y m d * 86400 + hh * 3600 + mm * 60 + ss) % 86400).toNat =
      hh * 3600 + mm * 60 + ss := by
    omega
  have hhour : (hh * 3600 + mm * 60 + ss) / 3600 = hh := by omega
  have hminute : (hh * 3600 + mm * 60 + ss) / 60 % 60 = mm := by omega
  have hsecond : (hh * 3600 + mm * 60 + ss) % 60 = ss := by omega
  simp only [fields, hdays, hsecs, civilFromDays_daysFromCivil h, hhour, hminute,
    hsecond]

end Instant

end Harvest
