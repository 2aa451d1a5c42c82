import CriteriaSql.Calendar.Date
import Mathlib.Tactic.IntervalCases
import Mathlib.Tactic.Set

/-!
# Days and dates

Every count of days is the count of its date, and that date exists. The argument goes down from eras of 400
years, which are all alike, to centuries, cycles of four years, years and months; the year begins in March
throughout, so that a leap day is the last day of all of these.

* `EraDay`, `exists_eraDay`: the place of a day in its era.
* `YearDay`, `ofDays_eq`: the place of a day in its year, and the date that is read off from it.
* `toDays_ofDays`, `isValid_ofDays`: the date of a day has its count and exists.
-/

namespace CriteriaSql.Calendar.Date

/-! ## A day in its era -/

/-- Day `n` of an era is day `d` of year `y` of cycle `q` of century `c`. A year has a 366th day only at the
end of a cycle, and a century has one only at the end of the era. -/
structure EraDay (n c q y d : Int) : Prop where
  century : 0 ≤ c ∧ c ≤ 3
  cycle : 0 ≤ q ∧ q ≤ 24
  year : 0 ≤ y ∧ y ≤ 3
  day : 0 ≤ d ∧ d ≤ 365
  leapDay : d = 365 → y = 3 ∧ (q = 24 → c = 3)
  total : n = 36524 * c + 1461 * q + 365 * y + d

theorem exists_eraDay {n : Int} (h0 : 0 ≤ n) (h1 : n < 146097) : ∃ c q y d, EraDay n c q y d := by
  -- the last day of an era, and of a cycle, would open a century or a year of its own
  obtain ⟨c, r, hc, hr, hn⟩ : ∃ c r : Int, (0 ≤ c ∧ c ≤ 3) ∧
      (0 ≤ r ∧ r ≤ 36524 ∧ (r = 36524 → c = 3)) ∧ n = 36524 * c + r := by
    by_cases hlast : n = 146096
    · exact ⟨3, 36524, by omega, by omega, by omega⟩
    · exact ⟨n / 36524, n % 36524, by omega, by omega, by omega⟩
  obtain ⟨q, s, hq, hs, hr'⟩ : ∃ q s : Int, (0 ≤ q ∧ q ≤ 24) ∧
      (0 ≤ s ∧ s ≤ 1460 ∧ (s = 1460 → q = 24 → c = 3)) ∧ r = 1461 * q + s :=
    ⟨r / 1461, r % 1461, by omega, by omega, by omega⟩
  obtain ⟨y, d, hy, hd, hs'⟩ : ∃ y d : Int, (0 ≤ y ∧ y ≤ 3) ∧
      (0 ≤ d ∧ d ≤ 365 ∧ (d = 365 → y = 3)) ∧ s = 365 * y + d := by
    by_cases hlast : s = 1460
    · exact ⟨3, 365, by omega, by omega, by omega⟩
    · exact ⟨s / 365, s % 365, by omega, by omega, by omega⟩
  exact ⟨c, q, y, d, hc, hq, hy, by omega, by omega, by omega⟩

namespace EraDay

variable {n c q y d : Int}

/-- The year of an era, once the leap days before it are taken off. -/
theorem yearOfEra (h : EraDay n c q y d) :
    (n - n / 1460 + n / 36524 - n / 146096) / 365 = 100 * c + 4 * q + y := by
  obtain ⟨hc, hq, hy, hd, hleap, hn⟩ := h
  by_cases hlast : n = 146096
  · obtain ⟨rfl, rfl, rfl⟩ : c = 3 ∧ q = 24 ∧ y = 3 := by omega
    omega
  · have hera : n / 146096 = 0 := by omega
    have hcentury : n / 36524 = c := by omega
    have hcycle : n / 1460 = 25 * c + q ∨ n / 1460 = 25 * c + q + 1 := by omega
    rw [hera, hcentury]
    -- the leap day of the running cycle is counted at the end of its last year
    rcases hcycle with hcycle | hcycle
    · have hd' : d ≤ 364 := by omega
      rw [hcycle]
      omega
    · have hd' : 1 ≤ d := by omega
      rw [hcycle]
      omega

theorem yearStart_eq (h : EraDay n c q y d) : yearStart (100 * c + 4 * q + y) = n - d := by
  obtain ⟨hc, hq, hy, -, -, rfl⟩ := h
  unfold yearStart
  omega

/-- The leap day ends a leap year. -/
theorem isLeap (h : EraDay n c q y d) (hd : d = 365) :
    Date.isLeap (100 * c + 4 * q + y + 1) = true := by
  obtain ⟨rfl, hlast⟩ := h.leapDay hd
  have hcycle := h.cycle
  have h4 : (100 * c + 4 * q + 3 + 1) % 4 = 0 := by omega
  have h400 : (100 * c + 4 * q + 3 + 1) % 100 ≠ 0 ∨ (100 * c + 4 * q + 3 + 1) % 400 = 0 := by omega
  simpa [Date.isLeap, h4] using h400

end EraDay

/-! ## A day in its year -/

/-- A day count falls on day `d` of the year that starts in March of `y`. -/
structure YearDay (days y d : Int) : Prop where
  day : 0 ≤ d ∧ d ≤ 365
  leapDay : d = 365 → isLeap (y + 1) = true
  total : days + epochShift = yearStart y + d

theorem isLeap_era (era y : Int) : isLeap (400 * era + y) = isLeap y := by
  have h4 : (400 * era + y) % 4 = y % 4 := by omega
  have h100 : (400 * era + y) % 100 = y % 100 := by omega
  have h400 : (400 * era + y) % 400 = y % 400 := by omega
  rw [isLeap, isLeap, h4, h100, h400]

theorem yearStart_era (era y : Int) : yearStart (400 * era + y) = 146097 * era + yearStart y := by
  unfold yearStart
  omega

/-- **The date of a day is read off from its place in its year.** -/
theorem ofDays_eq (days : Int) : ∃ y d, YearDay days y d ∧
    ofDays days =
      let m := (5 * d + 2) / 153
      ⟨if m < 10 then y else y + 1, (if m < 10 then m + 3 else m - 9).toNat,
        (d - monthStart m + 1).toNat⟩ := by
  set era := (days + epochShift) / 146097 with hera
  set n := (days + epochShift) % 146097 with hn
  obtain ⟨c, q, y, d, h⟩ := exists_eraDay (n := n) (by omega) (by omega)
  refine ⟨400 * era + (100 * c + 4 * q + y), d, ⟨h.day, fun hd => ?_, ?_⟩, ?_⟩
  · rw [add_assoc, isLeap_era]
    exact h.isLeap hd
  · rw [yearStart_era, h.yearStart_eq]
    omega
  · have hinYear : n - yearStart (100 * c + 4 * q + y) = d := by
      rw [h.yearStart_eq]
      omega
    simp only [ofDays, ← hn, ← hera, h.yearOfEra, hinYear]

/-- A day of a year lies in the month that is computed for it. -/
theorem monthStart_le {d : Int} (h : 0 ≤ d ∧ d ≤ 365) :
    let m := (5 * d + 2) / 153
    (0 ≤ m ∧ m ≤ 11) ∧ monthStart m ≤ d ∧ d < monthStart (m + 1) := by
  unfold monthStart
  omega

/-! ## Counts and dates -/

/-- **The date of a day has its count.** -/
theorem toDays_ofDays (days : Int) : (ofDays days).toDays = days := by
  obtain ⟨y, d, ⟨hd, -, htotal⟩, heq⟩ := ofDays_eq days
  obtain ⟨hm, hstart, -⟩ := monthStart_le hd
  rw [heq, toDays]
  generalize (5 * d + 2) / 153 = m at hm hstart ⊢
  have hday : ((d - monthStart m + 1).toNat : Int) = d - monthStart m + 1 := by omega
  -- January and February belong to the year that started in March before them
  by_cases h10 : m < 10
  · have hmonth : ((m + 3).toNat : Int) = m + 3 := by omega
    have hlate : ¬ (m + 3).toNat ≤ 2 := by omega
    simp only [h10, if_true, hlate, if_false, hmonth, hday, add_sub_cancel_right]
    omega
  · have hmonth : ((m - 9).toNat : Int) = m - 9 := by omega
    have hearly : (m - 9).toNat ≤ 2 := by omega
    simp only [h10, if_true, hearly, if_false, hmonth, hday, sub_add_cancel, add_sub_cancel_right]
    omega

/-- The date of a day has a month and a day of that month. -/
theorem ofDays_month_day (days : Int) :
    (1 ≤ (ofDays days).month ∧ (ofDays days).month ≤ 12) ∧ 1 ≤ (ofDays days).day ∧
      (ofDays days).day ≤ monthLength (ofDays days).year (ofDays days).month := by
  obtain ⟨y, d, ⟨hd, hleap, -⟩, heq⟩ := ofDays_eq days
  obtain ⟨⟨hm0, hm11⟩, hstart, hend⟩ := monthStart_le hd
  rw [heq]
  generalize (5 * d + 2) / 153 = m at hm0 hm11 hstart hend ⊢
  dsimp only
  refine ⟨by split <;> omega, by omega, ?_⟩
  unfold monthStart at hstart hend ⊢
  by_cases h11 : m = 11
  · subst h11
    change (d - (153 * 11 + 2) / 5 + 1).toNat ≤ monthLength (y + 1) 2
    by_cases hlast : d = 365
    · have h29 : monthLength (y + 1) 2 = 29 := by simp [monthLength, hleap hlast]
      omega
    · have h28 : 28 ≤ monthLength (y + 1) 2 := by
        cases hl : isLeap (y + 1) <;> simp [monthLength, hl]
      omega
  -- all other months have their length in every year
  · interval_cases m <;> simp [monthLength] <;> omega

theorem inRange_iff {days : Int} :
    inRange days = true ↔ firstYear ≤ (ofDays days).year ∧ (ofDays days).year ≤ lastYear := by
  simp [inRange]

/-- **The date of a day exists**, as far as its year is supported. -/
theorem isValid_ofDays {days : Int} (h : inRange days = true) : (ofDays days).isValid = true := by
  obtain ⟨⟨hm1, hm12⟩, hd1, hdlast⟩ := ofDays_month_day days
  obtain ⟨hfirst, hlast⟩ := inRange_iff.1 h
  simp [isValid, *]

end CriteriaSql.Calendar.Date
