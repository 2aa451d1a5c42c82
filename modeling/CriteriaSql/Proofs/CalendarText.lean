import CriteriaSql.Calendar.Text
import CriteriaSql.Proofs.Calendar
import Mathlib.Data.List.TakeWhile

/-!
# Dates and times read as they are written

The written form of a day, of a time of day and of a moment is read back to what it was written for. Each
number is written with at least the digits that its reader takes, and what follows it is no digit; so a
reader stops where the writer did. The strict form has years of four digits, so it is written and read back
for those years and not read at all for others.

* `number?_digits`: a number stops at the end of its digits.
* `datePart?_dateText`, `clock?_clockText`: the parts of a moment.
* `date?_dateText`, `timestamp?_momentText`: the generous readers.
* `internet?_momentText`: the strict reader.
-/

namespace CriteriaSql

/-! ## Digits -/

namespace Text

theorem naturalPadded_isDigit {width n : Nat} {c : Char} (h : c ∈ naturalPadded width n) :
    c.isDigit = true := by
  rw [naturalPadded, List.mem_append] at h
  rcases h with h | h
  · rw [List.eq_of_mem_replicate h]
    rfl
  · exact isDigit_of_mem_natural h

theorem naturalPadded_ne_nil (width n : Nat) : naturalPadded width n ≠ [] :=
  List.append_ne_nil_of_right_ne_nil _ (natural_ne_nil n)

theorem length_naturalPadded {width n : Nat} (hw : 0 < width) (hn : n < pow10 width) :
    (naturalPadded width n).length = width := by
  have hl : (natural n).length ≤ width := (Nat.length_toDigits_le_iff (by decide) hw).2 hn
  rw [naturalPadded, List.length_append, List.length_replicate]
  omega

/-- Zeros in front do not change a number. -/
theorem ofDigitChars_naturalPadded (width n : Nat) :
    Nat.ofDigitChars 10 (naturalPadded width n) 0 = n := by
  rw [naturalPadded, Nat.ofDigitChars_append, Nat.ofDigitChars_replicate_zero, Nat.mul_zero]
  exact Nat.ofDigitChars_ten_toDigits

theorem isBlank_of_isDigit {c : Char} (h : c.isDigit = true) : isBlank c = false := by
  have hc : 48 ≤ c.toNat ∧ c.toNat ≤ 57 := by simpa [Char.isDigit, UInt32.le_iff_toNat_le] using h
  simp only [isBlank, blankRanges, List.any_cons, List.any_nil, Bool.or_eq_false_iff,
    Bool.and_eq_false_iff, decide_eq_false_iff_not, and_true]
  omega

theorem trimStart_cons {c : Char} (h : isBlank c = false) (cs : List Char) :
    trimStart (c :: cs) = c :: cs := by
  rw [trimStart, List.dropWhile_cons, h]
  rfl

/-- Digits are not trimmed. -/
theorem trimStart_naturalPadded (width n : Nat) (rest : List Char) :
    trimStart (naturalPadded width n ++ rest) = naturalPadded width n ++ rest := by
  obtain ⟨c, ds, hds⟩ := List.exists_cons_of_ne_nil (naturalPadded_ne_nil width n)
  have hc : c.isDigit = true := naturalPadded_isDigit (by rw [hds]; exact List.mem_cons_self)
  rw [hds]
  exact trimStart_cons (isBlank_of_isDigit hc) _

end Text

namespace Calendar

open Text

/-- A text that does not go on with a digit. -/
def NoDigit (rest : List Char) : Prop := ∀ c ∈ rest.head?, c.isDigit = false

theorem takeWhile_digits {ds rest : List Char} (hds : ∀ c ∈ ds, c.isDigit = true) (hrest : NoDigit rest) :
    (ds ++ rest).takeWhile Char.isDigit = ds := by
  rw [List.takeWhile_append_of_pos hds]
  cases rest with
  | nil => exact List.append_nil ds
  | cons c rest =>
    have hc := hrest c rfl
    simp [hc]

/-- **A number stops at the end of its digits**: where it has as many as it may have, or no digit follows. -/
theorem number?_digits {width : Nat} {ds rest : List Char} (hds : ∀ c ∈ ds, c.isDigit = true) (hne : ds ≠ [])
    (hend : ds.length = width ∨ ds.length ≤ width ∧ NoDigit rest) :
    number? width (ds ++ rest) = some (Nat.ofDigitChars 10 ds 0, rest) := by
  have htaken : ((ds ++ rest).take width).takeWhile Char.isDigit = ds := by
    rcases hend with rfl | ⟨hl, hrest⟩
    · rw [List.take_left]
      exact List.takeWhile_eq_self_iff.2 hds
    · rw [List.take_append, List.take_of_length_le hl]
      refine takeWhile_digits hds fun c hc => hrest c ?_
      rw [List.head?_take] at hc
      split at hc
      · cases hc
      · exact hc
  rw [number?, htaken, if_neg hne, List.drop_left]

theorem number?_naturalPadded {width n : Nat} (hw : 0 < width) (hn : n < pow10 width) (rest : List Char) :
    number? width (naturalPadded width n ++ rest) = some (n, rest) := by
  rw [number?_digits (fun c => naturalPadded_isDigit) (naturalPadded_ne_nil width n)
    (.inl (length_naturalPadded hw hn)), ofDigitChars_naturalPadded]

theorem field?_naturalPadded {n : Nat} (hn : n < 100) (rest : List Char) :
    field? (naturalPadded 2 n ++ rest) = some (n, rest) := by
  rw [field?, trimStart_naturalPadded]
  exact number?_naturalPadded (by decide) hn rest

theorem exactly?_naturalPadded {width n : Nat} (hw : 0 < width) (hn : n < pow10 width) (rest : List Char) :
    exactly? width (naturalPadded width n ++ rest) = some (n, rest) := by
  have hl : rest.length + width = (naturalPadded width n ++ rest).length := by
    rw [List.length_append, length_naturalPadded hw hn]
    omega
  rw [exactly?, number?_naturalPadded hw hn, Option.filter_some, if_pos (decide_eq_true hl)]

theorem literal?_cons (c : Char) (rest : List Char) : literal? c (c :: rest) = some rest := if_pos rfl

/-! ## Dates -/

/-- After a sign a year has any number of digits. -/
theorem year?_minus (rest : List Char) :
    year? ('-' :: rest) = (number? rest.length rest).map fun (n, rest) => (-(n : Int), rest) := by
  rw [year?, trimStart_cons (by decide)]
  rfl

theorem year?_plus (rest : List Char) :
    year? ('+' :: rest) = (number? rest.length rest).map fun (n, rest) => ((n : Int), rest) := by
  rw [year?, trimStart_cons (by decide)]
  rfl

theorem year?_naturalPadded {n : Nat} (hn : n < pow10 4) (rest : List Char) :
    year? (naturalPadded 4 n ++ rest) = some ((n : Int), rest) := by
  have hread := number?_naturalPadded (by decide) hn rest
  obtain ⟨c, ds, hds⟩ := List.exists_cons_of_ne_nil (naturalPadded_ne_nil 4 n)
  have hc : c.isDigit = true := naturalPadded_isDigit (by rw [hds]; exact List.mem_cons_self)
  rw [year?, trimStart_naturalPadded]
  rw [hds, List.cons_append] at hread ⊢
  -- a digit is no sign
  split
  · next heq => cases heq; cases hc
  · next heq => cases heq; cases hc
  · rw [hread, Option.map_some]

theorem year?_yearText (y : Int) (rest : List Char) :
    year? (yearText y ++ '-' :: rest) = some (y, '-' :: rest) := by
  have hstop : NoDigit ('-' :: rest) := by rintro c ⟨⟩; rfl
  have hsigned : number? (naturalPadded 4 y.natAbs ++ '-' :: rest).length
      (naturalPadded 4 y.natAbs ++ '-' :: rest) = some (y.natAbs, '-' :: rest) := by
    rw [number?_digits (fun c => naturalPadded_isDigit) (naturalPadded_ne_nil _ _)
      (.inr ⟨by simp, hstop⟩), ofDigitChars_naturalPadded]
  unfold yearText
  by_cases hy : 0 ≤ y ∧ y ≤ 9999
  · have h4 : pow10 4 = 10000 := rfl
    have hback : ((y.natAbs : Nat) : Int) = y := by omega
    rw [if_pos hy, year?_naturalPadded (by omega), hback]
  · rw [if_neg hy, List.cons_append]
    by_cases hneg : y < 0
    · have hback : -((y.natAbs : Nat) : Int) = y := by omega
      simp only [if_pos hneg, year?_minus, hsigned, Option.map_some, hback]
    · have hback : ((y.natAbs : Nat) : Int) = y := by omega
      simp only [if_neg hneg, year?_plus, hsigned, Option.map_some, hback]

theorem days?_ofDays {days : Int} (h : Date.inRange days = true) :
    days? (Date.ofDays days).year (Date.ofDays days).month (Date.ofDays days).day = some days := by
  rw [days?]
  exact (if_pos (Date.isValid_ofDays h)).trans (congrArg some (Date.toDays_ofDays days))

theorem month_lt (days : Int) : (Date.ofDays days).month < 100 := by
  have h := (Date.ofDays_month_day days).1
  omega

theorem day_lt (days : Int) : (Date.ofDays days).day < 100 := by
  have h := (Date.ofDays_month_day days).2.2
  have hl (y : Int) (m : Nat) : Date.monthLength y m ≤ 31 := by
    unfold Date.monthLength
    split_ifs <;> decide
  have := hl (Date.ofDays days).year (Date.ofDays days).month
  omega

/-- **A written day is read back**, whatever stands after it. -/
theorem datePart?_dateText {days : Int} (h : Date.inRange days = true) (rest : List Char) :
    datePart? (dateText days ++ rest) = some (days, rest) := by
  simp only [datePart?, dateText, List.append_assoc, List.cons_append, year?_yearText, literal?_cons,
    field?_naturalPadded (month_lt days), field?_naturalPadded (day_lt days), days?_ofDays h,
    Option.bind_eq_bind, Option.bind_some, Option.pure_def]

theorem date?_dateText {days : Int} (h : Date.inRange days = true) : date? (dateText days) = some days := by
  have hpart := datePart?_dateText h []
  rw [List.append_nil] at hpart
  simp [date?, hpart]

/-! ## Times of day -/

/-- A fraction is read back up to what follows it. -/
theorem fraction?_fractionText {micros : Nat} (hm : micros < 1000000) {rest : List Char}
    (hdigit : NoDigit rest) (hpoint : '.' ∉ rest.head?) :
    fraction? (fractionText micros ++ rest) = some (micros * 1000, rest) := by
  have hread {width n : Nat} (hw : 0 < width) (hw9 : width ≤ 9) (hn : n < pow10 width) :
      fraction? ('.' :: (naturalPadded width n ++ rest)) = some (n * pow10 (9 - width), rest) := by
    have hl := length_naturalPadded hw hn
    have htaken := takeWhile_digits (fun _ => @naturalPadded_isDigit width n _) hdigit
    simp only [fraction?, htaken, if_neg (naturalPadded_ne_nil width n), List.drop_left]
    rw [List.take_of_length_le (by omega), ofDigitChars_naturalPadded, hl]
  unfold fractionText
  by_cases h0 : micros = 0
  · rw [if_pos h0, h0, List.nil_append]
    unfold fraction?
    split
    · exact absurd rfl hpoint
    · rfl
  · rw [if_neg h0]
    by_cases hmilli : micros % 1000 = 0
    · have h3 : pow10 3 = 1000 := rfl
      have h6 : pow10 (9 - 3) = 1000000 := rfl
      have hn : micros / 1000 < pow10 3 := by omega
      have hback : micros / 1000 * pow10 (9 - 3) = micros * 1000 := by
        rw [h6]
        omega
      rw [if_pos hmilli, List.cons_append, hread (by decide) (by decide) hn, hback]
    · rw [if_neg hmilli, List.cons_append, hread (by decide) (by decide) hm]

theorem nanos?_clock {t : Nat} (h : t < microsPerDay) :
    nanos? (t / 1000000 / 3600) (t / 1000000 / 60 % 60) (t / 1000000 % 60) (t % 1000000 * 1000) =
      some (t * 1000) := by
  unfold microsPerDay at h
  have hback : ((t / 1000000 / 3600 * 60 + t / 1000000 / 60 % 60) * 60 + t / 1000000 % 60) * 1000000000 +
      t % 1000000 * 1000 = t * 1000 := by omega
  rw [nanos?, if_pos (by omega), nanosPerSecond, hback]

/-- **A written time of day is read back**, in nanoseconds. -/
theorem clock?_clockText {t : Nat} (h : t < microsPerDay) : clock? (clockText t) = some (t * 1000) := by
  unfold microsPerDay at h
  have hmicros : t % 1000000 < 1000000 := by omega
  have hfraction := @fraction?_fractionText _ hmicros [] (by rintro c ⟨⟩) (by simp)
  rw [List.append_nil] at hfraction
  simp only [clock?, clockText, List.append_assoc, List.cons_append, literal?_cons,
    field?_naturalPadded (n := t / 1000000 / 3600) (by omega),
    field?_naturalPadded (n := t / 1000000 / 60 % 60) (by omega),
    field?_naturalPadded (n := t / 1000000 % 60) (by omega), hfraction, Option.bind_eq_bind,
    Option.bind_some, if_true]
  exact nanos?_clock h

/-! ## Moments -/

/-- A moment whose parts are whole microseconds is not rounded. -/
theorem micros_mul (days : Int) (t : Nat) :
    micros days ((t * 1000 : Nat) : Int) = days * microsPerDay + t := by
  have hparts : days * microsPerDay * 1000 + ((t * 1000 : Nat) : Int) = (days * microsPerDay + t) * 1000 := by
    rw [Int.add_mul, Int.natCast_mul]
    rfl
  rw [micros, hparts, Int.mul_tdiv_cancel _ (by decide)]

/-- The time of day of a moment. -/
theorem timeOfDay_lt (m : Int) : (m % microsPerDay).toNat < microsPerDay := by
  unfold microsPerDay
  omega

theorem micros_parts (m : Int) :
    micros (m / microsPerDay) (((m % microsPerDay).toNat * 1000 : Nat) : Int) = m := by
  rw [micros_mul]
  unfold microsPerDay
  omega

/-- **A written moment is read back.** -/
theorem timestamp?_momentText {m : Int} (h : Date.inRange (m / microsPerDay) = true) :
    timestamp? (momentText ' ' m) = some m := by
  have htrim (t : Nat) : trimStart (' ' :: clockText t) = clockText t := by
    rw [trimStart, List.dropWhile_cons, if_pos (by decide), ← trimStart, clockText, List.append_assoc,
      List.append_assoc, trimStart_naturalPadded]
  simp only [timestamp?, momentText, datePart?_dateText h, htrim, clock?_clockText (timeOfDay_lt m),
    Option.bind_eq_bind, Option.bind_some, Option.some_or, Option.pure_def, micros_parts]

/-! ## The strict form -/

/-- A moment of the years 0 to 9999, which are written with four digits and no sign. -/
def HasPlainYear (m : Int) : Prop := -730485 * microsPerDay ≤ m ∧ m < 2921940 * microsPerDay

instance (m : Int) : Decidable (HasPlainYear m) :=
  inferInstanceAs (Decidable (_ ∧ _))

theorem hasPlainYear_iff {m : Int} : HasPlainYear m ↔
    0 ≤ (Date.ofDays (m / microsPerDay)).year ∧ (Date.ofDays (m / microsPerDay)).year ≤ 9999 := by
  obtain ⟨y, d, ⟨hd, -, htotal⟩, heq⟩ := Date.ofDays_eq (m / microsPerDay)
  have hbounds : HasPlainYear m ↔ -730485 ≤ m / microsPerDay ∧ m / microsPerDay < 2921940 := by
    unfold HasPlainYear microsPerDay
    omega
  rw [hbounds, heq]
  unfold Date.yearStart Date.epochShift at htotal
  dsimp only
  -- the two years that the bounds cut into, and those on either side of them
  obtain hy | rfl | hy | rfl | hy : y ≤ -2 ∨ y = -1 ∨ (0 ≤ y ∧ y ≤ 9998) ∨ y = 9999 ∨ 10000 ≤ y := by omega
  all_goals split <;> omega

/-- The strict form has room for a year of four digits only. -/
theorem exactly?_yearText (y : Int) (rest : List Char) :
    exactly? 4 (yearText y ++ rest) = if 0 ≤ y ∧ y ≤ 9999 then some (y.natAbs, rest) else none := by
  have hsign {c : Char} (hc : c.isDigit = false) (cs : List Char) : exactly? 4 (c :: cs) = none := by
    rw [exactly?, number?, List.take_succ_cons, List.takeWhile_cons, hc]
    rfl
  unfold yearText
  by_cases hy : 0 ≤ y ∧ y ≤ 9999
  · have h4 : pow10 4 = 10000 := rfl
    rw [if_pos hy, if_pos hy]
    exact exactly?_naturalPadded (by decide) (by omega) rest
  · rw [if_neg hy, if_neg hy]
    exact hsign (by split <;> rfl) _

/-- What is read goes on to the next reader. -/
theorem bind_of_read {α β : Type} {r : Option α} {a : α} (h : r = some a) (next : α → Option β) :
    (r >>= next) = next a := by
  rw [h]
  rfl

/-- The fields of the strict form are read one after another. -/
theorem internet?_fields {year : Int} (hyear : 0 ≤ year ∧ year ≤ 9999)
    {month day hour minute second fraction nanos : Nat} {days : Int} {rest zone : List Char}
    (hmonth : month < 100) (hday : day < 100) (hhour : hour < 100) (hminute : minute < 100)
    (hsecond : second < 100) (hrest : fraction? rest = some (fraction, zone)) (hzone : offset? zone = some 0)
    (hdays : days? year month day = some days) (hnanos : nanos? hour minute second fraction = some nanos) :
    internet? (yearText year ++ '-' :: (naturalPadded 2 month ++ '-' :: (naturalPadded 2 day ++
      'T' :: (naturalPadded 2 hour ++ ':' :: (naturalPadded 2 minute ++
      ':' :: (naturalPadded 2 second ++ rest)))))) = some (micros days nanos) := by
  have hfield {n : Nat} (hn : n < 100) (cs : List Char) :
      exactly? 2 (naturalPadded 2 n ++ cs) = some (n, cs) :=
    exactly?_naturalPadded (by decide) hn cs
  have hread (cs : List Char) : exactly? 4 (yearText year ++ cs) = some (year.natAbs, cs) := by
    rw [exactly?_yearText, if_pos hyear]
  have hback : days? (year.natAbs : Nat) month day = some days := by
    rw [Int.natAbs_of_nonneg hyear.1, hdays]
  have hutc : (nanos : Int) - 0 * 60 * nanosPerSecond = nanos := by omega
  rw [internet?]
  refine (bind_of_read (hread _) _).trans ?_
  refine (bind_of_read (literal?_cons '-' _) _).trans ?_
  refine (bind_of_read (hfield hmonth _) _).trans ?_
  refine (bind_of_read (literal?_cons '-' _) _).trans ?_
  refine (bind_of_read (hfield hday _) _).trans ?_
  refine (bind_of_read (r := (literal? 'T' _).or _) rfl _).trans ?_
  refine (bind_of_read (hfield hhour _) _).trans ?_
  refine (bind_of_read (literal?_cons ':' _) _).trans ?_
  refine (bind_of_read (hfield hminute _) _).trans ?_
  refine (bind_of_read (literal?_cons ':' _) _).trans ?_
  refine (bind_of_read (hfield hsecond _) _).trans ?_
  refine (bind_of_read hrest _).trans ?_
  refine (bind_of_read hzone _).trans ?_
  refine (bind_of_read hback _).trans ?_
  refine (bind_of_read hnanos _).trans ?_
  change some (micros days ((nanos : Int) - 0 * 60 * nanosPerSecond)) = _
  rw [hutc]

/-- **A moment in the strict form is read back**, where its year has four digits. -/
theorem internet?_momentText {m : Int} (h : HasPlainYear m) :
    internet? (momentText 'T' m ++ "+00:00".toList) = some m := by
  have hyear := hasPlainYear_iff.1 h
  have hrange : Date.inRange (m / microsPerDay) = true := by
    rw [Date.inRange_iff, Date.firstYear, Date.lastYear]
    omega
  have ht := timeOfDay_lt m
  have hmoment := micros_parts m
  rw [momentText]
  generalize (m % microsPerDay).toNat = t at ht hmoment ⊢
  have hnanos := nanos?_clock ht
  unfold microsPerDay at ht
  have hmicros : t % 1000000 < 1000000 := by omega
  have hfraction := @fraction?_fractionText _ hmicros "+00:00".toList (by rintro c ⟨⟩; rfl) (by decide)
  have hread := internet?_fields hyear (month_lt (m / microsPerDay)) (day_lt (m / microsPerDay))
    (by omega) (by omega) (by omega) hfraction (by decide) (days?_ofDays hrange) hnanos
  rw [hmoment] at hread
  rw [dateText, clockText]
  simpa only [List.append_assoc, List.cons_append] using hread

/-- **A moment with a signed year is not read**, whatever stands after its date. -/
theorem internet?_signed {m : Int} (h : ¬ HasPlainYear m) (separator : Char) (rest : List Char) :
    internet? (momentText separator m ++ rest) = none := by
  rw [momentText, dateText, List.append_assoc, List.append_assoc, List.append_assoc, internet?,
    exactly?_yearText, if_neg (mt hasPlainYear_iff.2 h)]
  rfl

end Calendar

end CriteriaSql
