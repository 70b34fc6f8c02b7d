import Courier.HttpDate
import Mathlib.Algebra.Order.Group.Nat
import Mathlib.Tactic.IntervalCases

/-!
# The calendar

The rules of the Gregorian calendar are which years are leap years, how long the months are, and
that one day comes after the other. The date of a day that is computed from its number is the one
that is found by counting days from the first of January 1970 on, forward or back, and the number is
computed back from it. Weekdays are counted along: that first of January was a Thursday.
-/

namespace Courier

namespace CalendarDay

variable {d : CalendarDay} {days : Int} {year day : Nat}

/-! ## Rules -/

/-- A year that has a twenty-ninth of February. -/
def IsLeapYear (year : Int) : Prop :=
  year % 4 = 0 ∧ (year % 100 ≠ 0 ∨ year % 400 = 0)

instance {year : Int} : Decidable (IsLeapYear year) :=
  inferInstanceAs (Decidable (_ ∧ _))

/-- How many days a month has. -/
def daysInMonth (year : Int) (month : Nat) : Nat :=
  if month = 2 then if IsLeapYear year then 29 else 28
  else if month = 4 ∨ month = 6 ∨ month = 9 ∨ month = 11 then 30
  else 31

/-- A day that is in the calendar. -/
structure IsDate (d : CalendarDay) : Prop where
  month_pos : 1 ≤ d.month
  month_le : d.month ≤ 12
  day_pos : 1 ≤ d.day
  day_le : d.day ≤ daysInMonth d.year d.month

theorem IsDate.day_lt (h : d.IsDate) : d.day < 10 ^ 2 := by
  refine Nat.lt_of_le_of_lt h.day_le ?_
  unfold daysInMonth
  split
  · split
    · omega
    · omega
  · split
    · omega
    · omega

/-- The day after. -/
def next (d : CalendarDay) : CalendarDay :=
  if d.day < daysInMonth d.year d.month then { d with day := d.day + 1 }
  else if d.month < 12 then { d with month := d.month + 1, day := 1 }
  else { year := d.year + 1, month := 1, day := 1 }

/-- The date and the weekday, counted from Sunday, that are found by counting so many days from
Thursday, the first of January 1970. -/
inductive Counted : Int → CalendarDay → Nat → Prop
  | start : Counted 0 ⟨1970, 1, 1⟩ 4
  | after {days : Int} {d : CalendarDay} {weekday : Nat} (h : Counted days d weekday) :
    Counted (days + 1) d.next ((weekday + 1) % 7)
  | before {days : Int} {d : CalendarDay} {weekday : Nat} (date : d.IsDate) (hweekday : weekday < 7)
    (h : Counted (days + 1) d.next ((weekday + 1) % 7)) : Counted days d weekday

/-! ## Years within four centuries -/

/-- The days of a year within four centuries. It ends with the February of the year after. -/
def daysInYear (year : Nat) : Nat :=
  if IsLeapYear (year + 1) then 366 else 365

theorem daysBeforeYear_succ (h : year < 399) :
    daysBeforeYear (year + 1) = daysBeforeYear year + daysInYear year := by
  unfold daysBeforeYear daysInYear
  by_cases hleap : IsLeapYear (year + 1)
  · rw [if_pos hleap]
    unfold IsLeapYear at hleap
    omega
  · rw [if_neg hleap]
    unfold IsLeapYear at hleap
    omega

theorem yearOfEra_mono {a b : Nat} (h : a ≤ b) (hb : b < 146097) : yearOfEra a ≤ yearOfEra b := by
  unfold yearOfEra
  apply Nat.div_le_div_right
  omega

/-- The first and the last day of a year are in that year. -/
theorem yearOfEra_ends : ∀ year < 400, yearOfEra (daysBeforeYear year) = year ∧
    yearOfEra (daysBeforeYear year + daysInYear year - 1) = year := by
  decide +kernel

theorem daysInYear_pos (year : Nat) : 365 ≤ daysInYear year := by
  unfold daysInYear
  split
  · omega
  · omega

theorem daysBeforeYear_add_lt (h : year < 400) :
    daysBeforeYear year + daysInYear year ≤ 146097 := by
  by_cases hlast : year = 399
  · subst hlast
    decide
  · have hbefore : year < 399 := by omega
    have hsucc := daysBeforeYear_succ hbefore
    unfold daysBeforeYear at hsucc ⊢
    omega

/-- A day of a year is in that year. -/
theorem yearOfEra_add (h : year < 400) (hday : day < daysInYear year) :
    yearOfEra (daysBeforeYear year + day) = year := by
  obtain ⟨hfirst, hlast⟩ := yearOfEra_ends year h
  have hend := daysBeforeYear_add_lt h
  have hlow := yearOfEra_mono (Nat.le_add_right (daysBeforeYear year) day) (by omega)
  have hhigh := yearOfEra_mono (a := daysBeforeYear year + day)
    (b := daysBeforeYear year + daysInYear year - 1) (by omega) (by omega)
  omega

/-- A day within four centuries is a day of its year. -/
theorem exists_day_of_era (h : day < 146097) : yearOfEra day < 400 ∧
    daysBeforeYear (yearOfEra day) ≤ day ∧
    day < daysBeforeYear (yearOfEra day) + daysInYear (yearOfEra day) := by
  have hlt : yearOfEra day < 400 := by
    have hle := yearOfEra_mono (Nat.le_of_lt_succ h : day ≤ 146096) (by omega)
    have hlast : yearOfEra 146096 = 399 := by decide
    omega
  generalize hyear : yearOfEra day = year at hlt ⊢
  refine ⟨hlt, ?_, ?_⟩
  · by_contra hbefore
    have hpos : year ≠ 0 := by
      rintro rfl
      exact hbefore (Nat.zero_le day)
    obtain ⟨before, rfl⟩ := Nat.exists_eq_add_one_of_ne_zero hpos
    have hyear : before < 399 := by omega
    have hsucc := daysBeforeYear_succ hyear
    have hend := (yearOfEra_ends before (by omega)).2
    have hlength := daysBeforeYear_add_lt (Nat.lt_succ_of_lt hyear)
    have hle := yearOfEra_mono (a := day) (b := daysBeforeYear before + daysInYear before - 1)
      (by omega) (by omega)
    omega
  · by_contra hbehind
    by_cases hlast : year = 399
    · subst hlast
      have hall : daysBeforeYear 399 + daysInYear 399 = 146097 := by decide
      omega
    · have hbefore : year < 399 := by omega
      have hsucc := daysBeforeYear_succ hbefore
      have hfirst := (yearOfEra_ends (year + 1) (by omega)).1
      have hle := yearOfEra_mono (a := daysBeforeYear (year + 1)) (b := day) (by omega) h
      omega

/-! ## Months within a year that starts in March -/

/-- The month in which a day of a year lies, where March is month zero. -/
theorem month_of_day (h : day < 366) :
    (5 * day + 2) / 153 ≤ 11 ∧ daysBeforeMonth ((5 * day + 2) / 153) ≤ day ∧
      ((5 * day + 2) / 153 < 11 → day < daysBeforeMonth ((5 * day + 2) / 153 + 1)) := by
  unfold daysBeforeMonth
  omega

theorem fdiv_eraDays (n : Int) : n.fdiv eraDays = n / 146097 :=
  Int.fdiv_eq_ediv_of_nonneg n (by decide)

theorem fmod_eraDays (n : Int) : n.fmod eraDays = n % 146097 :=
  Int.fmod_eq_emod_of_nonneg n (by decide)

/-- The number of days that the month with this number has, where March is month zero and the year
is the one in which it starts. -/
theorem daysInMonth_of_march (year : Int) {month : Nat} (h : month < 11) :
    daysInMonth (if month < 10 then year else year + 1)
        (if month < 10 then month + 3 else month - 9) =
      daysBeforeMonth (month + 1) - daysBeforeMonth month := by
  interval_cases month
  all_goals rfl

/-- The February at the end of a year has the rest of its days. -/
theorem daysInMonth_february (era : Int) (year : Nat) :
    daysInMonth (era * 400 + year + 1) 2 + daysBeforeMonth 11 = daysInYear year := by
  have hleap : IsLeapYear (era * 400 + year + 1) ↔ IsLeapYear (year + 1) := by
    unfold IsLeapYear
    omega
  unfold daysInMonth daysInYear
  simp only [hleap, if_true]
  by_cases hyear : IsLeapYear (year + 1)
  · rw [if_pos hyear, if_pos hyear]
    rfl
  · rw [if_neg hyear, if_neg hyear]
    rfl

theorem daysInYear_le (year : Nat) : daysInYear year ≤ 366 := by
  unfold daysInYear
  split
  · omega
  · omega

/-! ## Dates by their place -/

/-- A date by its place in the calendar: the era of four centuries, the year in it, and the day in
the year, where years start in March. -/
def ofPlace (era : Int) (year day : Nat) : CalendarDay :=
  let month := (5 * day + 2) / 153
  { year := era * 400 + year + if month < 10 then 0 else 1
    month := if month < 10 then month + 3 else month - 9
    day := day - daysBeforeMonth month + 1 }

/-- A year within an era, and a day in that year. -/
structure IsPlace (year day : Nat) : Prop where
  year_lt : year < 400
  day_lt : day < daysInYear year

/-- The number of the day at a place. -/
def daysAt (era : Int) (year day : Nat) : Int :=
  era * eraDays + (daysBeforeYear year + day : Nat) - epochOffset

theorem isDate_ofPlace {era : Int} (h : IsPlace year day) : (ofPlace era year day).IsDate := by
  obtain ⟨hmonth, hstart, hend⟩ := month_of_day (Nat.lt_of_lt_of_le h.day_lt (daysInYear_le year))
  unfold ofPlace
  generalize (5 * day + 2) / 153 = month at hmonth hstart hend ⊢
  dsimp only
  by_cases hlast : month = 11
  · subst hlast
    have hfebruary := daysInMonth_february era year
    have hday := h.day_lt
    refine ⟨by simp, by simp, Nat.succ_pos _, ?_⟩
    change day - daysBeforeMonth 11 + 1 ≤ daysInMonth (era * 400 + year + 1) 2
    omega
  · have hmonth : month < 11 := by omega
    have hdays := daysInMonth_of_march (era * 400 + year) hmonth
    have hday := hend hmonth
    by_cases hlate : month < 10
    · simp only [if_pos hlate, Int.add_zero] at hdays ⊢
      refine ⟨Nat.succ_pos _, ?_, Nat.succ_pos _, ?_⟩
      · dsimp only
        omega
      · dsimp only
        omega
    · simp only [if_neg hlate] at hdays ⊢
      refine ⟨?_, ?_, Nat.succ_pos _, ?_⟩
      · dsimp only
        omega
      · dsimp only
        omega
      · dsimp only
        omega

/-- A day of a month, where March is month zero, is in that month. -/
theorem month_of_day_add {month : Nat} (h : month ≤ 11)
    (hday : daysBeforeMonth month + day < if month < 11 then daysBeforeMonth (month + 1) else 366) :
    (5 * (daysBeforeMonth month + day) + 2) / 153 = month := by
  unfold daysBeforeMonth at hday ⊢
  interval_cases month
  all_goals
    simp only [Nat.reduceLT, if_true, if_false] at hday
    omega

/-- The place of a day of a month, where March is month zero and `start` is the year in which the
year of that month starts. -/
theorem place_of_march (start : Int) {month day : Nat} (h : month ≤ 11)
    (hday : day < daysInMonth (if month < 10 then start else start + 1)
      (if month < 10 then month + 3 else month - 9)) :
    ∃ era year day', IsPlace year day' ∧ ofPlace era year day' =
      ⟨if month < 10 then start else start + 1, if month < 10 then month + 3 else month - 9,
        day + 1⟩ := by
  have hstart : start / 400 * 400 + (start % 400).toNat = start := by omega
  have hyear : (start % 400).toNat < 400 := by omega
  have hlength := daysInYear_le (start % 400).toNat
  have hend : daysBeforeMonth month + day <
      if month < 11 then daysBeforeMonth (month + 1) else daysInYear (start % 400).toNat := by
    by_cases hlast : month < 11
    · rw [daysInMonth_of_march start hlast] at hday
      rw [if_pos hlast]
      omega
    · obtain rfl : month = 11 := by omega
      have hfebruary := daysInMonth_february (start / 400) (start % 400).toNat
      rw [hstart] at hfebruary
      change day < daysInMonth (start + 1) 2 at hday
      change daysBeforeMonth 11 + day < daysInYear (start % 400).toNat
      omega
  have hmonth : (5 * (daysBeforeMonth month + day) + 2) / 153 = month := by
    apply month_of_day_add h
    refine Nat.lt_of_lt_of_le hend ?_
    split
    · exact Nat.le_refl _
    · exact hlength
  refine ⟨start / 400, (start % 400).toNat, daysBeforeMonth month + day, ⟨hyear, ?_⟩, ?_⟩
  · have hyearDays := daysInYear_pos (start % 400).toNat
    split at hend
    · next hlast =>
      have hmono : daysBeforeMonth (month + 1) ≤ daysBeforeMonth 11 := by
        unfold daysBeforeMonth
        omega
      have hlast : daysBeforeMonth 11 = 337 := rfl
      omega
    · exact hend
  · unfold ofPlace
    dsimp only
    rw [hmonth, hstart, Nat.add_sub_cancel_left]
    congr 1
    split
    · exact Int.add_zero start
    · rfl

/-- Each date has a place. -/
theorem exists_place_of_isDate (h : d.IsDate) :
    ∃ era year day, IsPlace year day ∧ ofPlace era year day = d := by
  obtain ⟨year, month, day⟩ := d
  obtain ⟨hpos, hle, hday, hlength⟩ := h
  dsimp only at hpos hle hday hlength
  obtain ⟨day, rfl⟩ := Nat.exists_eq_add_of_le' hday
  by_cases hearly : month < 3
  · obtain ⟨start, rfl⟩ : ∃ start, year = start + 1 := ⟨year - 1, by omega⟩
    have hmarch : ¬ month + 9 < 10 := by omega
    have hmonth : month + 9 ≤ 11 := by omega
    have hplace := @place_of_march start _ day hmonth
    simp only [if_neg hmarch, Nat.add_sub_cancel] at hplace
    exact hplace hlength
  · obtain ⟨month, rfl⟩ := Nat.exists_eq_add_of_le' (Nat.le_of_not_lt hearly)
    have hmarch : month < 10 := by omega
    have hmonth : month ≤ 11 := by omega
    have hplace := @place_of_march year _ day hmonth
    simp only [if_pos hmarch] at hplace
    exact hplace hlength

theorem toDays_ofPlace {era : Int} (h : IsPlace year day) :
    (ofPlace era year day).toDays = daysAt era year day := by
  obtain ⟨hmonth, hstart, -⟩ := month_of_day (Nat.lt_of_lt_of_le h.day_lt (daysInYear_le year))
  have hyear := h.year_lt
  unfold ofPlace toDays daysAt
  generalize (5 * day + 2) / 153 = month at hmonth hstart ⊢
  dsimp only
  have hera : (era * 400 + year : Int).fdiv 400 = era := by
    rw [Int.fdiv_eq_ediv_of_nonneg _ (by decide)]
    omega
  have hrest : (era * 400 + year : Int).fmod 400 = year := by
    rw [Int.fmod_eq_emod_of_nonneg _ (by decide)]
    omega
  by_cases hlate : month < 10
  · have hback : ¬ month + 3 < 3 := by omega
    have hmonth : month + 3 - 3 = month := by omega
    simp only [if_pos hlate, if_neg hback, Int.add_zero, hera, hrest, hmonth, Int.toNat_natCast]
    omega
  · have hback : month - 9 < 3 := by omega
    have hmonth : month - 9 + 9 = month := by omega
    have hyear : era * 400 + year + 1 - 1 = era * 400 + year := by omega
    simp only [if_neg hlate, if_pos hback, hyear, hera, hrest, hmonth, Int.toNat_natCast]
    omega

/-- Each day has a place. -/
theorem exists_place_of_days (days : Int) :
    ∃ era year day, IsPlace year day ∧ days = daysAt era year day := by
  have hday : ((days + epochOffset) % 146097).toNat < 146097 := by omega
  obtain ⟨hyear, hlow, hhigh⟩ := exists_day_of_era hday
  refine ⟨(days + epochOffset) / 146097, _, ((days + epochOffset) % 146097).toNat -
    daysBeforeYear (yearOfEra ((days + epochOffset) % 146097).toNat), ⟨hyear, by omega⟩, ?_⟩
  unfold daysAt
  rw [Nat.add_sub_cancel' hlow]
  unfold eraDays epochOffset
  omega

theorem ofDays_daysAt {era : Int} (h : IsPlace year day) :
    ofDays (daysAt era year day) = ofPlace era year day := by
  have hsum := daysBeforeYear_add_lt h.year_lt
  have hday := h.day_lt
  have hyear := yearOfEra_add h.year_lt h.day_lt
  have hshifted : daysAt era year day + epochOffset =
      era * 146097 + (daysBeforeYear year + day : Nat) := by
    unfold daysAt eraDays
    omega
  have hera : (era * 146097 + (daysBeforeYear year + day : Nat) : Int) / 146097 = era := by
    omega
  have hrest : (era * 146097 + (daysBeforeYear year + day : Nat) : Int) % 146097 =
      (daysBeforeYear year + day : Nat) := by
    omega
  unfold ofDays ofPlace
  dsimp only
  rw [hshifted, fdiv_eraDays, fmod_eraDays, hera, hrest, Int.toNat_natCast, hyear,
    Nat.add_sub_cancel_left]

/-! ## Dates and their numbers -/

theorem isDate_ofDays (days : Int) : (ofDays days).IsDate := by
  obtain ⟨era, year, day, hplace, rfl⟩ := exists_place_of_days days
  rw [ofDays_daysAt hplace]
  exact isDate_ofPlace hplace

/-- The number of a day is computed back from its date. -/
theorem toDays_ofDays (days : Int) : (ofDays days).toDays = days := by
  obtain ⟨era, year, day, hplace, rfl⟩ := exists_place_of_days days
  rw [ofDays_daysAt hplace, toDays_ofPlace hplace]

theorem ofDays_toDays (h : d.IsDate) : ofDays d.toDays = d := by
  obtain ⟨era, year, day, hplace, rfl⟩ := exists_place_of_isDate h
  rw [toDays_ofPlace hplace, ofDays_daysAt hplace]

/-- Counting on by one day raises the number of the day by one. -/
theorem toDays_next (h : d.IsDate) : d.next.toDays = d.toDays + 1 := by
  obtain ⟨year, month, day⟩ := d
  obtain ⟨hpos, hle, hday, hlength⟩ := h
  dsimp only at hpos hle hday hlength
  have hera : ∀ n : Int, n.fdiv 400 = n / 400 := fun n => Int.fdiv_eq_ediv_of_nonneg n (by decide)
  have hrest : ∀ n : Int, n.fmod 400 = n % 400 := fun n => Int.fmod_eq_emod_of_nonneg n (by decide)
  unfold next
  dsimp only
  by_cases hwithin : day < daysInMonth year month
  · rw [if_pos hwithin]
    unfold toDays
    dsimp only
    omega
  · obtain rfl : day = daysInMonth year month := by omega
    rw [if_neg hwithin]
    by_cases hfebruary : month = 2
    · subst hfebruary
      have hdays : daysInMonth year 2 = if IsLeapYear year then 29 else 28 := rfl
      clear hday hlength hwithin
      by_cases hleap : IsLeapYear year
      · rw [hdays, if_pos hleap]
        unfold IsLeapYear at hleap
        simp [toDays, hera, hrest, daysBeforeYear, daysBeforeMonth, eraDays]
        omega
      · rw [hdays, if_neg hleap]
        unfold IsLeapYear at hleap
        simp [toDays, hera, hrest, daysBeforeYear, daysBeforeMonth, eraDays]
        omega
    · interval_cases month
      pick_goal 2
      · exact absurd rfl hfebruary
      all_goals
        simp [toDays, daysInMonth, daysBeforeMonth]
        omega

theorem isDate_next (h : d.IsDate) : d.next.IsDate := by
  obtain ⟨hpos, hle, hday, hlength⟩ := h
  have hmonth : ∀ year month, 1 ≤ daysInMonth year month := by
    intro year month
    unfold daysInMonth
    split
    · split
      · omega
      · omega
    · split
      · omega
      · omega
  unfold next
  split
  · next hwithin => exact ⟨hpos, hle, Nat.succ_pos _, hwithin⟩
  · split
    · next hyear => exact ⟨Nat.succ_pos _, hyear, Nat.le_refl _, hmonth _ _⟩
    · exact ⟨Nat.le_refl _, by simp, Nat.le_refl _, hmonth _ _⟩

/-- The date of the day after is the next date. -/
theorem ofDays_succ (days : Int) : ofDays (days + 1) = (ofDays days).next := by
  have hdate := isDate_ofDays days
  rw [← ofDays_toDays (isDate_next hdate), toDays_next hdate, toDays_ofDays]

/-! ## Weekdays -/

/-- The weekday of a day, counted from Sunday. -/
def weekdayOf (days : Int) : Nat :=
  ((days + 4).fmod 7).toNat

theorem weekdayOf_eq (days : Int) : weekdayOf days = ((days + 4) % 7).toNat := by
  unfold weekdayOf
  rw [Int.fmod_eq_emod_of_nonneg _ (by decide)]

theorem weekdayOf_lt (days : Int) : weekdayOf days < 7 := by
  rw [weekdayOf_eq]
  omega

theorem weekdayOf_succ (days : Int) : weekdayOf (days + 1) = (weekdayOf days + 1) % 7 := by
  rw [weekdayOf_eq, weekdayOf_eq]
  omega

/-- The date and the weekday that are computed for a day are those that are found by counting. -/
theorem counted_ofDays (days : Int) : Counted days (ofDays days) (weekdayOf days) := by
  induction days using Int.induction_on with
  | zero => exact .start
  | succ n ih =>
    rw [ofDays_succ, weekdayOf_succ]
    exact .after ih
  | pred n ih =>
    have hback : -(n : Int) = -(n : Int) - 1 + 1 := by omega
    rw [hback, ofDays_succ, weekdayOf_succ] at ih
    exact .before (isDate_ofDays _) (weekdayOf_lt _) ih

/-- Counting finds nothing else. -/
theorem eq_of_counted {weekday : Nat} (h : Counted days d weekday) :
    d = ofDays days ∧ weekday = weekdayOf days := by
  induction h with
  | start => exact ⟨by decide, by decide⟩
  | after _ ih =>
    rw [ofDays_succ, weekdayOf_succ, ih.1, ih.2]
    exact ⟨rfl, rfl⟩
  | before hdate hweekday _ ih =>
    obtain ⟨hnext, hwrap⟩ := ih
    have hdays := congrArg toDays hnext
    rw [toDays_next hdate, toDays_ofDays] at hdays
    rw [weekdayOf_succ] at hwrap
    constructor
    · rw [← ofDays_toDays hdate]
      congr 1
      omega
    · have hlt := weekdayOf_lt ‹Int›
      omega

end CalendarDay

end Courier
