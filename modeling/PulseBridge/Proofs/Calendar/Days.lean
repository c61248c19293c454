import Mathlib.Data.Int.Init
import Mathlib.Tactic.SplitIfs
import PulseBridge.Calendar

/-!
# The days of the calendar

A year is a leap year if it is a multiple of four, but of hundred only if also of four hundred. With
the lengths of the months this says which dates there are and which date comes after another, and so
how many days each date lies after the beginning of 1970, or before it. Dates and numbers of days
are computed from each other without counting, which is shown to come to the same.

## Main definitions

* `isLeap`, `monthLength`, `Date.IsValid`: the dates that there are.
* `Date.next`, `Date.IsDay`: days counted one by one.

## Main statements

* `next_dateOf`: the date of the next day is the next date.
* `daysTo_dateOf`, `dateOf_daysTo`: dates and numbers of days are computed from each other.
* `isDay_iff`: the date that is computed is the one that is counted.

## Implementation notes

Computing goes by cycles of four hundred years and by years that begin in March. A day has its
place in them: a cycle, a year of the cycle, and a day of the year. Statements about the months are
settled by going through the days of such a year.
-/

namespace PulseBridge.Calendar

/-! ## Counting -/

/-- Whether a year is a leap year. -/
def isLeap (year : Int) : Bool := year % 4 == 0 && (year % 100 != 0 || year % 400 == 0)

/-- How many days a month has, in a leap year or in another one. -/
def monthLength (leap : Bool) (month : Nat) : Nat :=
  if month = 2 then if leap then 29 else 28
  else if month = 4 ∨ month = 6 ∨ month = 9 ∨ month = 11 then 30
  else 31

theorem monthLength_le (leap : Bool) (month : Nat) : monthLength leap month ≤ 31 := by
  rw [monthLength]
  split_ifs <;> decide

namespace Date

/-- How many days the month of a date has. -/
def lengthOfMonth (date : Date) : Nat := monthLength (isLeap date.year) date.month

/-- Whether there is such a date. -/
structure IsValid (date : Date) : Prop where
  month_pos : 1 ≤ date.month
  month_le : date.month ≤ 12
  day_pos : 1 ≤ date.day
  day_le : date.day ≤ date.lengthOfMonth

instance (date : Date) : Decidable date.IsValid :=
  decidable_of_iff (1 ≤ date.month ∧ date.month ≤ 12 ∧ 1 ≤ date.day ∧ date.day ≤ date.lengthOfMonth)
    ⟨fun ⟨h₁, h₂, h₃, h₄⟩ => ⟨h₁, h₂, h₃, h₄⟩, fun ⟨h₁, h₂, h₃, h₄⟩ => ⟨h₁, h₂, h₃, h₄⟩⟩

/-- The date after a date. -/
def next (date : Date) : Date :=
  if date.day < date.lengthOfMonth then { date with day := date.day + 1 }
  else if date.month < 12 then ⟨date.year, date.month + 1, 1⟩
  else ⟨date.year + 1, 1, 1⟩

/-- Whether a date lies so many days after the first of January 1970. The days are counted one by
one, from there onwards and backwards. -/
inductive IsDay : Date → Int → Prop
  | epoch : IsDay ⟨1970, 1, 1⟩ 0
  | next {date : Date} {days : Int} (h : IsDay date days) : IsDay date.next (days + 1)
  | previous {date : Date} {days : Int} (valid : date.IsValid) (h : IsDay date.next days) :
      IsDay date (days - 1)

end Date

/-! ## Places in a cycle -/

/-- How many days of a cycle are over when a year of it begins in March. -/
def yearStart (year : Nat) : Nat := 365 * year + year / 4 - year / 100

/-- How many days a year has that begins in March. It ends with the February of the next year. -/
def yearLength (leap : Bool) : Nat := if leap then 366 else 365

/-- Whether the year of a cycle that begins in March ends with a leap day. -/
def endsLeap (year : Nat) : Bool := isLeap (year + 1)

/-- The month of a day of such a year. -/
def monthAt (day : Nat) : Nat :=
  if (5 * day + 2) / 153 < 10 then (5 * day + 2) / 153 + 3 else (5 * day + 2) / 153 - 9

/-- The day of the month. -/
def dayAt (day : Nat) : Nat := day - (153 * ((5 * day + 2) / 153) + 2) / 5 + 1

/-- The date at a place. -/
def dateAt (cycle : Int) (year day : Nat) : Date :=
  ⟨year + cycle * 400 + (if monthAt day ≤ 2 then 1 else 0), monthAt day, dayAt day⟩

variable {cycle : Int} {year day : Nat} {leap : Bool}

/-- Such a year ends with a leap day if it is the last one of four, but the last one of a century
only if it is also the last one of the cycle. -/
theorem endsLeap_iff :
    endsLeap year = true ↔ year % 4 = 3 ∧ (year % 100 ≠ 99 ∨ year % 400 = 399) := by
  simp only [endsLeap, isLeap, Bool.and_eq_true, Bool.or_eq_true, beq_iff_eq, bne_iff_ne]
  omega

theorem lt_yearLength_endsLeap :
    day < yearLength (endsLeap year) ↔
      day < 365 ∨ day = 365 ∧ year % 4 = 3 ∧ (year % 100 ≠ 99 ∨ year % 400 = 399) := by
  rw [yearLength]
  split_ifs with leap
  · rw [endsLeap_iff] at leap
    omega
  · rw [endsLeap_iff] at leap
    omega

theorem isLeap_cycle (cycle : Int) (year : Nat) :
    isLeap (year + cycle * 400 + 1) = endsLeap year := by
  rw [Bool.eq_iff_iff]
  simp only [endsLeap, isLeap, Bool.and_eq_true, Bool.or_eq_true, beq_iff_eq, bne_iff_ne]
  omega

/-- The days before a year are those of the centuries, of the fours of years in the century and of
the years among these four. -/
theorem yearStart_eq {k j i : Nat} (hj : j < 25) (hi : i < 4) :
    yearStart (100 * k + 4 * j + i) = 36524 * k + 1461 * j + 365 * i := by
  rw [yearStart]
  omega

/-- The year of a day of the cycle is computed from the number of days that are over. Without the
leap days there would be as many years as there are times 365 days. -/
theorem yearOfCycle_eq (hyear : year < 400) (hday : day < yearLength (endsLeap year)) {past : Nat}
    (h : past = yearStart year + day) :
    (past - past / 1460 + past / 36524 - past / 146096) / 365 = year := by
  rw [lt_yearLength_endsLeap] at hday
  obtain ⟨k, j, i, rfl, hk, hj, hi⟩ :
      ∃ k j i, year = 100 * k + 4 * j + i ∧ k < 4 ∧ j < 25 ∧ i < 4 :=
    ⟨year / 100, year % 100 / 4, year % 4, by omega, by omega, by omega, by omega⟩
  rw [yearStart_eq hj hi] at h
  have short : day < 365 ∨ day = 365 ∧ i = 3 ∧ (j < 24 ∨ k = 3) := by omega
  clear hday hyear
  -- as many leap days as there are fours of years, and one more at the end of a four
  obtain ⟨b, hb, once⟩ : ∃ b, past / 1460 = 25 * k + j + b ∧ b ≤ 1 :=
    ⟨(24 * k + j + 365 * i + day) / 1460, by omega, by omega⟩
  have century : past / 36524 = k ∧ past / 146096 = 0 ∨ past = 146096 := by omega
  obtain ⟨hcentury, hlast⟩ | rfl := century
  · rw [hb, hcentury, hlast]
    omega
  · omega

theorem over_lt (hyear : year < 400) (hday : day < yearLength (endsLeap year)) :
    yearStart year + day < daysPerCycle := by
  rw [lt_yearLength_endsLeap] at hday
  rw [yearStart, daysPerCycle]
  omega

/-- The years of a cycle follow one another. -/
theorem yearStart_succ (h : year + 1 < 400) :
    yearStart (year + 1) = yearStart year + yearLength (endsLeap year) := by
  rw [yearStart, yearStart, yearLength]
  split_ifs with leap
  · rw [endsLeap_iff] at leap
    omega
  · rw [endsLeap_iff] at leap
    omega

/-- Whether a day, counted from the beginning of 1970, has this place: a cycle, a year of it and a
day of the year. -/
structure IsPlace (cycle : Int) (year day : Nat) (days : Int) : Prop where
  year_lt : year < 400
  day_lt : day < yearLength (endsLeap year)
  days_eq : days + epochOffset = cycle * daysPerCycle + (yearStart year + day : Nat)

/-- Every day has a place. -/
theorem exists_isPlace (days : Int) : ∃ cycle year day, IsPlace cycle year day days := by
  obtain ⟨past, hover, hdays⟩ : ∃ past : Nat, past < 146097 ∧
      days + epochOffset = (days + epochOffset) / 146097 * 146097 + past :=
    ⟨((days + epochOffset) % 146097).toNat, by omega, by omega⟩
  -- centuries, four years and years as many as fit, but no more than there are
  obtain ⟨k, hk⟩ : ∃ k, k = min (past / 36524) 3 := ⟨_, rfl⟩
  obtain ⟨j, hj⟩ : ∃ j, j = min ((past - 36524 * k) / 1461) 24 := ⟨_, rfl⟩
  obtain ⟨i, hi⟩ : ∃ i, i = min ((past - 36524 * k - 1461 * j) / 365) 3 := ⟨_, rfl⟩
  have start := yearStart_eq (k := k) (show j < 25 by omega) (show i < 4 by omega)
  refine ⟨(days + epochOffset) / 146097, 100 * k + 4 * j + i,
    past - (36524 * k + 1461 * j + 365 * i), by omega, ?_, ?_⟩
  · rw [lt_yearLength_endsLeap]
    omega
  · rw [start, hdays, daysPerCycle]
    omega

namespace IsPlace

variable {days : Int}

theorem succ_day (h : IsPlace cycle year day days)
    (within : day + 1 < yearLength (endsLeap year)) : IsPlace cycle year (day + 1) (days + 1) :=
  ⟨h.year_lt, within, by have := h.days_eq; omega⟩

theorem succ_year (h : IsPlace cycle year day days)
    (last : day + 1 = yearLength (endsLeap year)) (within : year + 1 < 400) :
    IsPlace cycle (year + 1) 0 (days + 1) := by
  refine ⟨within, by rw [lt_yearLength_endsLeap]; omega, ?_⟩
  have := h.days_eq
  rw [yearStart_succ within]
  omega

theorem succ_cycle (h : IsPlace cycle 399 day days)
    (last : day + 1 = yearLength (endsLeap 399)) : IsPlace (cycle + 1) 0 0 (days + 1) := by
  refine ⟨by decide, by decide, ?_⟩
  have full : yearStart 399 + (day + 1) = daysPerCycle := by
    rw [last]
    decide
  have := h.days_eq
  have start : yearStart 0 = 0 := by decide
  rw [start, Int.add_mul]
  omega

/-- The date that is computed is the one at the place of the day. -/
theorem dateOf_eq (h : IsPlace cycle year day days) : dateOf days = dateAt cycle year day := by
  have small := over_lt h.year_lt h.day_lt
  have days_eq := h.days_eq
  have hcycle : (days + epochOffset).fdiv daysPerCycle = cycle := by
    rw [Int.fdiv_eq_ediv_of_nonneg _ (by decide), days_eq, daysPerCycle] at *
    omega
  have hover : ((days + epochOffset).fmod daysPerCycle).toNat = yearStart year + day := by
    rw [Int.fmod_eq_emod_of_nonneg _ (by decide), days_eq, daysPerCycle] at *
    omega
  have hyear := yearOfCycle_eq h.year_lt h.day_lt rfl
  have hday : yearStart year + day - yearStart year = day := Nat.add_sub_cancel_left ..
  unfold dateOf dateAt monthAt dayAt
  simp only [hcycle, hover, hyear]
  rw [← yearStart, hday]

end IsPlace

/-! ## Days of a year -/

/-- The months of a year that begins in March, one after the other. -/
theorem monthAt_dayAt : ∀ leap, ∀ day < yearLength leap,
    (1 ≤ monthAt day ∧ monthAt day ≤ 12) ∧
      1 ≤ dayAt day ∧ dayAt day ≤ monthLength leap (monthAt day) := by
  decide +kernel

/-- Within such a year the next day is the next one of the month or the first one of the next
month. -/
theorem monthAt_succ : ∀ leap, ∀ day < yearLength leap, day + 1 < yearLength leap →
    (monthAt (day + 1) ≤ 2 ↔ monthAt day ≤ 2 ∨ monthAt (day + 1) = 1) ∧
    if dayAt day < monthLength leap (monthAt day) then
      monthAt (day + 1) = monthAt day ∧ dayAt (day + 1) = dayAt day + 1
    else dayAt (day + 1) = 1 ∧
      monthAt (day + 1) = if monthAt day < 12 then monthAt day + 1 else 1 := by
  decide +kernel

/-- The day of such a year on which a day of a month falls. -/
def dayOf (month day : Nat) : Nat :=
  (153 * (if 2 < month then month - 3 else month + 9) + 2) / 5 + day - 1

/-- Every day of a month falls on a day of the year. -/
theorem monthAt_dayOf : ∀ leap, ∀ month < 12, ∀ day < monthLength leap (month + 1),
    dayOf (month + 1) (day + 1) < yearLength leap ∧
      monthAt (dayOf (month + 1) (day + 1)) = month + 1 ∧
      dayAt (dayOf (month + 1) (day + 1)) = day + 1 := by
  decide +kernel

/-- Every day of the year falls on one day of a month. -/
theorem dayOf_monthAt : ∀ day < yearLength true, dayOf (monthAt day) (dayAt day) = day := by
  decide +kernel

/-- Only the length of February depends on the year. -/
theorem monthLength_of_ne {month : Nat} (h : month ≠ 2) (leap leap' : Bool) :
    monthLength leap month = monthLength leap' month := by
  rw [monthLength, monthLength, if_neg h, if_neg h]

theorem lengthOfMonth_dateAt (cycle : Int) (year day : Nat) :
    (dateAt cycle year day).lengthOfMonth = monthLength (endsLeap year) (monthAt day) := by
  by_cases february : monthAt day = 2
  · rw [Date.lengthOfMonth, dateAt, february, if_pos (by decide), isLeap_cycle]
  · exact monthLength_of_ne february _ _

/-- The last day of such a year is the last day of February. -/
theorem monthAt_last : ∀ leap, ∀ day, day + 1 = yearLength leap →
    monthAt day = 2 ∧ dayAt day = monthLength leap 2 := by
  intro leap day last
  obtain rfl : day = yearLength leap - 1 := by omega
  revert leap
  decide

/-! ## Dates at their places -/

theorem next_dateAt_eq (cycle : Int) (year day : Nat) :
    (dateAt cycle year day).next =
      if dayAt day < monthLength (endsLeap year) (monthAt day) then
        ⟨(dateAt cycle year day).year, monthAt day, dayAt day + 1⟩
      else if monthAt day < 12 then ⟨(dateAt cycle year day).year, monthAt day + 1, 1⟩
      else ⟨(dateAt cycle year day).year + 1, 1, 1⟩ := by
  rw [Date.next, lengthOfMonth_dateAt]
  rfl

/-- The year after the last one of a cycle is the first one of the next cycle. -/
theorem dateAt_cycle (cycle : Int) (day : Nat) :
    dateAt cycle 400 day = dateAt (cycle + 1) 0 day := by
  have year : ((400 : Nat) : Int) + cycle * 400 = (0 : Nat) + (cycle + 1) * 400 := by omega
  rw [dateAt, dateAt, year]

/-- The year after one that begins in March. -/
theorem next_dateAt_end (last : day + 1 = yearLength (endsLeap year)) :
    (dateAt cycle year day).next = dateAt cycle (year + 1) 0 := by
  obtain ⟨february, month_end⟩ := monthAt_last _ day last
  have march : monthAt 0 = 3 ∧ dayAt 0 = 1 := by decide
  rw [next_dateAt_eq, month_end, february, if_neg (Nat.lt_irrefl _), if_pos (by decide), dateAt,
    dateAt, february, march.1, march.2, if_pos (by decide), if_neg (by decide)]
  simp only [Date.mk.injEq, and_true]
  omega

section Places

variable (hday : day < yearLength (endsLeap year))

include hday

theorem isValid_dateAt : (dateAt cycle year day).IsValid := by
  obtain ⟨⟨month_pos, month_le⟩, day_pos, day_le⟩ := monthAt_dayAt _ day hday
  refine ⟨month_pos, month_le, day_pos, ?_⟩
  rw [lengthOfMonth_dateAt]
  exact day_le

theorem next_dateAt (within : day + 1 < yearLength (endsLeap year)) :
    (dateAt cycle year day).next = dateAt cycle year (day + 1) := by
  obtain ⟨years, days⟩ := monthAt_succ _ day hday within
  rw [next_dateAt_eq]
  by_cases inside : dayAt day < monthLength (endsLeap year) (monthAt day)
  · rw [if_pos inside] at days ⊢
    rw [dateAt, dateAt, days.1, days.2]
  · rw [if_neg inside] at days ⊢
    obtain ⟨first, month⟩ := days
    by_cases december : monthAt day < 12
    · rw [if_pos december] at month
      have same : monthAt day + 1 ≤ 2 ↔ monthAt day ≤ 2 := by
        have := (monthAt_dayAt _ day hday).1.1
        omega
      rw [if_pos december, dateAt, dateAt, first, month]
      simp only [same]
    · rw [if_neg december] at month
      rw [if_neg december, dateAt, dateAt, first, month, if_neg (by omega), if_pos (by decide),
        Int.add_zero]

end Places

/-! ## Dates of days -/

theorem isValid_dateOf (days : Int) : (dateOf days).IsValid := by
  obtain ⟨cycle, year, day, place⟩ := exists_isPlace days
  rw [place.dateOf_eq]
  exact isValid_dateAt place.day_lt

/-- The date of the next day is the next date. -/
theorem next_dateOf (days : Int) : (dateOf days).next = dateOf (days + 1) := by
  obtain ⟨cycle, year, day, place⟩ := exists_isPlace days
  rw [place.dateOf_eq]
  by_cases within : day + 1 < yearLength (endsLeap year)
  · rw [next_dateAt place.day_lt within, (place.succ_day within).dateOf_eq]
  · have last : day + 1 = yearLength (endsLeap year) := by
      have := place.day_lt
      omega
    rw [next_dateAt_end last]
    by_cases same : year + 1 < 400
    · rw [(place.succ_year last same).dateOf_eq]
    · obtain rfl : year = 399 := by
        have := place.year_lt
        omega
      rw [dateAt_cycle, (place.succ_cycle last).dateOf_eq]

/-- The days to a date, by the year that begins in March. -/
theorem daysTo_eq {date : Date} (cycle : Int) (hyear : year < 400)
    (h : (if date.month ≤ 2 then date.year - 1 else date.year) = year + cycle * 400) :
    daysTo date = cycle * daysPerCycle + (yearStart year + dayOf date.month date.day : Nat)
      - epochOffset := by
  have hcycle : ((year : Int) + cycle * 400).fdiv 400 = cycle := by
    rw [Int.fdiv_eq_ediv_of_nonneg _ (by decide)]
    omega
  have hover : (((year : Int) + cycle * 400).fmod 400).toNat = year := by
    rw [Int.fmod_eq_emod_of_nonneg _ (by decide)]
    omega
  unfold daysTo
  simp only [h, hcycle, hover]
  rfl

theorem daysTo_dateOf (days : Int) : daysTo (dateOf days) = days := by
  obtain ⟨cycle, year, day, place⟩ := exists_isPlace days
  have hday : day < yearLength true :=
    Nat.lt_of_lt_of_le place.day_lt (by cases endsLeap year <;> decide)
  rw [place.dateOf_eq, daysTo_eq cycle place.year_lt]
  · have dayOf_eq : dayOf (dateAt cycle year day).month (dateAt cycle year day).day = day :=
      dayOf_monthAt day hday
    have := place.days_eq
    rw [dayOf_eq]
    omega
  · simp only [dateAt]
    split_ifs <;> omega

theorem dateOf_daysTo {date : Date} (valid : date.IsValid) : dateOf (daysTo date) = date := by
  obtain ⟨begun, hbegun⟩ : ∃ begun, begun = if date.month ≤ 2 then date.year - 1 else date.year :=
    ⟨_, rfl⟩
  obtain ⟨cycle, year, hyear, place⟩ : ∃ cycle, ∃ year : Nat, year < 400 ∧
      begun = year + cycle * 400 := ⟨begun / 400, (begun % 400).toNat, by omega, by omega⟩
  have hleap : date.lengthOfMonth = monthLength (endsLeap year) date.month := by
    by_cases february : date.month = 2
    · rw [Date.lengthOfMonth, february, ← isLeap_cycle cycle, ← place, hbegun, if_pos (by omega),
        Int.sub_add_cancel]
    · exact monthLength_of_ne february _ _
  obtain ⟨month_pos, month_le, day_pos, day_le⟩ := valid
  rw [hleap] at day_le
  obtain ⟨hday, hmonthAt, hdayAt⟩ := monthAt_dayOf (endsLeap year) (date.month - 1) (by omega)
    (date.day - 1) (by rw [Nat.sub_add_cancel month_pos]; omega)
  rw [Nat.sub_add_cancel month_pos, Nat.sub_add_cancel day_pos] at hday hmonthAt hdayAt
  have isPlace : IsPlace cycle year (dayOf date.month date.day) (daysTo date) :=
    ⟨hyear, hday, by rw [daysTo_eq cycle hyear (hbegun.symm.trans place), Int.sub_add_cancel]⟩
  have back : (year : Int) + cycle * 400 + (if date.month ≤ 2 then 1 else 0) = date.year := by
    rw [← place, hbegun]
    split_ifs <;> omega
  rw [isPlace.dateOf_eq, dateAt, hmonthAt, hdayAt, back]

theorem dateOf_injective {days days' : Int} (h : dateOf days = dateOf days') : days = days' := by
  rw [← daysTo_dateOf days, h, daysTo_dateOf]

/-- The date that is computed is the one that is counted. -/
theorem isDay_iff {date : Date} {days : Int} : date.IsDay days ↔ date = dateOf days := by
  constructor
  · intro h
    induction h with
    | epoch => decide
    | next _ ih => rw [ih, next_dateOf]
    | @previous date days valid _ ih =>
        rw [← dateOf_daysTo valid, next_dateOf] at ih
        rw [← dateOf_daysTo valid, ← dateOf_injective ih, Int.add_sub_cancel]
  · rintro rfl
    induction days using Int.induction_on with
    | zero => exact .epoch
    | succ days ih =>
        rw [← next_dateOf]
        exact .next ih
    | pred days ih =>
        refine .previous (isValid_dateOf _) ?_
        rw [next_dateOf, Int.sub_add_cancel]
        exact ih

end PulseBridge.Calendar
