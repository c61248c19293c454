import Mathlib.Algebra.Group.Nat.Defs
import PulseBridge.Proofs.Calendar.Days

/-!
# Timestamps

An instant is told by the date of its day and by the hour, the minute and the second of the day. A
timestamp writes these down in digits. Nothing is lost by that: the moment is read off the text, and
the instant is counted from the moment.

## Main definitions

* `Moment.IsValid`, `Moment.IsSecond`: the moments that there are, and which instants they are.
* `Moment.Spells`: how RFC 3339 writes a moment of UTC.

## Main statements

* `isSecond_iff`: every instant has one moment, which is the one that is computed.
* `spells_text`, `Moment.Spells.unique`: a moment is written as it should be, and read back.
* `isWithinYears_momentOf`: the instants that a timestamp is written for.
-/

namespace PulseBridge.Calendar

/-! ## Moments -/

namespace Moment

/-- Whether there is such a moment. -/
structure IsValid (m : Moment) : Prop where
  date : m.date.IsValid
  hour_lt : m.hour < 24
  minute_lt : m.minute < 60
  second_lt : m.second < 60

/-- The second of the day. -/
def ofDay (m : Moment) : Nat := m.hour * 3600 + m.minute * 60 + m.second

/-- Whether a moment lies so many seconds after the beginning of 1970. -/
def IsSecond (m : Moment) (seconds : Int) : Prop :=
  ∃ days, m.date.IsDay days ∧ seconds = days * 86400 + m.ofDay

/-- Whether the year of a moment is one that timestamps are written for. -/
def IsWithinYears (m : Moment) : Prop :=
  earliestYear ≤ m.date.year ∧ m.date.year ≤ latestYear

instance (m : Moment) : Decidable m.IsWithinYears := inferInstanceAs (Decidable (_ ∧ _))

theorem IsValid.ofDay_lt {m : Moment} (h : m.IsValid) : m.ofDay < 86400 := by
  have := h.hour_lt
  have := h.minute_lt
  have := h.second_lt
  rw [ofDay]
  omega

end Moment

/-- The day of an instant and the second of the day. -/
theorem exists_day (seconds : Int) :
    ∃ days : Int, ∃ past : Nat, past < 86400 ∧ seconds = days * 86400 + past :=
  ⟨seconds / 86400, (seconds % 86400).toNat, by omega, by omega⟩

theorem momentOf_of_day {days : Int} {past : Nat} (lt : past < 86400) :
    momentOf (days * 86400 + past) = ⟨dateOf days, past / 3600, past / 60 % 60, past % 60⟩ := by
  have day : (days * 86400 + (past : Int)).fdiv 86400 = days := by
    rw [Int.fdiv_eq_ediv_of_nonneg _ (by decide)]
    omega
  have rest : ((days * 86400 + (past : Int)).fmod 86400).toNat = past := by
    rw [Int.fmod_eq_emod_of_nonneg _ (by decide)]
    omega
  rw [momentOf, day, rest]

theorem isValid_momentOf (seconds : Int) : (momentOf seconds).IsValid := by
  obtain ⟨days, past, lt, rfl⟩ := exists_day seconds
  rw [momentOf_of_day lt]
  exact ⟨isValid_dateOf _, Nat.div_lt_of_lt_mul lt, Nat.mod_lt _ (by decide),
    Nat.mod_lt _ (by decide)⟩

/-- Every instant has one moment, which is the one that is computed. -/
theorem isSecond_iff {m : Moment} (valid : m.IsValid) {seconds : Int} :
    m.IsSecond seconds ↔ m = momentOf seconds := by
  constructor
  · rintro ⟨days, hday, rfl⟩
    rw [momentOf_of_day valid.ofDay_lt, ← isDay_iff.mp hday]
    obtain ⟨-, -, minute_lt, second_lt⟩ := valid
    obtain ⟨date, hour, minute, second⟩ := m
    simp only [Moment.ofDay, Moment.mk.injEq, true_and] at *
    omega
  · rintro rfl
    obtain ⟨days, past, lt, rfl⟩ := exists_day seconds
    rw [momentOf_of_day lt]
    refine ⟨days, isDay_iff.mpr rfl, ?_⟩
    simp only [Moment.ofDay]
    omega

theorem isSecond_momentOf (seconds : Int) : (momentOf seconds).IsSecond seconds :=
  (isSecond_iff (isValid_momentOf seconds)).mpr rfl

theorem Moment.IsSecond.unique {m : Moment} {seconds seconds' : Int} (h : m.IsSecond seconds)
    (h' : m.IsSecond seconds') : seconds = seconds' := by
  obtain ⟨days, hday, rfl⟩ := h
  obtain ⟨days', hday', rfl⟩ := h'
  rw [dateOf_injective ((isDay_iff.mp hday).symm.trans (isDay_iff.mp hday'))]

/-- Instants are computed from moments. -/
theorem secondsTo_momentOf (seconds : Int) : secondsTo (momentOf seconds) = seconds := by
  obtain ⟨days, past, lt, rfl⟩ := exists_day seconds
  rw [momentOf_of_day lt, secondsTo, daysTo_dateOf]
  simp only
  omega

/-! ## Years -/

theorem year_next (date : Date) : date.year ≤ date.next.year := by
  rw [Date.next]
  split_ifs
  · exact Int.le_refl _
  · exact Int.le_refl _
  · exact Int.le_of_lt (Int.lt_succ _)

/-- Years do not go back. -/
theorem year_dateOf_mono {days days' : Int} (h : days ≤ days') :
    (dateOf days).year ≤ (dateOf days').year := by
  induction days', h using Int.leInduction with
  | base => exact Int.le_refl _
  | succ day _ ih =>
      rw [← next_dateOf]
      exact Int.le_trans ih (year_next _)

/-- The instants that timestamps are written for: from the first second of the earliest year to the
last second of the latest one. -/
theorem isWithinYears_momentOf {seconds : Int} :
    (momentOf seconds).IsWithinYears ↔ -8334601228800 ≤ seconds ∧ seconds ≤ 8210266876799 := by
  obtain ⟨days, past, lt, rfl⟩ := exists_day seconds
  have first : (dateOf (-96465292)).year = -262143 := by decide
  have before : (dateOf (-96465293)).year = -262144 := by decide
  have last : (dateOf 95026236).year = 262142 := by decide
  have after : (dateOf 95026237).year = 262143 := by decide
  rw [momentOf_of_day lt, Moment.IsWithinYears, earliestYear, latestYear]
  constructor
  · rintro ⟨(earliest : -262143 ≤ (dateOf days).year), (latest : (dateOf days).year ≤ 262142)⟩
    have : ¬ days ≤ -96465293 := fun h => by
      have := year_dateOf_mono h
      simp only [before] at this
      omega
    have : ¬ 95026237 ≤ days := fun h => by
      have := year_dateOf_mono h
      simp only [after] at this
      omega
    omega
  · rintro ⟨earliest, latest⟩
    have from_first := year_dateOf_mono (show -96465292 ≤ days by omega)
    have to_last := year_dateOf_mono (show days ≤ 95026236 by omega)
    simp only [first, last] at from_first to_last
    exact ⟨from_first, to_last⟩

/-! ## Digits -/

/-- Whether characters write a number in decimal: in so many digits, or in more if it needs
them. -/
structure Writes (width : Nat) (cs : List Char) (n : Nat) : Prop where
  digits : ∀ c ∈ cs, c.isDigit
  value : Nat.ofDigitChars 10 cs 0 = n
  width_le : width ≤ cs.length
  needed : cs.length = width ∨ 10 ^ (cs.length - 1) ≤ n

variable {width n : Nat} {cs : List Char}

theorem Writes.unique {m : Nat} (h : Writes width cs n) (h' : Writes width cs m) : n = m :=
  h.value.symm.trans h'.value

theorem Writes.length_eq (h : Writes width cs n) (lt : n < 10 ^ width) : cs.length = width := by
  have width_le := h.width_le
  obtain same | large := h.needed
  · exact same
  · have := Nat.lt_of_le_of_lt large lt
    have := (Nat.pow_lt_pow_iff_right (by decide)).mp this
    omega

theorem writes_padded (pos : 0 < width) (n : Nat) : Writes width (padded width n).toList n := by
  rw [padded, String.toList_ofList]
  refine ⟨?_, ?_, ?_, ?_⟩
  · intro c hc
    obtain zero | digit := List.mem_append.mp hc
    · rw [List.eq_of_mem_replicate zero]
      rfl
    · exact Nat.isDigit_of_mem_toDigits (by decide) (by decide) digit
  · rw [Nat.ofDigitChars_append, Nat.ofDigitChars_replicate_zero, Nat.mul_zero,
      Nat.ofDigitChars_ten_toDigits]
  · simp only [List.length_append, List.length_replicate]
    omega
  · simp only [List.length_append, List.length_replicate]
    by_cases short : (Nat.toDigits 10 n).length ≤ width
    · omega
    · right
      have digits : 10 ^ ((Nat.toDigits 10 n).length - 1) ≤ n := by
        rw [← Nat.not_lt, ← Nat.length_toDigits_le_iff (by decide) (by omega)]
        omega
      rwa [Nat.sub_eq_zero_of_le (Nat.le_of_not_le short), Nat.zero_add]

/-- Whether characters write a year: in four digits, or with its sign if there are more or if it
lies before the year zero. -/
inductive WritesYear : List Char → Int → Prop
  | plain {cs : List Char} {year : Nat} (lt : year < 10000) (h : Writes 4 cs year) :
      WritesYear cs year
  | later {cs : List Char} {year : Nat} (le : 10000 ≤ year) (h : Writes 4 cs year) :
      WritesYear ('+' :: cs) year
  | before {cs : List Char} {year : Nat} (pos : 0 < year) (h : Writes 4 cs year) :
      WritesYear ('-' :: cs) (-year)

theorem writesYear_yearText (year : Int) : WritesYear (yearText year).toList year := by
  rw [yearText]
  by_cases usual : 0 ≤ year ∧ year ≤ 9999
  · obtain ⟨y, rfl⟩ := Int.eq_ofNat_of_zero_le usual.1
    rw [if_pos (by simpa using usual.2)]
    exact .plain (by omega) (writes_padded (by decide) y)
  · rw [if_neg (by simpa using usual), String.toList_append]
    by_cases negative : year < 0
    · obtain ⟨y, rfl⟩ := Int.exists_eq_neg_ofNat (Int.le_of_lt negative)
      rw [if_pos negative, Int.natAbs_neg]
      exact .before (by omega) (writes_padded (by decide) y)
    · obtain ⟨y, rfl⟩ := Int.eq_ofNat_of_zero_le (Int.not_lt.mp negative)
      rw [if_neg negative]
      exact .later (by omega) (writes_padded (by decide) y)

/-- No digit is a sign. -/
theorem Writes.not_sign {sign : Char} (h : Writes width (sign :: cs) n) :
    sign ≠ '+' ∧ sign ≠ '-' := by
  have digit := h.digits sign (List.mem_cons_self ..)
  constructor
  · rintro rfl
    exact absurd digit (by decide)
  · rintro rfl
    exact absurd digit (by decide)

theorem WritesYear.unique {year year' : Int} (h : WritesYear cs year) (h' : WritesYear cs year') :
    year = year' := by
  cases h with
  | plain _ h =>
      cases h' with
      | plain _ h' => rw [h.unique h']
      | later => exact absurd rfl h.not_sign.1
      | before => exact absurd rfl h.not_sign.2
  | later _ h =>
      cases h' with
      | plain _ h' => exact absurd rfl h'.not_sign.1
      | later _ h' => rw [h.unique h']
  | before _ h =>
      cases h' with
      | plain _ h' => exact absurd rfl h'.not_sign.2
      | before _ h' => rw [h.unique h']

/-- Whether characters write an integer, with its sign if it is negative. -/
inductive WritesInt : List Char → Int → Prop
  | plain {cs : List Char} {n : Nat} (h : Writes 1 cs n) : WritesInt cs n
  | negative {cs : List Char} {n : Nat} (pos : 0 < n) (h : Writes 1 cs n) :
      WritesInt ('-' :: cs) (-n)

theorem padded_one (n : Nat) : padded 1 n = n.repr := by
  have pos := List.length_pos_iff.mpr (Nat.toDigits_ne_nil (n := n) (b := 10))
  rw [padded, Nat.sub_eq_zero_of_le pos, Nat.repr_eq_ofList_toDigits]
  rfl

theorem writesInt_toString (n : Int) : WritesInt (toString n).toList n := by
  rw [Int.toString_eq_repr]
  cases n with
  | ofNat n =>
      rw [Int.repr, ← padded_one]
      exact .plain (writes_padded (by decide) n)
  | negSucc n =>
      rw [Int.repr, ← padded_one, String.toList_append]
      exact .negative n.succ_pos (writes_padded (by decide) n.succ)

theorem WritesInt.unique {n n' : Int} (h : WritesInt cs n) (h' : WritesInt cs n') : n = n' := by
  cases h with
  | plain h =>
      cases h' with
      | plain h' => rw [h.unique h']
      | negative => exact absurd rfl h.not_sign.2
  | negative _ h =>
      cases h' with
      | plain h' => exact absurd rfl h'.not_sign.2
      | negative _ h' => rw [h.unique h']

/-! ## Texts -/

/-- Whether a text writes a moment of UTC as RFC 3339 does. -/
def Moment.Spells (m : Moment) (text : String) : Prop :=
  ∃ year month day hour minute second,
    WritesYear year m.date.year ∧ Writes 2 month m.date.month ∧ Writes 2 day m.date.day ∧
      Writes 2 hour m.hour ∧ Writes 2 minute m.minute ∧ Writes 2 second m.second ∧
      text.toList = year ++ '-' :: month ++ '-' :: day ++
        'T' :: hour ++ ':' :: minute ++ ':' :: second ++ "+00:00".toList

theorem spells_text (m : Moment) : m.Spells m.text := by
  refine ⟨_, _, _, _, _, _, writesYear_yearText _, writes_padded (by decide) _,
    writes_padded (by decide) _, writes_padded (by decide) _, writes_padded (by decide) _,
    writes_padded (by decide) _, ?_⟩
  simp [Moment.text]

/-- A number of known width is read off the end of a text. -/
theorem Writes.read {front front' cs' : List Char} {mark : Char} {n' : Nat} (h : Writes width cs n)
    (lt : n < 10 ^ width) (h' : Writes width cs' n') (lt' : n' < 10 ^ width)
    (same : front ++ mark :: cs = front' ++ mark :: cs') : front = front' ∧ n = n' := by
  have lengths : (mark :: cs).length = (mark :: cs').length := by
    rw [List.length_cons, List.length_cons, h.length_eq lt, h'.length_eq lt']
  obtain ⟨fronts, ends⟩ := List.append_inj' same lengths
  cases ends
  exact ⟨fronts, h.unique h'⟩

/-- Two digits are enough for all but the year. -/
theorem Moment.IsValid.two_digits {m : Moment} (h : m.IsValid) :
    m.date.month < 10 ^ 2 ∧ m.date.day < 10 ^ 2 ∧
      m.hour < 10 ^ 2 ∧ m.minute < 10 ^ 2 ∧ m.second < 10 ^ 2 := by
  obtain ⟨⟨-, month_le, -, day_le⟩, hour_lt, minute_lt, second_lt⟩ := h
  have := monthLength_le (isLeap m.date.year) m.date.month
  rw [Date.lengthOfMonth] at day_le
  omega

/-- A moment is read back from its text. -/
theorem Moment.Spells.unique {m m' : Moment} {text : String} (h : m.Spells text)
    (valid : m.IsValid) (h' : m'.Spells text) (valid' : m'.IsValid) : m = m' := by
  obtain ⟨year, month, day, hour, minute, second, hyear, hmonth, hday, hhour, hminute, hsecond,
    htext⟩ := h
  obtain ⟨year', month', day', hour', minute', second', hyear', hmonth', hday', hhour', hminute',
    hsecond', htext'⟩ := h'
  obtain ⟨month_lt, day_lt, hour_lt, minute_lt, second_lt⟩ := valid.two_digits
  obtain ⟨month_lt', day_lt', hour_lt', minute_lt', second_lt'⟩ := valid'.two_digits
  have rest := List.append_cancel_right (htext.symm.trans htext')
  obtain ⟨rest, same_second⟩ := hsecond.read second_lt hsecond' second_lt' rest
  obtain ⟨rest, same_minute⟩ := hminute.read minute_lt hminute' minute_lt' rest
  obtain ⟨rest, same_hour⟩ := hhour.read hour_lt hhour' hour_lt' rest
  obtain ⟨rest, same_day⟩ := hday.read day_lt hday' day_lt' rest
  obtain ⟨rfl, same_month⟩ := hmonth.read month_lt hmonth' month_lt' rest
  have same_year := hyear.unique hyear'
  obtain ⟨⟨_, _, _⟩, _, _, _⟩ := m
  obtain ⟨⟨_, _, _⟩, _, _, _⟩ := m'
  rw [Moment.mk.injEq, Date.mk.injEq]
  exact ⟨⟨same_year, same_month, same_day⟩, same_hour, same_minute, same_second⟩

end PulseBridge.Calendar
