import DocScribe.Document.Timestamp
import Mathlib.Order.Monotone.Basic

/-!
# `DocScribe.Proofs.Document.Calendar`: dates and the days they number

The days from the first one of year 1 on are numbered in the order of
their dates (`dayNumber_lt_iff`), and every number is that of a date,
which is found from it (`dateOf_spec`). Both together say that dates
are the days one after the other, leap years and all: there is one
such numbering only.

The year of a day is guessed from the mean length of a year. A cycle
of 400 years has `146097` days, and no year begins two years early or
late next to the mean; this is an inequality between quotients.
-/

set_option autoImplicit false

namespace DocScribe.Calendar

/-! ### Years -/

/-- How many days a year has. -/
def yearLength (year : Nat) : Nat := if isLeap year then 366 else 365

/-- The rule for leap years, as it is usually said. -/
theorem isLeap_iff (year : Nat) :
    isLeap year = true ↔ year % 4 = 0 ∧ (year % 100 ≠ 0 ∨ year % 400 = 0) := by
  simp [isLeap]

/-- A year is as long as its leap day makes it: between its first day and
that of the next lie the days of its months. -/
theorem daysBeforeYear_succ {year : Nat} (h : 1 ≤ year) :
    daysBeforeYear (year + 1) = daysBeforeYear year + yearLength year := by
  obtain ⟨n, rfl⟩ : ∃ n, year = n + 1 := ⟨year - 1, by omega⟩
  have hlength : yearLength (n + 1) + (if (n + 1) % 100 = 0 then 1 else 0) =
      365 + (if (n + 1) % 4 = 0 then 1 else 0) + (if (n + 1) % 400 = 0 then 1 else 0) := by
    simp only [yearLength, isLeap_iff]
    split_ifs <;> omega
  -- Each quotient grows in the years that its divisor divides.
  have h4 : (n + 1) / 4 = n / 4 + (if (n + 1) % 4 = 0 then 1 else 0) := by split <;> omega
  have h100 : (n + 1) / 100 = n / 100 + (if (n + 1) % 100 = 0 then 1 else 0) := by split <;> omega
  have h400 : (n + 1) / 400 = n / 400 + (if (n + 1) % 400 = 0 then 1 else 0) := by split <;> omega
  have hfew : n / 100 ≤ n / 4 ∧ (n + 1) / 100 ≤ (n + 1) / 4 := by omega
  show (n + 1) * 365 + (n + 1) / 4 - (n + 1) / 100 + (n + 1) / 400 =
    n * 365 + n / 4 - n / 100 + n / 400 + yearLength (n + 1)
  generalize (n + 1) / 4 = a, (n + 1) / 100 = b, (n + 1) / 400 = c, n / 4 = a', n / 100 = b',
    n / 400 = c', (if (n + 1) % 4 = 0 then 1 else 0) = x, (if (n + 1) % 100 = 0 then 1 else 0) = y,
    (if (n + 1) % 400 = 0 then 1 else 0) = z at *
  omega

/-- More days lie before later years. So the year of a day can be found by
comparing. -/
theorem daysBeforeYear_mono : Monotone daysBeforeYear := by
  refine monotone_nat_of_le_succ fun year => ?_
  by_cases hyear : 1 ≤ year
  · rw [daysBeforeYear_succ hyear]
    exact Nat.le_add_right _ _
  · rw [show year = 0 by omega]
    decide

/-- A day lies in the year that is found for it. The year is looked for
among those that could hold the day, and the days before a year tell which
of them does. -/
theorem yearOf_spec (day : Nat) :
    1 ≤ yearOf day ∧ daysBeforeYear (yearOf day) ≤ day ∧
      day < daysBeforeYear (yearOf day + 1) := by
  -- `guess` is the year by the mean length, so `day` is close to its beginning.
  obtain ⟨guess, hguess⟩ : ∃ guess, day * 400 / 146097 = guess := ⟨_, rfl⟩
  have hlow : guess * 146097 ≤ day * 400 := by omega
  have hhigh : day * 400 < (guess + 1) * 146097 := by omega
  simp only [yearOf, hguess]
  split
  · simp only [daysBeforeYear] at *
    omega
  · split
    · simp only [daysBeforeYear] at *
      omega
    · exact ⟨by omega, by omega, by omega⟩

/-! ### Months -/

/-- One more count adds that count, which is zero behind the last. So the
days before a month are the lengths of the months before it. -/
theorem total_take_succ (counts : List Nat) (i : Nat) :
    total (counts.take (i + 1)) = total (counts.take i) + counts[i]?.getD 0 := by
  induction counts generalizing i with
  | nil => simp
  | cons n counts ih =>
      cases i with
      | zero => simp [total]
      | succ i =>
          have hrest := ih i
          simp only [total, List.take_succ_cons, List.foldr_cons, List.getElem?_cons_succ]
            at hrest ⊢
          omega

/-- More days lie before later months, whatever the lengths of the months
are. -/
theorem total_take_mono (counts : List Nat) : Monotone fun i => total (counts.take i) := by
  refine monotone_nat_of_le_succ fun i => ?_
  rw [total_take_succ]
  exact Nat.le_add_right _ _

/-- The months of a year make up the year, in leap years too. -/
theorem total_monthLengths (year : Nat) : total (monthLengths year) = yearLength year := by
  simp only [monthLengths, total, yearLength, List.foldr_cons, List.foldr_nil]
  split <;> rfl

/-- The month of a day: the lengths of the months before it have
passed, and its own has not. The induction is on the lengths, with the
days left of those passed. -/
theorem monthFrom_spec {lengths : List Nat} {left : Nat} (month : Nat) (h : left < total lengths) :
    ∃ i, total (lengths.take i) ≤ left ∧ left < total (lengths.take (i + 1)) ∧
      monthFrom lengths month left = (month + i, left - total (lengths.take i) + 1) := by
  induction lengths generalizing month left with
  | nil => exact absurd h (Nat.not_lt_zero left)
  | cons n lengths ih =>
      have htotal : ∀ i, total ((n :: lengths).take (i + 1)) = n + total (lengths.take i) :=
        fun _ => rfl
      rw [monthFrom]
      split
      · next hleft =>
        refine ⟨0, Nat.zero_le left, ?_, rfl⟩
        rw [htotal]
        omega
      · -- The first month has passed: the days behind it are left.
        next hleft =>
        have hrest : left - n < total lengths := by
          have : total (n :: lengths) = n + total lengths := rfl
          omega
        obtain ⟨i, hlow, hhigh, hfound⟩ := ih (month + 1) hrest
        refine ⟨i + 1, ?_, ?_, ?_⟩
        · rw [htotal]
          omega
        · rw [htotal]
          omega
        · rw [hfound, htotal, Nat.sub_sub, Nat.add_right_comm, Nat.add_assoc]

/-! ### Dates -/

/-- A date that there is. -/
structure IsDate (year month day : Nat) : Prop where
  year_pos : 1 ≤ year
  month_pos : 1 ≤ month
  month_le : month ≤ 12
  day_pos : 1 ≤ day
  day_le : day ≤ (monthLengths year)[month - 1]?.getD 0

/-- A date lies in its month, so it comes before every day of a later
one. -/
theorem IsDate.daysBeforeMonth_le {year month day : Nat} (h : IsDate year month day) {next : Nat}
    (hnext : month < next) :
    daysBeforeMonth year month + day ≤ daysBeforeMonth year next := by
  have hmonth := h.month_pos
  have hmono : total ((monthLengths year).take (month - 1 + 1)) ≤
      total ((monthLengths year).take (next - 1)) := total_take_mono _ (by omega)
  rw [total_take_succ] at hmono
  have hday := h.day_le
  simp only [daysBeforeMonth]
  omega

/-- A date lies in its year, so it comes before the first day of the
next. -/
theorem IsDate.dayNumber_lt {year month day : Nat} (h : IsDate year month day) :
    dayNumber year month day < daysBeforeYear (year + 1) := by
  have hyear : daysBeforeMonth year month + day ≤ yearLength year := by
    have hlast : daysBeforeMonth year month + day ≤ daysBeforeMonth year 13 :=
      h.daysBeforeMonth_le (Nat.lt_succ_of_le h.month_le)
    have hall : daysBeforeMonth year 13 = yearLength year := total_monthLengths year
    omega
  have hday := h.day_pos
  rw [daysBeforeYear_succ h.year_pos, dayNumber]
  omega

/-- A day in front of the end of the calendar is one of a year up to 9999,
for the first day behind that year is its end. -/
theorem year_le_of_dayNumber_lt {year month day : Nat} (h : dayNumber year month day < endDay) :
    year ≤ 9999 := by
  by_contra hlate
  have hmono : daysBeforeYear 10000 ≤ daysBeforeYear year := daysBeforeYear_mono (by omega)
  rw [dayNumber, endDay] at h
  omega

/-- A date that comes first has the smaller number, whether its year, its
month or its day makes the difference. -/
theorem IsDate.dayNumber_lt_of_before {year month day year' month' day' : Nat}
    (h : IsDate year month day) (h' : IsDate year' month' day')
    (hbefore : year < year' ∨ year = year' ∧ (month < month' ∨ month = month' ∧ day < day')) :
    dayNumber year month day < dayNumber year' month' day' := by
  have hpos := h.day_pos
  rcases hbefore with hyear | ⟨rfl, hmonth | ⟨rfl, hday⟩⟩
  · have hlt := h.dayNumber_lt
    have hmono : daysBeforeYear (year + 1) ≤ daysBeforeYear year' := daysBeforeYear_mono hyear
    simp only [dayNumber] at hlt ⊢
    omega
  · have hle := h.daysBeforeMonth_le hmonth
    simp only [dayNumber]
    omega
  · simp only [dayNumber]
    omega

/-- Days are numbered in the order of their dates: of two dates, one comes
first or both are the same, and so the number tells. -/
theorem IsDate.dayNumber_lt_iff {year month day year' month' day' : Nat}
    (h : IsDate year month day) (h' : IsDate year' month' day') :
    dayNumber year month day < dayNumber year' month' day' ↔
      year < year' ∨ year = year' ∧ (month < month' ∨ month = month' ∧ day < day') := by
  refine ⟨fun hlt => ?_, h.dayNumber_lt_of_before h'⟩
  by_contra hnot
  -- A date that does not come first is the same date or comes after the other.
  by_cases hsame : year = year' ∧ month = month' ∧ day = day'
  · obtain ⟨rfl, rfl, rfl⟩ := hsame
    exact Nat.lt_irrefl _ hlt
  · exact Nat.lt_asymm hlt (h'.dayNumber_lt_of_before h (by omega))

/-- The same number is the same date, for two dates of which none comes
first agree in year, month and day. -/
theorem IsDate.dayNumber_eq_iff {year month day year' month' day' : Nat}
    (h : IsDate year month day) (h' : IsDate year' month' day') :
    dayNumber year month day = dayNumber year' month' day' ↔
      year = year' ∧ month = month' ∧ day = day' := by
  refine ⟨fun heq => ?_, ?_⟩
  · have hnot := mt (h.dayNumber_lt_iff h').mpr (Nat.not_lt.mpr (Nat.le_of_eq heq.symm))
    have hnot' := mt (h'.dayNumber_lt_iff h).mpr (Nat.not_lt.mpr (Nat.le_of_eq heq))
    omega
  · rintro ⟨rfl, rfl, rfl⟩
    rfl

/-- Every number is that of a date, which is found from it: first the year,
then the month, and what is left is the day. -/
theorem dateOf_spec (number : Nat) :
    ∃ year month day, dateOf number = (year, month, day) ∧ IsDate year month day ∧
      dayNumber year month day = number := by
  obtain ⟨hpos, hlow, hhigh⟩ := yearOf_spec number
  rw [daysBeforeYear_succ hpos] at hhigh
  have hleft : number - daysBeforeYear (yearOf number) < total (monthLengths (yearOf number)) := by
    rw [total_monthLengths]
    omega
  obtain ⟨i, hfrom, hto, hmonth⟩ := monthFrom_spec 1 hleft
  rw [total_take_succ] at hto
  -- Behind the last month there are no days, so the one that was found is among the twelve.
  have hindex : i < 12 := by
    by_contra hout
    rw [List.getElem?_eq_none (show (monthLengths (yearOf number)).length ≤ i from
      Nat.not_lt.mp hout)] at hto
    exact absurd hto (Nat.not_lt.mpr hfrom)
  refine ⟨yearOf number, 1 + i, _, by rw [dateOf, hmonth], ⟨hpos, by omega, by omega, by omega, ?_⟩,
    ?_⟩
  · rw [Nat.add_sub_cancel_left]
    omega
  · simp only [dayNumber, daysBeforeMonth, Nat.add_sub_cancel_left]
    omega

end DocScribe.Calendar
