import DocScribe.Proofs.Document.Calendar
import DocScribe.Proofs.Paths
import DocScribe.Proofs.Text.Digits
import Mathlib.Tactic.SplitIfs

/-!
# `DocScribe.Proofs.Document.Timestamps`: the order of timestamps

A timestamp is a date and a time of day in universal time, every
number in digits of a fixed width and the largest unit first. So
timestamps stand in the order of the moments they are for, as far as
these differ by milliseconds.

Two orders are brought together. A text is before another by its
leading numbers, the first that differ; a moment is before another by
its seconds. The numbering of the days puts the first in terms of
dates (`Calendar.IsDate.dayNumber_lt_iff`), and the rest is the
arithmetic of a clock.

`DateTime.timestamp_spec` is the main statement: every moment that has
a date has a timestamp, which shows that date; timestamps are as equal
and as ordered as their moments; and a moment without a date is
refused.
-/

set_option autoImplicit false

namespace DocScribe

/-! ### What a timestamp is to say -/

/-- The milliseconds to a moment, with what is finer cut off. -/
def Moment.milliseconds (m : Moment) : Int :=
  (m.seconds * 1000000 + m.microsecond) / 1000

/-- A moment that some date and time of universal time names. There
are such for the years 1 to 9999. -/
def Moment.IsDated (m : Moment) : Prop :=
  ∃ d : DateTime, d.offset = none ∧ d.moment = .ok m

/-- The form `YYYY-MM-DDTHH:MM:SS.mmmZ` for the numbers of a date and a
time of day. -/
def DateTime.Spells (d : DateTime) (t : Text) : Prop :=
  ∃ year month day hour minute second millisecond : Text,
    t = year ++ "-" ++ month ++ "-" ++ day ++ "T" ++ hour ++ ":" ++ minute ++ ":" ++ second ++ "."
        ++ millisecond ++ "Z" ∧
      Text.Numeral 4 d.year.toNat year ∧ Text.Numeral 2 d.month.toNat month ∧
      Text.Numeral 2 d.day.toNat day ∧ Text.Numeral 2 d.hour.toNat hour ∧
      Text.Numeral 2 d.minute.toNat minute ∧ Text.Numeral 2 d.second.toNat second ∧
      Text.Numeral 3 (d.microsecond.toNat / 1000) millisecond

/-- The form has 24 letters. The widths of its parts are fixed, so this does
not depend on the moment. -/
theorem DateTime.Spells.length {d : DateTime} {t : Text} (h : d.Spells t) : t.length = 24 := by
  obtain ⟨year, month, day, hour, minute, second, millisecond, rfl, hyear, hmonth, hday, hhour,
    hminute, hsecond, hmillisecond⟩ := h
  simp only [List.length_append, hyear.length, hmonth.length, hday.length, hhour.length,
    hminute.length, hsecond.length, hmillisecond.length]
  decide

/-! ### Dates and times that there are -/

/-- A date and a time of day with all its numbers in range. -/
structure DateTime.IsValid (d : DateTime) : Prop where
  offset : -86400 < d.offset.getD 0 ∧ d.offset.getD 0 < 86400
  year : 1 ≤ d.year ∧ d.year ≤ 9999
  month : 1 ≤ d.month ∧ d.month ≤ 12
  day : 1 ≤ d.day ∧ d.day ≤ monthLength d.year d.month
  hour : 0 ≤ d.hour ∧ d.hour ≤ 23
  minute : 0 ≤ d.minute ∧ d.minute ≤ 59
  second : 0 ≤ d.second ∧ d.second ≤ 59
  microsecond : 0 ≤ d.microsecond ∧ d.microsecond ≤ 999999

namespace DateTime

/-- No month is longer than 31 days, so days are two digits. The months are
counted off in a list, and beyond its end the length is put at zero. -/
theorem monthLength_le (year month : Int) : monthLength year month ≤ 31 := by
  have hlengths : ∀ n ∈ Calendar.monthLengths year.toNat, n ≤ 31 := by
    intro n hn
    simp only [Calendar.monthLengths, List.mem_cons, List.not_mem_nil, or_false] at hn
    split_ifs at hn <;> omega
  rw [monthLength]
  cases hget : (Calendar.monthLengths year.toNat)[month.toNat - 1]? with
  | none => exact Int.natCast_nonneg 31
  | some n =>
      have hn := hlengths n (List.mem_of_getElem? hget)
      rw [Option.getD_some]
      omega

/-- An offset is less than a day, to either side. Without one there is
nothing to check. -/
theorem checkOffset_eq_ok_iff (offset : Option Int) :
    checkOffset offset = .ok () ↔ -86400 < offset.getD 0 ∧ offset.getD 0 < 86400 := by
  cases offset with
  | none => simp [checkOffset]
  | some seconds =>
      rw [checkOffset, Option.getD_some]
      split
      · next hdays => exact ⟨(nomatch ·), fun h => by omega⟩
      · split
        · next hday => exact ⟨(nomatch ·), fun h => by omega⟩
        · next hday => exact ⟨fun _ => by omega, fun _ => rfl⟩

/-- A part of a date is checked against its bounds, whichever part it is.
Only the message differs from part to part. -/
theorem checkBetween_eq_ok_iff (low high n : Int) (fault : DateTimeFault) :
    checkBetween low high n fault = .ok () ↔ low ≤ n ∧ n ≤ high := by
  rw [checkBetween]
  split
  · next h => exact ⟨fun _ => h, fun _ => rfl⟩
  · next h => exact ⟨(nomatch ·), fun hin => absurd hin h⟩

/-- Numbers in range have room in a word, so nothing overflows before the
ranges are checked. -/
theorem IsValid.overflow?_eq_none {d : DateTime} (h : d.IsValid) : d.overflow? = none := by
  have hday := monthLength_le d.year d.month
  rw [overflow?, List.find?_eq_none]
  intro n hn
  simp only [List.mem_cons, List.not_mem_nil, or_false] at hn
  have := h.year; have := h.month; have := h.day; have := h.hour; have := h.minute
  have := h.second; have := h.microsecond
  have hfits : DateTimeFault.fitsWord n = true := by
    simp only [DateTimeFault.fitsWord, DateTimeFault.wordLimit, Bool.and_eq_true,
      decide_eq_true_eq]
    rcases hn with rfl | rfl | rfl | rfl | rfl | rfl | rfl <;> omega
  simp [hfits]

/-- Nothing but ranges is looked at: a date is accepted exactly if its year,
its month, its day in that month, its time and its offset are in range. The
checks come one after the other, and the first that fails decides on the
error. -/
theorem check_eq_ok_iff (d : DateTime) : d.check = .ok () ↔ d.IsValid := by
  have hbind : ∀ (x y : Except DateTimeFault Unit),
      (x >>= fun _ => y) = .ok () ↔ x = .ok () ∧ y = .ok () := by
    intro x y
    cases x with
    | error fault => exact ⟨(nomatch ·), fun h => nomatch h.1⟩
    | ok u => exact ⟨fun h => ⟨rfl, h⟩, fun h => h.2⟩
  -- The offset comes first, then the size of the numbers, then one range after the other.
  constructor
  · intro h
    rw [check, hbind] at h
    obtain ⟨hoffset, h⟩ := h
    cases hover : d.overflow? with
    | some n =>
        rw [hover] at h
        exact nomatch h
    | none =>
        rw [hover] at h
        simp only [hbind, checkBetween_eq_ok_iff] at h
        obtain ⟨hyear, hmonth, hday, hhour, hminute, hsecond, hmicrosecond⟩ := h
        exact ⟨(checkOffset_eq_ok_iff d.offset).mp hoffset, hyear, hmonth, hday, hhour, hminute,
          hsecond, hmicrosecond⟩
  · intro h
    rw [check, hbind, h.overflow?_eq_none]
    simp only [hbind, checkBetween_eq_ok_iff]
    exact ⟨(checkOffset_eq_ok_iff d.offset).mpr h.offset, h.year, h.month, h.day, h.hour, h.minute,
      h.second, h.microsecond⟩

/-- What is meant by a date and a time that there is. The checks fail for
all others, each with a message of its own. -/
theorem moment_eq_ok_iff (d : DateTime) (m : Moment) :
    d.moment = .ok m ↔ d.IsValid ∧ m = ⟨d.seconds, d.microsecond.toNat⟩ := by
  rw [moment, ← check_eq_ok_iff]
  cases hcheck : d.check with
  | error fault => exact ⟨(nomatch ·), fun h => nomatch h.1⟩
  | ok u => exact ⟨fun h => ⟨rfl, (Except.ok.inj h).symm⟩, fun h => congrArg Except.ok h.2.symm⟩

/-- The date of a date and a time is one of the calendar. Its parts were
checked as integers, and the calendar counts with natural numbers. -/
theorem IsValid.isDate {d : DateTime} (h : d.IsValid) :
    Calendar.IsDate d.year.toNat d.month.toNat d.day.toNat := by
  have hyear := h.year
  have hmonth := h.month
  have hday := h.day
  rw [monthLength] at hday
  exact ⟨by omega, by omega, by omega, by omega, by omega⟩

end DateTime

/-! ### Moments with a date -/

namespace Moment

/-- The date and the time of day of a moment in universal time. -/
def dateTime (seconds microsecond : Nat) : DateTime :=
  let (year, month, day) := Calendar.dateOf (seconds / 86400)
  let clock := seconds % 86400
  { year := year, month := month, day := day, hour := (clock / 3600 : Nat)
    minute := (clock / 60 % 60 : Nat), second := (clock % 60 : Nat), microsecond := microsecond
    offset := none }

/-- A moment is in range exactly if its days are ones of the calendar. -/
theorem isInRange_iff (m : Moment) :
    m.isInRange = true ↔ 0 ≤ m.seconds ∧ m.seconds < (Calendar.endDay : Int) * 86400 := by
  rw [isInRange, Bool.and_eq_true, decide_eq_true_iff, decide_eq_true_iff]

/-- A moment is read back from the date and the time found for it, and
these are what its text shows. -/
theorem dateTime_spec {seconds microsecond : Nat} (hseconds : seconds < Calendar.endDay * 86400)
    (hmicrosecond : microsecond ≤ 999999) :
    (dateTime seconds microsecond).offset = none ∧
      (dateTime seconds microsecond).moment = .ok ⟨seconds, microsecond⟩ ∧
      (dateTime seconds microsecond).Spells (textOf seconds (microsecond / 1000)) := by
  obtain ⟨year, month, day, hdate, hvalid, hnumber⟩ := Calendar.dateOf_spec (seconds / 86400)
  have hyear : year ≤ 9999 := Calendar.year_le_of_dayNumber_lt (by rw [hnumber]; omega)
  have hpos := hvalid.year_pos
  have hmonth := hvalid.month_pos
  have hmonth' := hvalid.month_le
  have hday := hvalid.day_pos
  have hday' := hvalid.day_le
  have hlength : (day : Int) ≤ DateTime.monthLength year month := Int.ofNat_le.mpr hvalid.day_le
  have hlong : (day : Int) ≤ 31 := hlength.trans (DateTime.monthLength_le year month)
  have hfound : dateTime seconds microsecond =
      ⟨year, month, day, (seconds % 86400 / 3600 : Nat), (seconds % 86400 / 60 % 60 : Nat),
        (seconds % 86400 % 60 : Nat), microsecond, none⟩ := by
    rw [dateTime, hdate]
  rw [hfound]
  -- It is valid, it means the moment, and its parts are written with all their places.
  refine ⟨rfl, (DateTime.moment_eq_ok_iff _ _).mpr ⟨?_, ?_⟩, ?_⟩
  · exact {
      offset := show (-86400 : Int) < 0 ∧ (0 : Int) < 86400 by omega
      year := show (1 : Int) ≤ year ∧ (year : Int) ≤ 9999 by omega
      month := show (1 : Int) ≤ month ∧ (month : Int) ≤ 12 by omega
      day := show (1 : Int) ≤ day ∧ (day : Int) ≤ DateTime.monthLength year month from
        ⟨by omega, hlength⟩
      hour := show (0 : Int) ≤ (seconds % 86400 / 3600 : Nat) ∧
        ((seconds % 86400 / 3600 : Nat) : Int) ≤ 23 by omega
      minute := show (0 : Int) ≤ (seconds % 86400 / 60 % 60 : Nat) ∧
        ((seconds % 86400 / 60 % 60 : Nat) : Int) ≤ 59 by omega
      second := show (0 : Int) ≤ (seconds % 86400 % 60 : Nat) ∧
        ((seconds % 86400 % 60 : Nat) : Int) ≤ 59 by omega
      microsecond := show (0 : Int) ≤ microsecond ∧ (microsecond : Int) ≤ 999999 by omega }
  · rw [Moment.mk.injEq, DateTime.seconds]
    simp only [Int.toNat_natCast, hnumber, Option.getD_none, and_true]
    omega
  · refine ⟨_, _, _, _, _, _, _, by rw [textOf, hdate], ?_⟩
    simp only [Int.toNat_natCast]
    exact ⟨Text.numeral_padZeros (by decide) (by omega),
      Text.numeral_padZeros (by decide) (by omega), Text.numeral_padZeros (by decide) (by omega),
      Text.numeral_padZeros (by decide) (by omega), Text.numeral_padZeros (by decide) (by omega),
      Text.numeral_padZeros (by decide) (by omega), Text.numeral_padZeros (by decide) (by omega)⟩

/-- The text of a moment in range shows a date and a time that mean
the moment. -/
theorem exists_text_of_isInRange {m : Moment} (hrange : m.isInRange = true)
    (hmicrosecond : m.microsecond ≤ 999999) :
    ∃ t, ∃ d : DateTime, m.toText? = some t ∧ d.offset = none ∧ d.moment = .ok m ∧ d.Spells t := by
  obtain ⟨hpos, hend⟩ := (isInRange_iff m).mp hrange
  obtain ⟨seconds, microsecond⟩ := m
  obtain ⟨seconds, rfl⟩ := Int.eq_ofNat_of_zero_le hpos
  have hbound : (seconds : Int) < (Calendar.endDay : Int) * 86400 := hend
  have hsmall : seconds < Calendar.endDay * 86400 := by omega
  obtain ⟨hoffset, hmoment, hspells⟩ := dateTime_spec hsmall hmicrosecond
  refine ⟨_, _, ?_, hoffset, hmoment, hspells⟩
  rw [toText?, if_pos hrange]
  rfl

/-- The moments with a date are those in range: between the first day of the
calendar and the day behind its last one. All others have no timestamp. -/
theorem isDated_iff {m : Moment} (hmicrosecond : m.microsecond ≤ 999999) :
    m.IsDated ↔ m.isInRange = true := by
  constructor
  · rintro ⟨d, hoffset, hmoment⟩
    obtain ⟨hvalid, rfl⟩ := (DateTime.moment_eq_ok_iff d m).mp hmoment
    have hlt := hvalid.isDate.dayNumber_lt
    have hyear := hvalid.year
    have hhour := hvalid.hour
    have hminute := hvalid.minute
    have hsecond := hvalid.second
    have hmono : Calendar.daysBeforeYear (d.year.toNat + 1) ≤ Calendar.endDay :=
      Calendar.daysBeforeYear_mono (by omega)
    rw [isInRange_iff]
    simp only [DateTime.seconds, hoffset, Option.getD_none]
    constructor <;> omega
  · intro hrange
    obtain ⟨-, d, -, hoffset, hmoment, -⟩ := exists_text_of_isInRange hrange hmicrosecond
    exact ⟨d, hoffset, hmoment⟩

end Moment

/-! ### The order of texts -/

namespace CodePoint

variable {c c' : CodePoint} (hc : c.isDigit = true) (hc' : c'.isDigit = true)

include hc hc'

/-- Digits are told apart by what they are worth. -/
theorem digitValue_inj : c.digitValue = c'.digitValue ↔ c = c' := by
  simp only [isDigit, Bool.and_eq_true, decide_eq_true_eq] at hc hc'
  refine ⟨fun h => ?_, congrArg _⟩
  obtain ⟨m, hm⟩ := c
  obtain ⟨n, hn⟩ := c'
  simp only [digitValue] at h hc hc'
  obtain rfl : m = n := by omega
  rfl

/-- Digits stand in the order of what they are worth. -/
theorem before_iff_digitValue_lt : Before c c' ↔ c.digitValue < c'.digitValue := by
  simp only [isDigit, Bool.and_eq_true, decide_eq_true_eq] at hc hc'
  simp only [Before, digitValue]
  omega

end CodePoint

namespace Text

/-- Texts with the same beginning stand as what is behind it. So the first
part in which two timestamps differ decides. -/
theorem before_append_left (s x x' : Text) : Before (s ++ x) (s ++ x') ↔ Before x x' := by
  induction s with
  | nil => rfl
  | cons c s ih =>
      rw [List.cons_append, List.cons_append, Before, List.cons_lex_cons_iff, ← Before, ih]
      exact ⟨fun h => h.elim (fun hlt => absurd hlt (Nat.lt_irrefl _)) And.right,
        fun h => .inr ⟨rfl, h⟩⟩

/-- As many digits as others stand by what they are worth, and by what is
behind them if they are worth the same. Induction on the digits; the first
that differ decide, for one more of their unit outweighs all digits
behind. -/
theorem before_digits_append {t t' : Text} (hlength : t.length = t'.length)
    (ht : ∀ c ∈ t, c.isDigit = true) (ht' : ∀ c ∈ t', c.isDigit = true) (x x' : Text) :
    Before (t ++ x) (t' ++ x') ↔
      digitsValue t < digitsValue t' ∨ digitsValue t = digitsValue t' ∧ Before x x' := by
  induction t generalizing t' with
  | nil =>
      rw [List.length_eq_zero_iff.mp hlength.symm]
      simp
  | cons c t ih =>
      cases t' with
      | nil => exact absurd hlength (Nat.succ_ne_zero _)
      | cons c' t' =>
          have hrest : t.length = t'.length := Nat.succ.inj hlength
          have hsmall := digitsValue_lt fun d hd => ht d (List.mem_cons_of_mem c hd)
          have hsmall' := digitsValue_lt fun d hd => ht' d (List.mem_cons_of_mem c' hd)
          have hc := ht c List.mem_cons_self
          have hc' := ht' c' List.mem_cons_self
          have htail := ih hrest (fun d hd => ht d (List.mem_cons_of_mem c hd))
            (fun d hd => ht' d (List.mem_cons_of_mem c' hd))
          rw [List.cons_append, List.cons_append, Before, List.cons_lex_cons_iff, ← Before, htail,
            ← CodePoint.digitValue_inj hc hc', CodePoint.before_iff_digitValue_lt hc hc',
            digitsValue_cons, digitsValue_cons]
          rw [hrest] at hsmall ⊢
          -- The first digits that differ decide: one more of the unit outweighs the rest.
          rcases Nat.lt_trichotomy c.digitValue c'.digitValue with hlt | heq | hgt
          · have hunit := Nat.mul_le_mul_right (10 ^ t'.length) (Nat.succ_le_of_lt hlt)
            rw [Nat.succ_mul] at hunit
            exact ⟨fun _ => .inl (by omega), fun _ => .inl hlt⟩
          · simp only [heq, Nat.lt_irrefl, false_or, true_and, Nat.add_lt_add_iff_left,
              Nat.add_left_cancel_iff]
          · have hunit := Nat.mul_le_mul_right (10 ^ t'.length) (Nat.succ_le_of_lt hgt)
            rw [Nat.succ_mul] at hunit
            exact ⟨fun h => by omega, fun h => by omega⟩

/-- Numerals of one width stand by their numbers. -/
theorem Numeral.before_append_iff {width n n' : Nat} {t t' : Text} (h : Numeral width n t)
    (h' : Numeral width n' t') (x x' : Text) :
    Before (t ++ x) (t' ++ x') ↔ n < n' ∨ n = n' ∧ Before x x' := by
  rw [before_digits_append (h.length.trans h'.length.symm) h.digits h'.digits, h.value, h'.value]

end Text

/-! ### The order of timestamps -/

namespace DateTime

/-- What is spelled out stands by the numbers, the largest unit
first. -/
theorem Spells.before_iff {d d' : DateTime} {t t' : Text} (h : d.Spells t) (h' : d'.Spells t') :
    Text.Before t t' ↔
      d.year.toNat < d'.year.toNat ∨ d.year.toNat = d'.year.toNat ∧
        (d.month.toNat < d'.month.toNat ∨ d.month.toNat = d'.month.toNat ∧
          (d.day.toNat < d'.day.toNat ∨ d.day.toNat = d'.day.toNat ∧
            (d.hour.toNat < d'.hour.toNat ∨ d.hour.toNat = d'.hour.toNat ∧
              (d.minute.toNat < d'.minute.toNat ∨ d.minute.toNat = d'.minute.toNat ∧
                (d.second.toNat < d'.second.toNat ∨ d.second.toNat = d'.second.toNat ∧
                  d.microsecond.toNat / 1000 < d'.microsecond.toNat / 1000))))) := by
  obtain ⟨year, month, day, hour, minute, second, millisecond, rfl, hyear, hmonth, hday, hhour,
    hminute, hsecond, hmillisecond⟩ := h
  obtain ⟨year', month', day', hour', minute', second', millisecond', rfl, hyear', hmonth', hday',
    hhour', hminute', hsecond', hmillisecond'⟩ := h'
  have hend : ¬ Text.Before "Z" "Z" := by
    rw [← Text.lt_iff]
    decide
  simp only [List.append_assoc, hyear.before_append_iff hyear', hmonth.before_append_iff hmonth',
    hday.before_append_iff hday', hhour.before_append_iff hhour',
    hminute.before_append_iff hminute', hsecond.before_append_iff hsecond',
    hmillisecond.before_append_iff hmillisecond', Text.before_append_left, hend, and_false,
    or_false]

/-- The hands of a clock stand by the milliseconds of the day: hours,
minutes, seconds and milliseconds compare as one number does. -/
theorem clock_before_iff {hour minute second milli hour' minute' second' milli' : Nat}
    (h : minute < 60 ∧ second < 60 ∧ milli < 1000)
    (h' : minute' < 60 ∧ second' < 60 ∧ milli' < 1000) :
    (hour < hour' ∨ hour = hour' ∧ (minute < minute' ∨ minute = minute' ∧
        (second < second' ∨ second = second' ∧ milli < milli'))) ↔
      ((hour * 60 + minute) * 60 + second) * 1000 + milli <
        ((hour' * 60 + minute') * 60 + second') * 1000 + milli' := by
  omega

/-- The milliseconds of the day for the time of a date and a time. -/
def clock (d : DateTime) : Nat :=
  ((d.hour.toNat * 60 + d.minute.toNat) * 60 + d.second.toNat) * 1000 + d.microsecond.toNat / 1000

/-- The time of a day is less than a day, in milliseconds. Leap seconds do
not come up, since seconds end at 59. -/
theorem IsValid.clock_lt {d : DateTime} (h : d.IsValid) : d.clock < 86400000 := by
  have hhour := h.hour
  have hminute := h.minute
  have hsecond := h.second
  have hmicrosecond := h.microsecond
  rw [clock]
  omega

/-- Days and times of day stand by the milliseconds in all: the days decide
unless they are the same. -/
theorem day_before_iff {number clock number' clock' : Nat} (h : clock < 86400000)
    (h' : clock' < 86400000) :
    (number < number' ∨ number = number' ∧ clock < clock') ↔
      (number : Int) * 86400000 + clock < (number' : Int) * 86400000 + clock' := by
  omega

/-- The milliseconds to a moment of universal time: the days before,
and the time of its day. -/
theorem IsValid.milliseconds_eq {d : DateTime} (h : d.IsValid) (hoffset : d.offset = none) :
    (⟨d.seconds, d.microsecond.toNat⟩ : Moment).milliseconds =
      (Calendar.dayNumber d.year.toNat d.month.toNat d.day.toNat : Int) * 86400000 + d.clock := by
  have hhour := h.hour
  have hminute := h.minute
  have hsecond := h.second
  simp only [Moment.milliseconds, seconds, hoffset, Option.getD_none, clock]
  generalize Calendar.dayNumber d.year.toNat d.month.toNat d.day.toNat = number
  omega

/-- Timestamps of dates and times of universal time stand as their
moments do, by milliseconds. -/
theorem Spells.before_iff_milliseconds {d d' : DateTime} {m m' : Moment} {t t' : Text}
    (h : d.Spells t) (h' : d'.Spells t') (hoffset : d.offset = none) (hoffset' : d'.offset = none)
    (hmoment : d.moment = .ok m) (hmoment' : d'.moment = .ok m') :
    Text.Before t t' ↔ m.milliseconds < m'.milliseconds := by
  obtain ⟨hvalid, rfl⟩ := (moment_eq_ok_iff d m).mp hmoment
  obtain ⟨hvalid', rfl⟩ := (moment_eq_ok_iff d' m').mp hmoment'
  have hsecond : d.minute.toNat < 60 ∧ d.second.toNat < 60 ∧ d.microsecond.toNat / 1000 < 1000 := by
    have := hvalid.minute; have := hvalid.second; have := hvalid.microsecond
    omega
  have hsecond' : d'.minute.toNat < 60 ∧ d'.second.toNat < 60 ∧
      d'.microsecond.toNat / 1000 < 1000 := by
    have := hvalid'.minute; have := hvalid'.second; have := hvalid'.microsecond
    omega
  rw [h.before_iff h', clock_before_iff hsecond hsecond', hvalid.milliseconds_eq hoffset,
    hvalid'.milliseconds_eq hoffset', ← clock, ← clock]
  have hbefore := hvalid.isDate.dayNumber_lt_iff hvalid'.isDate
  have hsame := hvalid.isDate.dayNumber_eq_iff hvalid'.isDate
  rw [← day_before_iff hvalid.clock_lt hvalid'.clock_lt, hbefore, hsame]
  simp only [and_or_left, or_assoc, and_assoc]

/-- A date and a time that there is has the text of its moment, if
that has one. -/
theorem timestamp_eq {d : DateTime} {m : Moment} (h : d.moment = .ok m) :
    d.timestamp = match m.toText? with
      | some t => .ok t
      | none => .error .shiftedAway := by
  rw [timestamp, h]
  rfl

/-- Timestamps are there for the moments that universal time has a
date for, and they are of the form `YYYY-MM-DDTHH:MM:SS.mmmZ` for that
date. They are equal if the moments are the same millisecond, and stand
before each other as the milliseconds do. A moment that leaves the
years with a date is refused. -/
theorem timestamp_spec {a b : DateTime} {m n : Moment} (ha : a.moment = .ok m)
    (hb : b.moment = .ok n) :
    (m.IsDated → n.IsDated →
      ∃ s t, a.timestamp = .ok s ∧ b.timestamp = .ok t ∧
        (s.length = 24 ∧ ∃ d : DateTime, d.offset = none ∧ d.moment = .ok m ∧ d.Spells s) ∧
        (s = t ↔ m.milliseconds = n.milliseconds) ∧
        (Text.Before s t ↔ m.milliseconds < n.milliseconds)) ∧
      (¬ m.IsDated →
        ∃ fault, a.timestamp = .error fault ∧ fault.typeName = "OverflowError") := by
  have hsmall {d : DateTime} {m : Moment} (h : d.moment = .ok m) : m.microsecond ≤ 999999 := by
    obtain ⟨hvalid, rfl⟩ := (moment_eq_ok_iff d m).mp h
    have hmicrosecond := hvalid.microsecond
    show d.microsecond.toNat ≤ 999999
    omega
  constructor
  · intro hm hn
    obtain ⟨s, d, hs, hoffset, hmoment, hspells⟩ :=
      Moment.exists_text_of_isInRange ((Moment.isDated_iff (hsmall ha)).mp hm) (hsmall ha)
    obtain ⟨t, d', ht, hoffset', hmoment', hspells'⟩ :=
      Moment.exists_text_of_isInRange ((Moment.isDated_iff (hsmall hb)).mp hn) (hsmall hb)
    have hbefore := hspells.before_iff_milliseconds hspells' hoffset hoffset' hmoment hmoment'
    have hafter := hspells'.before_iff_milliseconds hspells hoffset' hoffset hmoment' hmoment
    have hirrefl : ¬ Text.Before s s := by
      rw [hspells.before_iff hspells]
      omega
    refine ⟨s, t, by rw [timestamp_eq ha, hs], by rw [timestamp_eq hb, ht],
      ⟨hspells.length, d, hoffset, hmoment, hspells⟩, ⟨fun h => ?_, fun h => ?_⟩, hbefore⟩
    · -- Neither of two equal texts is before the other.
      subst h
      have hnot := mt hbefore.mpr hirrefl
      have hnot' := mt hafter.mpr hirrefl
      omega
    · have hnot : ¬ Text.Before s t := fun hst => by have := hbefore.mp hst; omega
      have hnot' : ¬ Text.Before t s := fun hts => by have := hafter.mp hts; omega
      exact Std.Trichotomous.trichotomous s t hnot hnot'
  · intro hm
    refine ⟨.shiftedAway, ?_, rfl⟩
    rw [timestamp_eq ha, Moment.toText?, if_neg (mt (Moment.isDated_iff (hsmall ha)).mpr hm)]

/-- A moment on a leap day to the west, which is in March in universal
time, next to one half a millisecond before it; and the first hour of
year 1 to the east, which no year of universal time has. -/
theorem timestamp_spec_leapDay :
    (∃ s t, (⟨2024, 2, 29, 23, 30, 0, 500, some (-3600)⟩ : DateTime).timestamp = .ok s ∧
      (⟨2024, 3, 1, 0, 30, 0, 0, none⟩ : DateTime).timestamp = .ok t ∧ s.length = 24 ∧ s = t) ∧
      ∃ fault, (⟨1, 1, 1, 0, 30, 0, 0, some 3600⟩ : DateTime).timestamp = .error fault ∧
        fault.typeName = "OverflowError" := by
  have ha : (⟨2024, 2, 29, 23, 30, 0, 500, some (-3600)⟩ : DateTime).moment =
      .ok ⟨63844849800, 500⟩ := by rfl
  have hb : (⟨2024, 3, 1, 0, 30, 0, 0, none⟩ : DateTime).moment = .ok ⟨63844849800, 0⟩ := by rfl
  have hc : (⟨1, 1, 1, 0, 30, 0, 0, some 3600⟩ : DateTime).moment = .ok ⟨-1800, 0⟩ := by rfl
  have hdated : (⟨63844849800, 500⟩ : Moment).IsDated :=
    (Moment.isDated_iff (by decide)).mpr (by decide)
  obtain ⟨s, t, hs, ht, hform, heq, -⟩ := (timestamp_spec ha hb).1 hdated ⟨_, rfl, hb⟩
  have hundated : ¬ (⟨-1800, 0⟩ : Moment).IsDated :=
    mt (Moment.isDated_iff (by decide)).mp (by decide)
  exact ⟨⟨s, t, hs, ht, hform.1, heq.mpr (by decide)⟩, (timestamp_spec hc hc).2 hundated⟩

end DateTime

end DocScribe
