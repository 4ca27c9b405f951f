import Mathlib
import Remittance.Proofs.Calendar.Written
import Remittance.Rule

namespace Remittance

open Remittance.Text

def lengthOfMonth (month : Int) : Nat :=
  (monthLength? (month / 12) (month % 12 + 1)).getD 0

def daysOfMonths (first : Int) : Nat → Nat
  | 0 => 0
  | count + 1 => lengthOfMonth first + daysOfMonths (first + 1) count

def epochMonth : Int := 12 * 1970

/-- The days from the first of January 1970 to the first of a month; they are negative before. -/
def firstOfMonth (month : Int) : Int :=
  if epochMonth ≤ month then daysOfMonths epochMonth (month - epochMonth).toNat
  else -daysOfMonths month (epochMonth - month).toNat

private theorem lengthOfMonth_eq {year : Int} {i length : Nat}
    (h : (monthLengths year)[i]? = some length) :
    lengthOfMonth (12 * year + i) = length := by
  obtain ⟨hi, _⟩ := List.getElem?_eq_some_iff.mp h
  rw [length_monthLengths] at hi
  have hyear : (12 * year + i) / 12 = year := by omega
  have hmonth : (12 * year + i) % 12 + 1 - 1 = i := by omega
  have hpos : (1 : Int) ≤ (12 * year + i) % 12 + 1 := by omega
  have hnonneg : ¬ (i : Int) < 0 := by omega
  simp only [lengthOfMonth, monthLength?, hyear, if_pos hpos, hmonth, if_neg hnonneg,
    Int.toNat_natCast, h, Option.getD_some]

private theorem lengthOfMonth_pos (month : Int) : 0 < lengthOfMonth month := by
  obtain ⟨i, hi⟩ := Int.eq_ofNat_of_zero_le (show 0 ≤ month % 12 by omega)
  have hlt : i < (monthLengths (month / 12)).length := by
    rw [length_monthLengths]
    omega
  have hmonth : month = 12 * (month / 12) + i := by omega
  have hlength := lengthOfMonth_eq (List.getElem?_eq_getElem hlt)
  rw [← hmonth] at hlength
  rw [hlength]
  have hall : ∀ length ∈ monthLengths (month / 12), 0 < length := by
    simp only [monthLengths, List.forall_mem_cons]
    split <;> simp
  exact hall _ (List.getElem_mem hlt)

private theorem daysOfMonths_succ (first : Int) (count : Nat) :
    daysOfMonths first (count + 1) = daysOfMonths first count + lengthOfMonth (first + count) := by
  induction count generalizing first with
  | zero => simp [daysOfMonths]
  | succ count ih =>
      rw [daysOfMonths, ih, daysOfMonths, Int.add_assoc, Int.add_comm 1, Nat.add_assoc]
      rfl

private theorem firstOfMonth_succ (month : Int) :
    firstOfMonth (month + 1) = firstOfMonth month + lengthOfMonth month := by
  unfold firstOfMonth
  by_cases h : epochMonth ≤ month
  · have hcount : (month + 1 - epochMonth).toNat = (month - epochMonth).toNat + 1 := by omega
    have hlast : epochMonth + ((month - epochMonth).toNat : Int) = month := by omega
    rw [if_pos h, if_pos (by omega), hcount, daysOfMonths_succ, hlast, Int.natCast_add]
  · have hcount : (epochMonth - month).toNat = (epochMonth - (month + 1)).toNat + 1 := by omega
    rw [if_neg h, hcount, daysOfMonths]
    split
    · have hnone : (month + 1 - epochMonth).toNat = 0 ∧ (epochMonth - (month + 1)).toNat = 0 := by
        omega
      rw [hnone.1, hnone.2, daysOfMonths, daysOfMonths]
      omega
    · omega

theorem firstOfMonth_strictMono : StrictMono firstOfMonth := by
  apply strictMono_int_of_lt_succ
  intro month
  have hpos := lengthOfMonth_pos month
  rw [firstOfMonth_succ]
  omega

private theorem firstOfMonth_in_year (year : Int) {i : Nat} (hi : i ≤ 12) :
    firstOfMonth (12 * year + i) =
      firstOfMonth (12 * year) + ((monthLengths year).take i).sum := by
  induction i with
  | zero => simp
  | succ i ih =>
      have hlt : i < (monthLengths year).length := by
        rw [length_monthLengths]
        omega
      have hlength := lengthOfMonth_eq (List.getElem?_eq_getElem hlt)
      rw [Int.natCast_add, ← Int.add_assoc, Int.natCast_one, firstOfMonth_succ, ih (by omega),
        hlength, List.take_succ_eq_append_getElem hlt, List.sum_append, List.sum_singleton]
      omega

private theorem firstOfMonth_next_year (year : Int) :
    firstOfMonth (12 * (year + 1)) = firstOfMonth (12 * year) + (monthLengths year).sum := by
  have hyear := firstOfMonth_in_year year (Nat.le_refl 12)
  rwa [List.take_of_length_le (Nat.le_refl 12), show 12 * year + (12 : Nat) = 12 * (year + 1) by
    omega] at hyear

private theorem isLeapYear_iff (year : Int) :
    isLeapYear year ↔ year % 400 = 0 ∨ (year % 100 ≠ 0 ∧ year % 4 = 0) := by
  simp [isLeapYear]

private theorem sum_monthLengths (year : Int) :
    (monthLengths year).sum = if isLeapYear year then 366 else 365 := by
  unfold monthLengths
  split <;> rfl

theorem sum_monthLengths_eq_quotients (year : Int) :
    ((monthLengths year).sum : Int) =
      365 + (year / 4 - (year - 1) / 4) - (year / 100 - (year - 1) / 100) +
        (year / 400 - (year - 1) / 400) := by
  have hleap := isLeapYear_iff year
  rw [sum_monthLengths]
  split
  · have hrule := hleap.mp ‹_›
    omega
  · have hrule := mt hleap.mpr ‹_›
    omega

private theorem firstOfMonth_year (year : Int) :
    firstOfMonth (12 * year) = 365 * (year - 1) + (year - 1) / 4 - (year - 1) / 100 +
      (year - 1) / 400 - Date.epoch := by
  induction year using Int.inductionOn' (b := 1970) with
  | zero => decide
  | succ year _ ih =>
      rw [firstOfMonth_next_year, sum_monthLengths_eq_quotients, ih]
      omega
  | pred year _ ih =>
      have hnext := firstOfMonth_next_year (year - 1)
      rw [Int.sub_add_cancel, sum_monthLengths_eq_quotients, ih] at hnext
      omega

namespace Date

def monthNumber (date : Date) : Int :=
  12 * date.year + (date.month - 1)

/-- The days from the first of January 1970 to a date; they are negative before. -/
def daysSinceEpoch (date : Date) : Int :=
  firstOfMonth date.monthNumber + (date.day - 1)

/-- The day is one of its month, and the month one of its year. -/
structure InMonth (date : Date) : Prop where
  month : 1 ≤ date.month ∧ date.month ≤ 12
  day_pos : 1 ≤ date.day
  day_le : date.day ≤ lengthOfMonth date.monthNumber

private theorem InCalendar.inMonth {date : Date} (h : date.InCalendar) : date.InMonth := by
  obtain ⟨hpos, hle⟩ := h.month
  obtain ⟨length, hlength, hday⟩ := h.day_le
  refine ⟨⟨hpos, hle⟩, h.day_pos, ?_⟩
  have hyear : date.monthNumber / 12 = date.year := by
    unfold monthNumber
    omega
  have hmonth : date.monthNumber % 12 + 1 = date.month := by
    unfold monthNumber
    omega
  rwa [lengthOfMonth, hyear, hmonth, Option.mem_def.mp hlength]

theorem IsAfter.daysSinceEpoch_lt {date other : Date} (h : date.IsAfter other)
    (hdate : date.InMonth) (hother : other.InMonth) :
    other.daysSinceEpoch < date.daysSinceEpoch := by
  have hmonths : other.monthNumber < date.monthNumber ∨
      other.monthNumber = date.monthNumber ∧ other.day < date.day := by
    have hmonth := hdate.month
    have hotherMonth := hother.month
    unfold IsAfter at h
    unfold monthNumber
    omega
  unfold daysSinceEpoch
  rcases hmonths with hlt | ⟨heq, hday⟩
  · have hnext := firstOfMonth_strictMono.monotone
      (show other.monthNumber + 1 ≤ date.monthNumber from hlt)
    have hlast := hother.day_le
    have hfirst := hdate.day_pos
    rw [firstOfMonth_succ] at hnext
    omega
  · rw [heq]
    omega

private theorem order_eq_lt_iff {date other : Date} :
    date.order other = .lt ↔ other.IsAfter date := by
  simp only [order, IsAfter, Ordering.then_eq_lt, Int.compare_eq_lt, Int.compare_eq_eq,
    Nat.compare_eq_lt, Nat.compare_eq_eq]

private theorem eq_of_order_eq_eq {date other : Date} (h : date.order other = .eq) :
    date = other := by
  simp only [order, Ordering.then_eq_eq, Int.compare_eq_eq, Nat.compare_eq_eq] at h
  obtain ⟨hyear, hmonth, hday⟩ := h
  cases date
  cases other
  simp_all

theorem order_eq_compare_daysSinceEpoch {date other : Date} (hdate : date.InMonth)
    (hother : other.InMonth) :
    date.order other = compare date.daysSinceEpoch other.daysSinceEpoch := by
  cases horder : date.order other with
  | lt =>
      have hlt := (order_eq_lt_iff.mp horder).daysSinceEpoch_lt hother hdate
      exact (Int.compare_eq_lt.mpr hlt).symm
  | eq =>
      obtain rfl := eq_of_order_eq_eq horder
      exact (Int.compare_eq_eq.mpr rfl).symm
  | gt =>
      have hgt := (order_eq_gt_iff.mp horder).daysSinceEpoch_lt hdate hother
      exact (Int.compare_eq_gt.mpr hgt).symm

private theorem ofDayOfYear_eq {lengths : List Nat} {day : Nat} (h : day < lengths.sum)
    (month : Nat) :
    ∃ i length, lengths[i]? = some length ∧ (lengths.take i).sum ≤ day ∧
      day < (lengths.take i).sum + length ∧
      ofDayOfYear month lengths day = (month + i, day - (lengths.take i).sum + 1) := by
  induction lengths generalizing month day with
  | nil => simp at h
  | cons length lengths ih =>
      by_cases hday : day < length
      · exact ⟨0, length, rfl, by simp, by simpa using hday, by simp [ofDayOfYear, hday]⟩
      · have hrest : day - length < lengths.sum := by
          rw [List.sum_cons] at h
          omega
        obtain ⟨i, found, hfound, hle, hlt, heq⟩ := ih hrest (month + 1)
        refine ⟨i + 1, found, hfound, ?_, ?_, ?_⟩
        · rw [List.take_succ_cons, List.sum_cons]
          omega
        · rw [List.take_succ_cons, List.sum_cons]
          omega
        · rw [ofDayOfYear, if_neg hday, heq, List.take_succ_cons, List.sum_cons, Nat.add_assoc,
            Nat.add_comm 1, Nat.sub_sub]

theorem spans_spec {inCycle : Nat} (h : inCycle < daysIn400Years) :
    let century := min (inCycle / daysIn100Years) 3
    let inCentury := inCycle - century * daysIn100Years
    let leapSpan := inCentury / daysIn4Years
    let inSpan := inCentury - leapSpan * daysIn4Years
    let yearOfSpan := min (inSpan / 365) 3
    let day := inSpan - yearOfSpan * 365
    inCycle = 36524 * century + 1461 * leapSpan + 365 * yearOfSpan + day ∧
      century ≤ 3 ∧ leapSpan ≤ 24 ∧ yearOfSpan ≤ 3 ∧ day ≤ 365 ∧
      (day = 365 → yearOfSpan = 3 ∧ (leapSpan = 24 → century = 3)) := by
  intro century inCentury leapSpan inSpan yearOfSpan day
  have hcentury : century ≤ 3 ∧ century * 36524 + inCentury = inCycle ∧ inCentury ≤ 36524 ∧
      (inCentury = 36524 → century = 3) := by
    simp only [century, inCentury, daysIn100Years, daysIn400Years] at h ⊢
    omega
  have hleapSpan : leapSpan ≤ 24 ∧ leapSpan * 1461 + inSpan = inCentury ∧ inSpan ≤ 1460 := by
    simp only [leapSpan, inSpan, daysIn4Years]
    omega
  have hyear : yearOfSpan ≤ 3 ∧ yearOfSpan * 365 + day = inSpan ∧ day ≤ 365 ∧
      (day = 365 → yearOfSpan = 3) := by
    simp only [yearOfSpan, day]
    omega
  clear_value century inCentury leapSpan inSpan yearOfSpan day
  omega

theorem exists_ofDayNumber_eq (n : Int) : ∃ (year : Int) (day : Nat),
    day < (monthLengths year).sum ∧ firstOfMonth (12 * year) + day = n - epoch ∧
      ofDayNumber n =
        ⟨year, (ofDayOfYear 1 (monthLengths year) day).1,
          (ofDayOfYear 1 (monthLengths year) day).2⟩ := by
  have hcycle : (n % daysIn400Years).toNat < daysIn400Years := by
    unfold daysIn400Years
    omega
  have hn : n = 146097 * (n / daysIn400Years) + (n % daysIn400Years).toNat := by
    unfold daysIn400Years
    omega
  obtain ⟨hspans, hcentury, hleapSpan, hyear, hday, hlast⟩ := spans_spec hcycle
  refine ⟨_, _, ?_, ?_, rfl⟩
  · rw [sum_monthLengths]
    split
    · omega
    · rename_i hordinary
      rw [isLeapYear_iff] at hordinary
      omega
  · rw [firstOfMonth_year]
    unfold epoch
    omega

theorem ofDayNumber_counts (n : Int) :
    (ofDayNumber n).InMonth ∧ (ofDayNumber n).daysSinceEpoch = n - epoch := by
  obtain ⟨year, day, hday, hcount, hdate⟩ := exists_ofDayNumber_eq n
  obtain ⟨i, length, hlength, hle, hlt, heq⟩ := ofDayOfYear_eq hday 1
  have hi : i < 12 := (List.getElem?_eq_some_iff.mp hlength).1
  have hmonth : (ofDayNumber n).monthNumber = 12 * year + i := by
    rw [hdate, heq]
    unfold monthNumber
    dsimp only
    omega
  have hfirst := firstOfMonth_in_year year (show i ≤ 12 by omega)
  constructor
  · refine ⟨?_, ?_, ?_⟩
    · rw [hdate, heq]
      dsimp only
      omega
    · rw [hdate, heq]
      dsimp only
      omega
    · rw [hmonth, lengthOfMonth_eq hlength, hdate, heq]
      dsimp only
      omega
  · rw [daysSinceEpoch, hmonth, hfirst, hdate, heq]
    dsimp only
    omega

/-- The day in which a clock stands is the whole days that it counts from the epoch. -/
theorem ofSeconds_counts (seconds : Int) :
    (ofSeconds seconds).InMonth ∧ (ofSeconds seconds).daysSinceEpoch = seconds / 86400 := by
  obtain ⟨hmonth, hdays⟩ := ofDayNumber_counts (seconds / 86400 + epoch)
  rw [Int.add_sub_cancel] at hdays
  exact ⟨hmonth, hdays⟩

private theorem Writes.compareText_ofSeconds {text : Text} {day : Date} (h : Writes text day)
    (seconds : Int) :
    compareText text (ofSeconds seconds) = .ok (compare day.daysSinceEpoch (seconds / 86400)) := by
  obtain ⟨hmonth, hdays⟩ := ofSeconds_counts seconds
  rw [h.compareText_eq, order_eq_compare_daysSinceEpoch h.1.inMonth hmonth, hdays]

end Date

/-- An instruction with a written date is pending while the clock has not reached the first second
of that day, and never after. -/
theorem Rule.scheduled_until_midnight {text : Text} (h : Date.isWritten text) :
    ∃ day, Date.Writes text day ∧ ∀ seconds : Int,
      Date.compareText text (.ofSeconds seconds) =
        .ok (compare day.daysSinceEpoch (seconds / 86400)) ∧
      ∀ c : Case, c.instruction.executeBy = some text → c.today = .ofSeconds seconds →
        schedule.check c =
          .ok (if seconds < 86400 * day.daysSinceEpoch then some .scheduled else none) := by
  obtain ⟨day, hwrites⟩ := Date.isWritten_iff_exists_writes.mp h
  refine ⟨day, hwrites, fun seconds => ⟨hwrites.compareText_ofSeconds seconds, ?_⟩⟩
  intro c hexecuteBy htoday
  have hlater : compare day.daysSinceEpoch (seconds / 86400) = .gt ↔
      seconds < 86400 * day.daysSinceEpoch := by
    rw [Int.compare_eq_gt]
    omega
  simp only [check, checkSchedule, hexecuteBy, htoday, hwrites.compareText_ofSeconds, Except.map,
    hlater]

/-- The day after the last of February in a century year that has no leap day, 25508 days before
the epoch, and the second before it. -/
theorem Rule.scheduled_until_midnight_century :
    Date.isWritten "1900-03-01" ∧ ∃ day, Date.Writes "1900-03-01" day ∧
      day.daysSinceEpoch = -25508 ∧
      Date.compareText "1900-03-01" (.ofSeconds (86400 * -25508 - 1)) = .ok .gt ∧
      ∀ c : Case, c.instruction.executeBy = some "1900-03-01" →
        c.today = .ofSeconds (86400 * -25508) → schedule.check c = .ok none := by
  have hwritten : Date.isWritten "1900-03-01" := by decide
  obtain ⟨day, hwrites, hclock⟩ := scheduled_until_midnight hwritten
  have hday : day = ⟨1900, 3, 1⟩ := hwrites.unique (Date.ofWritten?_eq_some_iff.mp (by decide))
  have hcount : day.daysSinceEpoch = -25508 := by
    rw [hday]
    decide +kernel
  refine ⟨hwritten, day, hwrites, hcount, ?_, ?_⟩
  · rw [(hclock _).1, hcount]
    rfl
  · intro c hexecuteBy htoday
    rw [(hclock _).2 c hexecuteBy htoday, hcount]
    rfl

end Remittance
