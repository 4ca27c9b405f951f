import Mathlib.Tactic.IntervalCases
import Remittance.Proofs.Calendar.Written

namespace Remittance

open Remittance.Text

def gregorianLength (year month : Nat) : Nat :=
  if month = 2 then
    if (4 ∣ year ∧ ¬ 100 ∣ year) ∨ 400 ∣ year then 29 else 28
  else if month = 4 ∨ month = 6 ∨ month = 9 ∨ month = 11 then 30
  else 31

private theorem gregorianLength_le (year month : Nat) : gregorianLength year month ≤ 31 := by
  unfold gregorianLength
  split
  · split <;> decide
  · split <;> decide

private theorem isLeapYear_natCast (year : Nat) :
    isLeapYear year ↔ (4 ∣ year ∧ ¬ 100 ∣ year) ∨ 400 ∣ year := by
  simp only [isLeapYear, Bool.or_eq_true, Bool.and_eq_true, beq_iff_eq, bne_iff_ne, ne_eq]
  omega

private theorem monthLength?_eq_gregorianLength {month : Nat} (hpos : 1 ≤ month) (hle : month ≤ 12)
    (year : Nat) : monthLength? year month = some (gregorianLength year month) := by
  have hleap := isLeapYear_natCast year
  by_cases h : isLeapYear year
  · have hrule := hleap.mp h
    interval_cases month <;> simp [monthLength?, monthLengths, gregorianLength, h, hrule]
  · have hrule := mt hleap.mpr h
    interval_cases month <;> simp [monthLength?, monthLengths, gregorianLength, h, hrule]

namespace Date

/-- A day of the Gregorian calendar in a year of four digits. -/
structure IsGregorian (year month day : Nat) : Prop where
  year_le : year ≤ 9999
  month_pos : 1 ≤ month
  month_le : month ≤ 12
  day_pos : 1 ≤ day
  day_le : day ≤ gregorianLength year month

theorem inCalendar_iff_isGregorian {year month day : Nat} :
    InCalendar ⟨year, month, day⟩ ↔ IsGregorian year month day := by
  constructor
  · intro h
    obtain ⟨hpos, hle⟩ := h.month
    obtain ⟨length, hlength, hday⟩ := h.day_le
    rw [monthLength?_eq_gregorianLength hpos hle] at hlength
    obtain rfl := Option.some.inj hlength
    exact ⟨by have := h.year.2; dsimp only at this; omega, hpos, hle, h.day_pos, hday⟩
  · intro h
    have hlength := monthLength?_eq_gregorianLength h.month_pos h.month_le year
    refine ⟨⟨Int.natCast_nonneg year, ?_⟩, ⟨h.month_pos, h.month_le⟩, h.day_pos, ?_⟩
    · have hyear := h.year_le
      dsimp only
      omega
    · exact ⟨_, hlength, h.day_le⟩

private theorem IsGregorian.mod_eq {year month day : Nat} (h : IsGregorian year month day) :
    year % Nat.pow 10 4 = year ∧ month % Nat.pow 10 2 = month ∧ day % Nat.pow 10 2 = day := by
  have hyears : Nat.pow 10 4 = 10000 := rfl
  have hdays : Nat.pow 10 2 = 100 := rfl
  obtain ⟨hyear, _, hmonth, _, hday⟩ := h
  have hlength := gregorianLength_le year month
  rw [hyears, hdays]
  omega

private theorem compare_append {α : Type} [Ord α] {a b : List α} (h : a.length = b.length)
    (x y : List α) :
    compare (a ++ x) (b ++ y) = (compare a b).then (compare x y) := by
  induction a generalizing b with
  | nil =>
      obtain rfl := List.length_eq_zero_iff.mp h.symm
      rfl
  | cons c a ih =>
      cases b with
      | nil => cases h
      | cons d b =>
          rw [List.cons_append, List.cons_append, List.compare_cons_cons, List.compare_cons_cons,
            ih (Nat.succ.inj h), Ordering.then_assoc]

private theorem compare_last_digit (a b : Nat) :
    compare a b = (compare (a / 10) (b / 10)).then (compare (a % 10) (b % 10)) := by
  rcases Nat.lt_trichotomy (a / 10) (b / 10) with hlt | heq | hgt
  · rw [Nat.compare_eq_lt.mpr hlt, Nat.compare_eq_lt.mpr (show a < b by omega)]
    rfl
  · have hlt : a < b ↔ a % 10 < b % 10 := by omega
    have hgt : b < a ↔ b % 10 < a % 10 := by omega
    rw [Nat.compare_eq_eq.mpr heq, Ordering.eq_then, Nat.compare_eq_ite_lt, Nat.compare_eq_ite_lt]
    simp only [hlt, hgt]
  · rw [Nat.compare_eq_gt.mpr hgt, Nat.compare_eq_gt.mpr (show b < a by omega)]
    rfl

private theorem length_map_digits (width a b : Nat) :
    ((digits width a).map CodePoint.toNat).length =
      ((digits width b).map CodePoint.toNat).length := by
  rw [List.length_map, List.length_map, (isRow_digits width a).width, (isRow_digits width b).width]

theorem compare_digits (width a b : Nat) :
    compare ((digits width a).map CodePoint.toNat) ((digits width b).map CodePoint.toNat) =
      compare (a % Nat.pow 10 width) (b % Nat.pow 10 width) := by
  induction width generalizing a b with
  | zero =>
      have hone (n : Nat) : n % Nat.pow 10 0 = 0 := Nat.mod_one n
      rw [hone, hone]
      rfl
  | succ width ih =>
      have hpow : Nat.pow 10 (width + 1) = 10 * Nat.pow 10 width := Nat.mul_comm ..
      have hlast : compare [0x30 + a % 10] [0x30 + b % 10] = compare (a % 10) (b % 10) := by
        rw [List.compare_cons_cons, List.compare_nil_nil, Ordering.then_eq, Nat.compare_eq_ite_lt,
          Nat.compare_eq_ite_lt]
        simp only [Nat.add_lt_add_iff_left]
      rw [hpow, compare_last_digit (a % (10 * _)), Nat.mod_mul_right_div_self,
        Nat.mod_mul_right_div_self, Nat.mod_mul_right_mod, Nat.mod_mul_right_mod, ← ih, ← hlast,
        digits, digits, List.map_append, List.map_append,
        compare_append (length_map_digits ..), List.map_singleton, List.map_singleton, toNat_digit,
        toNat_digit]

private theorem IsGregorian.order_eq_compare_written {year month day year' month' day' : Nat}
    (h : IsGregorian year month day) (h' : IsGregorian year' month' day') :
    (Date.mk year month day).order ⟨year', month', day'⟩ =
      compare ((written ⟨year, month, day⟩).map CodePoint.toNat)
        ((written ⟨year', month', day'⟩).map CodePoint.toNat) := by
  have hdash : compare (CodePoint.scalar '-').toNat (CodePoint.scalar '-').toNat = .eq := rfl
  obtain ⟨hyear, hmonth, hday⟩ := h.mod_eq
  obtain ⟨hyear', hmonth', hday'⟩ := h'.mod_eq
  simp only [written, List.append_assoc, List.cons_append, List.map_append, List.map_cons]
  rw [compare_append (length_map_digits ..), List.compare_cons_cons, hdash, Ordering.eq_then,
    compare_append (length_map_digits ..), List.compare_cons_cons, hdash, Ordering.eq_then,
    compare_digits, compare_digits, compare_digits, Int.toNat_natCast, Int.toNat_natCast, hyear,
    hmonth, hday, hyear', hmonth', hday', order, compare_natCast]

/-- A text is accepted, and without a fault, exactly if it writes a day of the Gregorian calendar.
It is read back as that day, and texts come in the order of their days. -/
theorem isWritten_exactly_gregorian (text : Text) :
    checkWritten text = .ok (isWritten text) ∧
    (isWritten text ↔
      ∃ year month day : Nat, IsGregorian year month day ∧ text = written ⟨year, month, day⟩) ∧
    ∀ year month day : Nat, IsGregorian year month day → text = written ⟨year, month, day⟩ →
      readParts text = .ok (year, month, day) ∧
      ∀ (other : Text) (year' month' day' : Nat), IsGregorian year' month' day' →
        other = written ⟨year', month', day'⟩ →
        (Date.mk year month day).order ⟨year', month', day'⟩ =
          compare (text.map CodePoint.toNat) (other.map CodePoint.toNat) := by
  refine ⟨checkWritten_eq text, ?_, ?_⟩
  · rw [isWritten_iff_exists_writes]
    constructor
    · intro h
      obtain ⟨⟨year, month, day⟩, hcalendar, htext⟩ := h
      obtain ⟨n, rfl⟩ := Int.eq_ofNat_of_zero_le hcalendar.year.1
      exact ⟨n, month, day, inCalendar_iff_isGregorian.mp hcalendar, htext⟩
    · intro h
      obtain ⟨year, month, day, hgregorian, htext⟩ := h
      exact ⟨⟨year, month, day⟩, inCalendar_iff_isGregorian.mpr hgregorian, htext⟩
  · intro year month day h htext
    subst htext
    refine ⟨?_, ?_⟩
    · have hcalendar := inCalendar_iff_isGregorian.mpr h
      obtain ⟨hyear, hmonth, hday⟩ := hcalendar.values
      rw [readParts_of_isDay (fields_written _) hcalendar.isDay, hyear, hmonth, hday]
    · intro other year' month' day' h' hother
      subst hother
      exact h.order_eq_compare_written h'

/-- The last day of February in a leap year, the day after it, and a month that there is not. -/
theorem isWritten_exactly_gregorian_leap_day :
    isWritten "2024-02-29" ∧ checkWritten "2024-00-29" = .ok false ∧
      readParts "2024-02-29" = .ok (2024, 2, 29) ∧
      (Date.mk 2024 2 29).order ⟨2024, 3, 1⟩ =
        compare ((Text.ofString "2024-02-29").map CodePoint.toNat)
          ((Text.ofString "2024-03-01").map CodePoint.toNat) := by
  have hleap : IsGregorian 2024 2 29 := by constructor <;> decide
  have hmarch : IsGregorian 2024 3 1 := by constructor <;> decide
  obtain ⟨_, hwritten, hread⟩ := isWritten_exactly_gregorian "2024-02-29"
  obtain ⟨hcheck, _⟩ := isWritten_exactly_gregorian "2024-00-29"
  obtain ⟨hparts, horder⟩ := hread 2024 2 29 hleap (by decide)
  refine ⟨hwritten.mpr ⟨2024, 2, 29, hleap, by decide⟩, ?_, hparts, ?_⟩
  · rw [hcheck]
    decide
  · exact horder "2024-03-01" 2024 3 1 hmarch (by decide)

end Date

end Remittance
