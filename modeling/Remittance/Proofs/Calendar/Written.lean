import Mathlib.Data.List.Induction
import Remittance.Calendar.Written
import Remittance.Proofs.Text.Words
import Remittance.Proofs.Token

namespace Remittance

open Remittance.Text

structure IsRow (width : Nat) (digits : Text) : Prop where
  width : digits.length = width
  isAsciiDigit : ∀ c ∈ digits, isAsciiDigit c

theorem IsRow.readWhole {width : Nat} {digits : Text} (h : IsRow width digits) (hpos : 0 < width)
    (hlimit : width ≤ digitLimit) : Numeral.readWhole digits = .ok (Numeral.value digits) := by
  have hwidth := h.width
  apply Numeral.readWhole_of_isNumeral
  · refine Numeral.isNumeral_iff.mpr ⟨?_, h.isAsciiDigit⟩
    apply List.ne_nil_of_length_pos
    omega
  · omega

namespace Date

structure IsDay (year month day : Text) : Prop where
  year_row : IsRow 4 year
  month_row : IsRow 2 month
  day_row : IsRow 2 day
  month_pos : 1 ≤ Numeral.value month
  month_le : Numeral.value month ≤ 12
  day_pos : 1 ≤ Numeral.value day
  day_le : ∃ length ∈ monthLength? (Numeral.value year) (Numeral.value month),
    Numeral.value day ≤ length

private theorem isRow_iff {width : Nat} {row : Text} : isRow width row ↔ IsRow width row := by
  rw [isRow, Bool.and_eq_true, beq_iff_eq, List.all_eq_true]
  exact ⟨fun h => ⟨h.1, h.2⟩, fun h => ⟨h.width, h.isAsciiDigit⟩⟩

private theorem exists_monthLength? {month : Int} (hpos : 1 ≤ month) (hle : month ≤ 12)
    (year : Int) : ∃ length, monthLength? year month = some length := by
  rw [← Option.ne_none_iff_exists', ne_eq, monthLength?_eq_none_iff]
  omega

theorem checkWritten_of_rows {text year month day : Text}
    (hfields : fields isDash text = [year, month, day]) (hyear : IsRow 4 year)
    (hmonth : IsRow 2 month) (hday : IsRow 2 day) :
    ∃ valid, checkWritten text = .ok valid ∧ (valid ↔ IsDay year month day) := by
  have hrows : isRow 4 year ∧ isRow 2 month ∧ isRow 2 day :=
    ⟨isRow_iff.mpr hyear, isRow_iff.mpr hmonth, isRow_iff.mpr hday⟩
  simp only [checkWritten, hfields, if_pos hrows, hyear.readWhole (by decide) (by decide),
    hmonth.readWhole (by decide) (by decide), hday.readWhole (by decide) (by decide), bind,
    Except.bind]
  by_cases hrange : 1 ≤ Numeral.value month ∧ Numeral.value month ≤ 12
  · obtain ⟨length, hlength⟩ := exists_monthLength? (show (1 : Int) ≤ Numeral.value month by omega)
      (show (Numeral.value month : Int) ≤ 12 by omega) (Numeral.value year)
    let d : Int := Numeral.value day
    refine ⟨decide (1 ≤ d ∧ d ≤ length), ?_, ?_⟩
    · rw [if_neg (by omega), monthLength, hlength]
      rfl
    · rw [decide_eq_true_iff]
      constructor
      · intro h
        exact ⟨hyear, hmonth, hday, hrange.1, hrange.2, by omega, length, hlength, by omega⟩
      · intro h
        obtain ⟨_, hsame, hle⟩ := h.day_le
        obtain rfl := Option.some.inj (hlength.symm.trans hsame)
        have hpos := h.day_pos
        omega
  · refine ⟨false, ?_, ?_⟩
    · rw [if_pos (by omega)]
      rfl
    · simp only [Bool.false_eq_true, false_iff]
      exact fun h => hrange ⟨h.month_pos, h.month_le⟩

theorem exists_checkWritten (text : Text) :
    ∃ valid, checkWritten text = .ok valid ∧ (valid ↔ ∃ year month day,
      fields isDash text = [year, month, day] ∧ IsDay year month day) := by
  by_cases hrows : ∃ year month day, fields isDash text = [year, month, day] ∧
      IsRow 4 year ∧ IsRow 2 month ∧ IsRow 2 day
  · obtain ⟨year, month, day, hfields, hyear, hmonth, hday⟩ := hrows
    obtain ⟨valid, hcheck, hvalid⟩ := checkWritten_of_rows hfields hyear hmonth hday
    refine ⟨valid, hcheck, hvalid.trans ⟨fun h => ⟨year, month, day, hfields, h⟩, fun h => ?_⟩⟩
    obtain ⟨_, _, _, hother, h⟩ := h
    cases hfields.symm.trans hother
    exact h
  · refine ⟨false, ?_, ?_⟩
    · unfold checkWritten
      split
      · rename_i year month day hfields
        refine if_neg fun h => hrows ⟨year, month, day, hfields, ?_⟩
        exact ⟨isRow_iff.mp h.1, isRow_iff.mp h.2.1, isRow_iff.mp h.2.2⟩
      · rfl
    · simp only [Bool.false_eq_true, false_iff]
      intro h
      obtain ⟨year, month, day, hfields, h⟩ := h
      exact hrows ⟨year, month, day, hfields, h.year_row, h.month_row, h.day_row⟩

theorem checkWritten_eq (text : Text) : checkWritten text = .ok (isWritten text) := by
  obtain ⟨valid, hcheck, _⟩ := exists_checkWritten text
  rw [isWritten, hcheck]
  rfl

theorem isWritten_iff {text : Text} :
    isWritten text ↔ ∃ year month day, fields isDash text = [year, month, day] ∧
      IsDay year month day := by
  obtain ⟨valid, hcheck, hvalid⟩ := exists_checkWritten text
  rw [isWritten, hcheck]
  exact hvalid

theorem readParts_of_isDay {text year month day : Text}
    (hfields : fields isDash text = [year, month, day]) (h : IsDay year month day) :
    readParts text = .ok (Numeral.value year, Numeral.value month, Numeral.value day) := by
  simp only [readParts, hfields, h.year_row.readWhole (by decide) (by decide),
    h.month_row.readWhole (by decide) (by decide), h.day_row.readWhole (by decide) (by decide)]
  rfl

theorem compare_natCast (a b : Nat) : compare (a : Int) (b : Int) = compare a b := by
  rw [Int.compare_eq_ite_lt, Nat.compare_eq_ite_lt]
  simp only [Int.ofNat_lt]

private theorem orderParts_natCast (year : Int) (month day : Nat) (date : Date) :
    orderParts (year, month, day) date = (Date.mk year month day).order date := by
  simp only [orderParts, order, compare_natCast]

theorem compareText_of_isWritten {text : Text} (h : isWritten text) :
    ∃ day, ofWritten? text = some day ∧ ∀ date, compareText text date = .ok (day.order date) := by
  obtain ⟨year, month, day, hfields, hday⟩ := isWritten_iff.mp h
  refine ⟨⟨Numeral.value year, Numeral.value month, Numeral.value day⟩, ?_, ?_⟩
  · simp only [ofWritten?, if_pos h, hfields]
  · intro date
    rw [compareText, readParts_of_isDay hfields hday, ← orderParts_natCast]
    rfl

theorem toNat_digit (n : Nat) :
    (CodePoint.scalar (Char.ofNat (0x30 + n % 10))).toNat = 0x30 + n % 10 := by
  apply toNat_ofNat_of_isValidChar
  exact .inl (by omega)

theorem isRow_digits (width n : Nat) : IsRow width (digits width n) := by
  induction width generalizing n with
  | zero => exact ⟨rfl, by simp [digits]⟩
  | succ width ih =>
      obtain ⟨hwidth, hdigits⟩ := ih (n / 10)
      refine ⟨by rw [digits, List.length_append, hwidth, List.length_singleton], ?_⟩
      rw [digits, List.forall_mem_append]
      refine ⟨hdigits, ?_⟩
      rw [List.forall_mem_singleton, isAsciiDigit, toNat_digit]
      simp only [Bool.and_eq_true, decide_eq_true_eq]
      omega

theorem value_digits (width n : Nat) :
    Numeral.value (digits width n) = n % Nat.pow 10 width := by
  induction width generalizing n with
  | zero => exact (Nat.mod_one n).symm
  | succ width ih =>
      have hpow : Nat.pow 10 (width + 1) = 10 * Nat.pow 10 width := Nat.mul_comm ..
      rw [digits, Numeral.value_append_digit, toNat_digit, ih, hpow, Nat.mod_mul]
      omega

theorem digits_value {width : Nat} {row : Text} (h : IsRow width row) :
    digits width (Numeral.value row) = row := by
  obtain ⟨rfl, hdigits⟩ := h
  induction row using List.reverseRecOn with
  | nil => rfl
  | append_singleton row c ih =>
      obtain ⟨hrow, hlast⟩ := List.forall_mem_append.mp hdigits
      have hc := hlast c (List.mem_singleton_self c)
      simp only [isAsciiDigit, Bool.and_eq_true, decide_eq_true_eq] at hc
      have hfront : (10 * Numeral.value row + (c.toNat - 0x30)) / 10 = Numeral.value row := by
        omega
      have hdigit : CodePoint.scalar
          (Char.ofNat (0x30 + (10 * Numeral.value row + (c.toNat - 0x30)) % 10)) = c := by
        apply CodePoint.toNat_injective
        rw [toNat_digit]
        omega
      rw [Numeral.value_append_digit, List.length_append, List.length_singleton, digits, hfront,
        ih hrow, hdigit]

structure InCalendar (day : Date) : Prop where
  year : 0 ≤ day.year ∧ day.year < 10000
  month : 1 ≤ day.month ∧ day.month ≤ 12
  day_pos : 1 ≤ day.day
  day_le : ∃ length ∈ monthLength? day.year day.month, day.day ≤ length

/-- A text writes a day of the calendar. -/
def Writes (text : Text) (day : Date) : Prop :=
  day.InCalendar ∧ text = day.written

private theorem eq_dash_of_isDash {c : CodePoint} (h : isDash c) : c = .scalar '-' := by
  simpa [isDash] using h

private theorem IsRow.not_isDash {width : Nat} {row : Text} (h : IsRow width row) :
    ∀ c ∈ row, isDash c = false := by
  intro c hc
  rw [isDash, beq_eq_false_iff_ne]
  exact ne_of_isAsciiDigit (h.isAsciiDigit c hc) (by decide)

theorem fields_written (day : Date) :
    fields isDash day.written =
      [digits 4 day.year.toNat, digits 2 day.month, digits 2 day.day] := by
  rw [written, List.append_assoc, List.cons_append,
    fields_append_sep (IsRow.not_isDash (isRow_digits ..)) rfl,
    fields_append_sep (IsRow.not_isDash (isRow_digits ..)) rfl,
    fields_of_no_sep (IsRow.not_isDash (isRow_digits ..))]

private theorem eq_of_fields_isDash {text year month day : Text}
    (h : fields isDash text = [year, month, day]) :
    text = year ++ .scalar '-' :: month ++ .scalar '-' :: day := by
  obtain ⟨c, tail, hc, rfl, htail⟩ := exists_of_fields_eq_cons_cons h
  obtain ⟨d, rest, hd, rfl, hrest⟩ := exists_of_fields_eq_cons_cons htail
  obtain rfl := eq_dash_of_isDash hc
  obtain rfl := eq_dash_of_isDash hd
  rw [eq_of_fields_eq_singleton hrest, List.append_assoc, List.cons_append]

private theorem IsDay.writes {text year month day : Text}
    (hfields : fields isDash text = [year, month, day])
    (h : IsDay year month day) :
    Writes text ⟨Numeral.value year, Numeral.value month, Numeral.value day⟩ := by
  have hyear := value_digits 4 (Numeral.value year)
  rw [digits_value h.year_row] at hyear
  have hpos : 0 < Nat.pow 10 4 := by decide
  refine ⟨⟨⟨Int.natCast_nonneg _, ?_⟩, ⟨h.month_pos, h.month_le⟩, h.day_pos, h.day_le⟩, ?_⟩
  · have hlt := Nat.mod_lt (Numeral.value year) hpos
    rw [← hyear] at hlt
    exact Int.ofNat_lt.mpr hlt
  · rw [eq_of_fields_isDash hfields, written, Int.toNat_natCast, digits_value h.year_row,
      digits_value h.month_row, digits_value h.day_row]

private theorem le_of_mem_monthLengths {year : Int} {length : Nat}
    (h : length ∈ monthLengths year) :
    length ≤ 31 := by
  have hall : ∀ leap ∈ [28, 29],
      ∀ length ∈ [31, leap, 31, 30, 31, 30, 31, 31, 30, 31, 30, 31], length ≤ 31 := by
    decide
  refine hall _ ?_ length h
  split <;> decide

private theorem monthLength?_le {year month : Int} {length : Nat}
    (h : monthLength? year month = some length) : length ≤ 31 := by
  simp only [monthLength?, Option.ite_none_left_eq_some] at h
  exact le_of_mem_monthLengths (List.mem_of_getElem? h.2)

theorem InCalendar.values {day : Date} (h : day.InCalendar) :
    (Numeral.value (digits 4 day.year.toNat) : Int) = day.year ∧
      Numeral.value (digits 2 day.month) = day.month ∧
      Numeral.value (digits 2 day.day) = day.day := by
  obtain ⟨hnonneg, hlt⟩ := h.year
  obtain ⟨length, hlength, hle⟩ := h.day_le
  have hlength := monthLength?_le hlength
  have hmonth := h.month.2
  have hyears : Nat.pow 10 4 = 10000 := rfl
  have hdays : Nat.pow 10 2 = 100 := rfl
  rw [value_digits, value_digits, value_digits, hyears, hdays, Nat.mod_eq_of_lt (by omega),
    Nat.mod_eq_of_lt (by omega), Nat.mod_eq_of_lt (by omega), Int.toNat_of_nonneg hnonneg]
  exact ⟨rfl, rfl, rfl⟩

theorem InCalendar.isDay {day : Date} (h : day.InCalendar) :
    IsDay (digits 4 day.year.toNat) (digits 2 day.month) (digits 2 day.day) := by
  obtain ⟨hyear, hmonth, hday⟩ := h.values
  refine ⟨isRow_digits 4 _, isRow_digits 2 _, isRow_digits 2 _, ?_, ?_, ?_, ?_⟩
  · rw [hmonth]
    exact h.month.1
  · rw [hmonth]
    exact h.month.2
  · rw [hday]
    exact h.day_pos
  · rw [hyear, hmonth, hday]
    exact h.day_le

theorem ofWritten?_eq_some_iff {text : Text} {day : Date} :
    ofWritten? text = some day ↔ Writes text day := by
  constructor
  · intro h
    unfold ofWritten? at h
    split at h
    · rename_i hwritten
      obtain ⟨year, month, day, hfields, hday⟩ := isWritten_iff.mp hwritten
      rw [hfields] at h
      obtain rfl := Option.some.inj h
      exact hday.writes hfields
    · cases h
  · intro h
    obtain ⟨hcalendar, rfl⟩ := h
    have hfields := fields_written day
    have hwritten := isWritten_iff.mpr ⟨_, _, _, hfields, hcalendar.isDay⟩
    obtain ⟨hyear, hmonth, hday⟩ := hcalendar.values
    simp only [ofWritten?, if_pos hwritten, hfields, hyear, hmonth, hday]

theorem Writes.unique {text : Text} {day other : Date} (h : Writes text day)
    (hother : Writes text other) : day = other :=
  Option.some.inj ((ofWritten?_eq_some_iff.mpr h).symm.trans (ofWritten?_eq_some_iff.mpr hother))

theorem isWritten_iff_exists_writes {text : Text} :
    isWritten text ↔ ∃ day, Writes text day := by
  constructor
  · intro h
    obtain ⟨day, hday, _⟩ := compareText_of_isWritten h
    exact ⟨day, ofWritten?_eq_some_iff.mp hday⟩
  · intro h
    obtain ⟨day, hcalendar, rfl⟩ := h
    exact isWritten_iff.mpr ⟨_, _, _, fields_written day, hcalendar.isDay⟩

theorem Writes.compareText_eq {text : Text} {day : Date} (h : Writes text day) (date : Date) :
    compareText text date = .ok (day.order date) := by
  obtain ⟨other, hother, hcompare⟩ :=
    compareText_of_isWritten (isWritten_iff_exists_writes.mpr ⟨day, h⟩)
  obtain rfl := h.unique (ofWritten?_eq_some_iff.mp hother)
  exact hcompare date

/-- A day comes after another when its year does, or its month in the same year, or its day in the
same month. -/
def IsAfter (day date : Date) : Prop :=
  date.year < day.year ∨ date.year = day.year ∧
    (date.month < day.month ∨ date.month = day.month ∧ date.day < day.day)

theorem order_eq_gt_iff {day date : Date} : day.order date = .gt ↔ day.IsAfter date := by
  simp only [order, IsAfter, Ordering.then_eq_gt, Int.compare_eq_gt, Int.compare_eq_eq,
    Nat.compare_eq_gt, Nat.compare_eq_eq]
  rw [eq_comm (a := day.year), eq_comm (a := day.month)]

end Date

end Remittance
