namespace Remittance

def isLeapYear (year : Int) : Bool :=
  year % 400 == 0 || (year % 100 != 0 && year % 4 == 0)

def monthLengths (year : Int) : List Nat :=
  [31, if isLeapYear year then 29 else 28, 31, 30, 31, 30, 31, 31, 30, 31, 30, 31]

/-- Months count from one; zero and below count back from December. -/
def monthLength? (year month : Int) : Option Nat :=
  let index := if 1 ≤ month then month - 1 else month + 11
  if index < 0 then none else (monthLengths year)[index.toNat]?

@[simp] theorem length_monthLengths (year : Int) : (monthLengths year).length = 12 := rfl

theorem monthLength?_eq_none_iff (year month : Int) :
    monthLength? year month = none ↔ month < -11 ∨ 12 < month := by
  simp only [monthLength?]
  split <;> split <;> simp <;> omega

structure Date where
  year : Int
  month : Nat
  day : Nat
deriving Repr, DecidableEq

namespace Date

/-- The day of a year, counted from zero, as month and day of month. -/
def ofDayOfYear (month : Nat) : List Nat → Nat → Nat × Nat
  | [], day => (month, day + 1)
  | length :: lengths, day =>
      if day < length then (month, day + 1) else ofDayOfYear (month + 1) lengths (day - length)

def daysIn400Years : Nat := 146097
def daysIn100Years : Nat := 36524
def daysIn4Years : Nat := 1461

/-- The date `n` days after the first of January of year 1, by cycles of 400, 100, 4 and 1 years.
The last century of a cycle and the last year of four are a day longer than the others. -/
def ofDayNumber (n : Int) : Date :=
  let inCycle := (n % daysIn400Years).toNat
  let century := min (inCycle / daysIn100Years) 3
  let inCentury := inCycle - century * daysIn100Years
  let leapSpan := inCentury / daysIn4Years
  let inSpan := inCentury - leapSpan * daysIn4Years
  let yearOfSpan := min (inSpan / 365) 3
  let year : Int :=
    400 * (n / daysIn400Years) + (100 * century + 4 * leapSpan + yearOfSpan : Nat) + 1
  let (month, day) := ofDayOfYear 1 (monthLengths year) (inSpan - yearOfSpan * 365)
  ⟨year, month, day⟩

def epoch : Int := 719162

/-- The day in which a clock stands that counts seconds from the start of 1970. -/
def ofSeconds (seconds : Int) : Date :=
  ofDayNumber (seconds / 86400 + epoch)

def order (a b : Date) : Ordering :=
  (compare a.year b.year).then ((compare a.month b.month).then (compare a.day b.day))

end Date

end Remittance
