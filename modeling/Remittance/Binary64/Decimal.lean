import Remittance.Binary64

namespace Remittance.Binary64

def decimalLength (n : Nat) : Nat :=
  (Nat.toDigits 10 n).length

/-- The number nearest to `m · 10 ^ e`. What is at least 10³¹⁰ is past the largest magnitude, and
what is below 10⁻³³⁰ is nearest to zero. -/
def ofDecimal (negative : Bool) (m : Nat) (e : Int) : Binary64 :=
  let size := decimalLength m + e
  if m = 0 ∨ size < -330 then zero negative
  else if 310 < size then infinite negative
  else if 0 ≤ e then ofRatio negative (m * Nat.pow 10 e.toNat * unit) 1
  else ofRatio negative (m * unit) (Nat.pow 10 (-e).toNat)

structure Decimal where
  coefficient : Nat
  exponent : Int
deriving Repr, DecidableEq

/-- Compares twice a decimal number, in units, with a natural number. -/
def Decimal.orderTwice (d : Decimal) (n : Nat) : Ordering :=
  if 0 ≤ d.exponent then compare (2 * d.coefficient * Nat.pow 10 d.exponent.toNat * unit) n
  else compare (2 * d.coefficient * unit) (n * Nat.pow 10 (-d.exponent).toNat)

/-- Whether a decimal number reads back as the magnitude of a rank above zero: it lies between the
midpoints to the two neighbours, and on a midpoint only if the rank is even. -/
def Decimal.readsAs (d : Decimal) (rank : Nat) : Bool :=
  let low := d.orderTwice (unitsOfRank (rank - 1) + unitsOfRank rank)
  let high := d.orderTwice (unitsOfRank rank + unitsOfRank (rank + 1))
  if rank % 2 = 0 then low.isGE && high.isLE else low.isGT && high.isLT

def floorAt (rank : Nat) (exponent : Int) : Nat :=
  if 0 ≤ exponent then unitsOfRank rank / (unit * Nat.pow 10 exponent.toNat)
  else unitsOfRank rank * Nat.pow 10 (-exponent).toNat / unit

/-- Of the two multiples of a power of ten around a magnitude, the one that reads back as it; of
two such the nearer, and the even one of two as near. -/
def nearestAt (rank : Nat) (exponent : Int) : Option Decimal :=
  let below := floorAt rank exponent
  let lower : Decimal := ⟨below, exponent⟩
  let upper : Decimal := ⟨below + 1, exponent⟩
  let middle : Decimal := ⟨10 * below + 5, exponent - 1⟩
  match lower.readsAs rank, upper.readsAs rank with
  | false, false => none
  | true, false => some lower
  | false, true => some upper
  | true, true =>
      match middle.orderTwice (2 * unitsOfRank rank) with
      | .gt => some lower
      | .lt => some upper
      | .eq => some (if below % 2 = 0 then lower else upper)

/-- The powers of ten that a shortest form can be a multiple of, the largest first. -/
def decimalExponents : List Int :=
  (List.range 650).map fun (i : Nat) => (309 : Int) - i

def shortest (rank : Nat) : Decimal :=
  (decimalExponents.findSome? (nearestAt rank)).getD ⟨0, 0⟩

end Remittance.Binary64
