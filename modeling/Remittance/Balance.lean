import Remittance.Binary64
import Remittance.Fault

namespace Remittance

/-! A balance is either an exact whole number or a 64-bit binary floating-point number. Amounts are
whole numbers; moving one keeps the kind of the balance. -/

inductive Balance
  | whole (amount : Int)
  | binary (amount : Binary64)
deriving Repr, DecidableEq

namespace Balance

def isFinite : Balance → Bool
  | whole _ => true
  | binary x => x.isFinite

def isBinary : Balance → Bool
  | whole _ => false
  | binary _ => true

/-- Whether an amount is greater than the balance, compared exactly. -/
def isBelow : Balance → Int → Bool
  | whole n, amount => decide (n < amount)
  | binary x, amount => x.isBelow amount

def binaryAmount (amount : Int) : Except Fault Binary64 :=
  (Binary64.ofInt? amount).elim (.error .beyondBinary64) .ok

def plus : Balance → Int → Except Fault Balance
  | whole n, amount => .ok (whole (n + amount))
  | binary x, amount => (binaryAmount amount).map fun a => binary (x.add a)

def minus : Balance → Int → Except Fault Balance
  | whole n, amount => .ok (whole (n - amount))
  | binary x, amount => (binaryAmount amount).map fun a => binary (x.sub a)

@[simp] theorem plus_whole (n amount : Int) : (whole n).plus amount = .ok (whole (n + amount)) :=
  rfl

@[simp] theorem minus_whole (n amount : Int) : (whole n).minus amount = .ok (whole (n - amount)) :=
  rfl

@[simp] theorem isBelow_whole (n amount : Int) : (whole n).isBelow amount ↔ n < amount := by
  simp [isBelow]

end Balance

end Remittance
