namespace Remittance

/-! Numbers of the 64-bit binary floating-point format, in exact arithmetic.

A finite number is told by its sign and by the rank of its magnitude among the finite magnitudes,
zero first. Every magnitude is a whole number of units of 2⁻¹⁰⁷⁴. -/

namespace Binary64

/-- How many finite magnitudes share one distance to the next. -/
def spacingRun : Nat := 0x10000000000000

def magnitudes : Nat := 2047 * spacingRun

def unit : Nat := Nat.pow 2 1074

end Binary64

inductive Binary64
  | finite (negative : Bool) (rank : Fin Binary64.magnitudes)
  | infinite (negative : Bool)
  | nan
deriving Repr, DecidableEq

namespace Binary64

private theorem magnitudes_pos : 0 < magnitudes := by decide

def zero (negative : Bool) : Binary64 :=
  finite negative ⟨0, magnitudes_pos⟩

def isFinite : Binary64 → Bool
  | finite _ _ => true
  | _ => false

/-- The magnitude of a rank, in units. The first run of ranks counts units one by one, and each
later run doubles the distance of the run before the last. -/
def unitsOfRank (rank : Nat) : Nat :=
  if rank < spacingRun then rank
  else (spacingRun + rank % spacingRun) * Nat.pow 2 (rank / spacingRun - 1)

def signed (negative : Bool) (n : Nat) : Int :=
  if negative then -n else n

def units? : Binary64 → Option Int
  | finite negative rank => some (signed negative (unitsOfRank rank))
  | _ => none

/-- The quotient `n / d`, rounded to nearest with ties to even. -/
def divRound (n d : Nat) : Nat :=
  let q := n / d
  let twice := 2 * (n % d)
  if twice < d then q
  else if d < twice then q + 1
  else q + q % 2

/-- The rank nearest to `n / d` units, where the ranks go on past the finite ones. -/
def rankOfRatio (n d : Nat) : Nat :=
  let exponent := (n / d).log2 - 52
  exponent * spacingRun + divRound n (d * Nat.pow 2 exponent)

/-- The number nearest to `n / d` units; past the largest magnitude it is infinite. -/
def ofRatio (negative : Bool) (n d : Nat) : Binary64 :=
  if h : rankOfRatio n d < magnitudes then finite negative ⟨rankOfRatio n d, h⟩
  else infinite negative

/-- The number nearest to a whole number of units; nothing is rounded to a negative zero. -/
def ofUnits (n : Int) : Binary64 :=
  ofRatio (decide (n < 0)) n.natAbs 1

def one : Binary64 :=
  ofUnits unit

def wholePart : Binary64 → Nat
  | finite false rank => unitsOfRank rank / unit
  | _ => 0

def bounded? : Binary64 → Option Binary64
  | infinite _ => none
  | x => some x

/-- The number nearest to a whole number, unless it lies past the largest magnitude. -/
def ofInt? (n : Int) : Option Binary64 :=
  (ofUnits (n * unit)).bounded?

def neg : Binary64 → Binary64
  | finite negative rank => finite (!negative) rank
  | infinite negative => infinite (!negative)
  | nan => nan

/-- The sum of two zeros is negative only if both are. -/
def add : Binary64 → Binary64 → Binary64
  | nan, _ => nan
  | _, nan => nan
  | infinite a, infinite b => if a = b then infinite a else nan
  | infinite a, finite _ _ => infinite a
  | finite _ _, infinite b => infinite b
  | finite a x, finite b y =>
      let sum := signed a (unitsOfRank x) + signed b (unitsOfRank y)
      if sum = 0 then zero (a && b) else ofUnits sum

def sub (a b : Binary64) : Binary64 :=
  a.add b.neg

/-- Whether a whole number is greater; no number is greater than what is not a number. -/
def isBelow : Binary64 → Int → Bool
  | finite negative rank, n => decide (signed negative (unitsOfRank rank) < n * unit)
  | infinite negative, _ => negative
  | nan, _ => false

def signBit : Nat := 0x8000000000000000

def toBits : Binary64 → Nat
  | finite negative rank => (if negative then signBit else 0) + rank
  | infinite negative => (if negative then signBit else 0) + magnitudes
  | nan => magnitudes + spacingRun / 2

def ofBits (bits : Nat) : Binary64 :=
  let negative := bits / signBit % 2 == 1
  let rank := bits % signBit
  if h : rank < magnitudes then finite negative ⟨rank, h⟩
  else if rank = magnitudes then infinite negative
  else nan

private theorem magnitudes_lt : magnitudes < signBit := by decide

@[simp] theorem ofBits_toBits (x : Binary64) : ofBits x.toBits = x := by
  cases x with
  | finite negative rank =>
      have hrank := rank.isLt
      have room := magnitudes_lt
      have hlt : rank.val < signBit := Nat.lt_trans hrank room
      cases negative with
      | false =>
          have hbits : toBits (finite false rank) = rank.val := Nat.zero_add _
          have hmod : rank.val % signBit = rank.val := Nat.mod_eq_of_lt hlt
          have hsign : rank.val / signBit % 2 = 0 := by rw [Nat.div_eq_of_lt hlt]
          rw [hbits]
          simp only [ofBits, hmod, hsign, hrank]
          rfl
      | true =>
          have hbits : toBits (finite true rank) = signBit + rank.val := rfl
          have hmod : (signBit + rank.val) % signBit = rank.val := by
            rw [Nat.add_mod_left, Nat.mod_eq_of_lt hlt]
          have hsign : (signBit + rank.val) / signBit % 2 = 1 := by
            rw [Nat.add_div_left _ (by decide), Nat.div_eq_of_lt hlt]
          rw [hbits]
          simp only [ofBits, hmod, hsign, hrank]
          rfl
  | infinite negative => cases negative <;> rfl
  | nan => rfl

theorem isFinite_iff_units? (x : Binary64) : x.isFinite ↔ ∃ n, x.units? = some n := by
  cases x <;> simp [isFinite, units?]

end Binary64

end Remittance
