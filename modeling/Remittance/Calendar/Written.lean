import Remittance.Calendar
import Remittance.Token
import Remittance.Text.Field

namespace Remittance.Date

open Remittance.Text

def isDash (c : CodePoint) : Bool :=
  c == '-'

def isRow (width : Nat) (row : Text) : Bool :=
  row.length == width && row.all isAsciiDigit

def monthLength (year month : Int) : Except Fault Nat :=
  (monthLength? year month).elim (.error (.monthOutOfRange month)) .ok

/-- Whether a text is the written form of a day of the calendar. -/
def checkWritten (text : Text) : Except Fault Bool :=
  match fields isDash text with
  | [year, month, day] =>
      if isRow 4 year ∧ isRow 2 month ∧ isRow 2 day then do
        let y ← Numeral.readWhole year
        let m ← Numeral.readWhole month
        let d ← Numeral.readWhole day
        if m < 1 ∨ 12 < m then pure false
        else do
          let length ← monthLength y m
          pure (decide (1 ≤ d ∧ d ≤ length))
      else pure false
  | _ => pure false

def isWritten (text : Text) : Bool :=
  (checkWritten text).toOption.getD false

/-- The last `width` decimal digits of `n`. -/
def digits : Nat → Nat → Text
  | 0, _ => []
  | width + 1, n => digits width (n / 10) ++ [.scalar (Char.ofNat (0x30 + n % 10))]

def written (date : Date) : Text :=
  digits 4 date.year.toNat ++ .scalar '-' :: digits 2 date.month ++
    .scalar '-' :: digits 2 date.day

def readParts (text : Text) : Except Fault (Int × Int × Int) :=
  match fields isDash text with
  | [year, month, day] => do
      let y ← Numeral.readWhole year
      let m ← Numeral.readWhole month
      let d ← Numeral.readWhole day
      pure (y, m, d)
  | parts => .error (if parts.length < 3 then .tooFewParts parts.length else .tooManyParts)

def orderParts (parts : Int × Int × Int) (date : Date) : Ordering :=
  (compare parts.1 date.year).then
    ((compare parts.2.1 (date.month : Int)).then (compare parts.2.2 (date.day : Int)))

def compareText (text : Text) (date : Date) : Except Fault Ordering :=
  (readParts text).map (orderParts · date)

def ofWritten? (text : Text) : Option Date :=
  if isWritten text then
    match fields isDash text with
    | [year, month, day] =>
        some ⟨Numeral.value year, Numeral.value month, Numeral.value day⟩
    | _ => none
  else none

end Remittance.Date
