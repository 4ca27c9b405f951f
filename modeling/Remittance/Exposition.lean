import Remittance.Binary64.Decimal
import Remittance.Metrics

namespace Remittance.Exposition

open Remittance.Binary64

/-! How a number is exposed: by its shortest digits, positionally from 10⁻⁴ on and as long as the
whole part has at most six digits; exponents have two digits or more. Negative numbers are
positional up to sixteen digits. -/

def zeros (n : Nat) : List Char :=
  List.replicate n '0'

/-- `point` is the place of the decimal point among the digits. -/
def positional (digits : List Char) (point : Int) : List Char :=
  if point ≤ 0 then '0' :: '.' :: zeros (-point).toNat ++ digits
  else if digits.length ≤ point.toNat then
    digits ++ zeros (point.toNat - digits.length) ++ ['.', '0']
  else digits.take point.toNat ++ '.' :: digits.drop point.toNat

def exponentText (exponent : Int) : List Char :=
  let magnitude := Nat.toDigits 10 exponent.natAbs
  (if exponent < 0 then '-' else '+') :: zeros (2 - magnitude.length) ++ magnitude

def scientific (digits : List Char) (point : Int) : List Char :=
  let mantissa := match digits with
    | first :: second :: rest => first :: '.' :: second :: rest
    | _ => digits
  mantissa ++ 'e' :: exponentText (point - 1)

def finiteText (negative : Bool) (rank : Nat) : List Char :=
  if rank = 0 then ['0', '.', '0']
  else
    let short := shortest rank
    let digits := Nat.toDigits 10 short.coefficient
    let point := digits.length + short.exponent
    if -4 < point ∧ point ≤ (if negative then 16 else 6) then positional digits point
    else scientific digits point

def numberText : Binary64 → String
  | .nan => "NaN"
  | .infinite negative => if negative then "-Inf" else "+Inf"
  | .finite negative rank =>
      String.ofList ((if negative then ['-'] else []) ++ finiteText negative rank)

def labelText (text : String) : List Char :=
  text.toList.flatMap fun c =>
    if c == '\\' then ['\\', '\\']
    else if c == '\n' then ['\\', 'n']
    else if c == '\"' then ['\\', '\"']
    else [c]

def labelPair (name value : String) : String :=
  name ++ "=\"" ++ String.ofList (labelText value) ++ "\""

def line (series : String) (labels : List (String × String)) (value : Binary64) : String :=
  series ++ "\x7b" ++ ",".intercalate (labels.map fun l => labelPair l.1 l.2) ++ "\x7d " ++
    numberText value

def instructionLine (row : List String × Binary64) : String :=
  line "payment_instruction_total" (["status", "status_code"].zip row.1) row.2

def amountLine (row : List String × Binary64) : String :=
  line "payment_transfer_amount_total" (["currency"].zip row.1) row.2

def requestLine (row : List String × Binary64) : String :=
  let labels := (["method", "endpoint", "status"].zip row.1).mergeSort fun a b => a.1 ≤ b.1
  line "http_request_duration_seconds_count" labels row.2

def lines (metrics : Metrics) : List String :=
  (metrics.outcomes.map instructionLine ++ metrics.amounts.map amountLine ++
    metrics.answers.map requestLine).mergeSort fun a b => a ≤ b

end Remittance.Exposition
