import Remittance.Text.Quoted

namespace Remittance

inductive Fault
  | unknownCode (text : String)
  | unknownLevel (text : String)
  | monthOutOfRange (month : Int)
  | tooFewParts (count : Nat)
  | tooManyParts
  | notWhole (text : Text)
  | tooManyDigits (count : Nat)
  | beyondBinary64
  | negativeIncrement
  | unencodable (start : Nat) (run : Text)
  | absentToken
  | absentAccount (detail : String)
  | absentAmount (againstBinary64 : Bool)
deriving Repr, DecidableEq

/-- The longest numeral that is read. -/
def digitLimit : Nat := 4300

namespace Fault

def message : Fault → String
  | unknownCode text => String.ofList (Text.quoted text)
  | unknownLevel text => "Unknown level: " ++ String.ofList (Text.quoted text)
  | monthOutOfRange month =>
      if -0x8000000000000000 < month ∧ month ≤ 0x8000000000000000 then "list index out of range"
      else "cannot fit 'int' into an index-sized integer"
  | tooFewParts count =>
      "not enough values to unpack (expected 3, got " ++ toString count ++ ")"
  | tooManyParts => "too many values to unpack (expected 3)"
  | notWhole text =>
      "invalid literal for int() with base 10: " ++
        String.ofList ((Text.quoted text).take 200)
  | tooManyDigits count =>
      "Exceeds the limit (" ++ toString digitLimit ++
        " digits) for integer string conversion: value has " ++ toString count ++
        " digits; use sys.set_int_max_str_digits() to increase the limit"
  | beyondBinary64 => "int too large to convert to float"
  | negativeIncrement => "Counters can only be incremented by non-negative amounts."
  | unencodable start run =>
      "Error serializing to JSON: UnicodeEncodeError: 'utf-8' codec can't encode character" ++
        (if run.length = 1 then
          " " ++ String.ofList (Text.quoted run) ++ " in position " ++ toString start
        else
          "s in position " ++ toString start ++ "-" ++ toString (start + run.length - 1)) ++
        ": surrogates not allowed"
  | absentToken => "'NoneType' object has no attribute 'upper'"
  | absentAccount detail => "'NoneType' object has no attribute '" ++ detail ++ "'"
  | absentAmount againstBinary64 =>
      "'>' not supported between instances of 'NoneType' and '" ++
        (if againstBinary64 then "float" else "int") ++ "'"

end Fault

end Remittance
