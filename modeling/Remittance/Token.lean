import Remittance.Fault
import Remittance.Text.Uppercase

namespace Remittance.Numeral

open Remittance.Text

def value (digits : Text) : Nat :=
  digits.foldl (fun n c => 10 * n + (c.toNat - 0x30)) 0

def isNumeral (text : Text) : Bool :=
  !text.isEmpty && text.all isAsciiDigit

/-- Outside ASCII a blank reads as a space and a digit as its ASCII form; whatever else ends it. -/
def plain : Text → Text
  | [] => []
  | c :: text =>
      if c.toNat < 0x7F then c :: plain text
      else if isBlank c then .scalar ' ' :: plain text
      else
        match digitValue? c with
        | some d => .scalar (Char.ofNat (0x30 + d)) :: plain text
        | none => [.scalar '?']

def isAsciiBlank (c : CodePoint) : Bool :=
  (0x09 ≤ c.toNat && c.toNat ≤ 0x0D) || c == ' '

def splitSign : Text → Bool × Text
  | .scalar '+' :: text => (false, text)
  | .scalar '-' :: text => (true, text)
  | text => (false, text)

def wellSpaced : Text → Bool
  | [] => true
  | [.scalar '_'] => false
  | .scalar '_' :: .scalar '_' :: _ => false
  | _ :: text => wellSpaced text

/-- A whole number may have blanks around it, a sign, and single underscores between digits. -/
def readWhole (text : Text) : Except Fault Int :=
  let invalid : Except Fault Int := .error (.notWhole text)
  let ascii := if text.all (·.toNat < 0x80) then text else plain text
  let (negative, body) := splitSign (ascii.dropWhile isAsciiBlank)
  let isPart := fun c => isAsciiDigit c || c == '_'
  let row := body.takeWhile isPart
  let digits := row.filter isAsciiDigit
  if row.head? == some (.scalar '_') || !wellSpaced row then invalid
  else if digits.length > digitLimit then .error (.tooManyDigits digits.length)
  else if digits.isEmpty || !(body.dropWhile isPart).all isAsciiBlank then invalid
  else
    let n : Int := value digits
    .ok (if negative then -n else n)

end Remittance.Numeral

namespace Remittance.Token

open Remittance.Text

/-- The number that an amount token writes: digits only, and not zero. -/
def readAmount (token : Text) : Except Fault (Option Nat) :=
  if !Numeral.isNumeral token then .ok none
  else if token.length > digitLimit then .error (.tooManyDigits token.length)
  else if Numeral.value token = 0 then .ok none
  else .ok (some (Numeral.value token))

def isAmount (token : Text) : Except Fault Bool :=
  (readAmount token).map Option.isSome

def supportedCurrencies : List Text := ["NGN", "USD", "GBP", "GHS"]

def isCurrency (token : Text) : Bool :=
  supportedCurrencies.contains token.upper

def isIdLetter : CodePoint → Bool
  | .scalar c => c.isAlphanum || c == '-' || c == '.' || c == '@'
  | .surrogate _ => false

def isAccountId (token : Text) : Bool :=
  !token.isEmpty && token.all isIdLetter

end Remittance.Token
