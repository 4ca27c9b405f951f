import Remittance.Text.CodePoint
import Remittance.Text.Uppercase.Table

namespace Remittance.Text

def CaseRun.capital? (run : CaseRun) (n : Nat) : Option Nat :=
  if run.first ≤ n ∧ n ≤ run.last ∧ (n - run.first) % run.step = 0 then
    some (run.target + (n - run.first))
  else none

def letterCapitals (c : Char) : List Char :=
  if c.toNat < 0x80 then [c.toUpper]
  else
    match caseExpansions.lookup c.toNat with
    | some several => several.map Char.ofNat
    | none =>
        match caseRuns.findSome? (·.capital? c.toNat) with
        | some one => [Char.ofNat one]
        | none => [c]

def capitals : CodePoint → Text
  | .scalar c => (letterCapitals c).map .scalar
  | .surrogate k => [.surrogate k]

def upper (text : Text) : Text :=
  text.flatMap capitals

@[simp] theorem capitals_scalar (c : Char) :
    capitals (.scalar c) = (letterCapitals c).map .scalar := rfl

@[simp] theorem capitals_surrogate (k : Fin 0x800) :
    capitals (.surrogate k) = [.surrogate k] := rfl

@[simp] theorem upper_nil : upper [] = [] := rfl

@[simp] theorem upper_cons (c : CodePoint) (text : Text) :
    upper (c :: text) = capitals c ++ upper text := rfl

@[simp] theorem upper_append (a b : Text) : upper (a ++ b) = upper a ++ upper b := by
  simp [upper]

end Remittance.Text
