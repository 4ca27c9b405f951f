import Remittance.Text.CodePoint
import Remittance.Text.Printable

namespace Remittance.Text

def hexDigit (n : Nat) : Char :=
  if n < 10 then Char.ofNat (0x30 + n) else Char.ofNat (0x61 + (n - 10))

def hex : Nat → Nat → List Char
  | 0, _ => []
  | width + 1, n => hex width (n / 16) ++ [hexDigit (n % 16)]

/-- A text is quoted by apostrophes, or by double quotes where these alone do not occur in it. -/
def quoteMark (text : Text) : Char :=
  if text.contains '\'' && !text.contains '\"' then '\"' else '\''

def shownChar (mark c : Char) : List Char :=
  if c == mark || c == '\\' then ['\\', c]
  else if c == '\t' then ['\\', 't']
  else if c == '\n' then ['\\', 'n']
  else if c == '\r' then ['\\', 'r']
  else if isPrintable c then [c]
  else if c.toNat < 0x100 then '\\' :: 'x' :: hex 2 c.toNat
  else if c.toNat < 0x10000 then '\\' :: 'u' :: hex 4 c.toNat
  else '\\' :: 'U' :: hex 8 c.toNat

def shown (mark : Char) : CodePoint → List Char
  | .scalar c => shownChar mark c
  | .surrogate k => '\\' :: 'u' :: hex 4 (CodePoint.surrogate k).toNat

def quoted (text : Text) : List Char :=
  let mark := quoteMark text
  mark :: text.flatMap (shown mark) ++ [mark]

end Remittance.Text
