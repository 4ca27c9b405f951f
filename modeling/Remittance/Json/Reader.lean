import Remittance.Binary64.Decimal
import Remittance.Json
import Remittance.Json.Encoding
import Remittance.Token

namespace Remittance.Json

open Remittance.Text

/-! Reading a JSON text. A text that is not JSON is malformed at a place, counted in characters; a
numeral that is too long, or nesting that is too deep, is refused. -/

inductive ReadError
  | malformed (offset : Nat)
  | refused
deriving Repr, DecidableEq

structure Cursor where
  offset : Nat
  rest : Text
deriving Repr, DecidableEq

namespace Cursor

def skip (cursor : Cursor) (n : Nat) : Cursor :=
  ⟨cursor.offset + n, cursor.rest.drop n⟩

def isSpace (c : CodePoint) : Bool :=
  c == ' ' || c == '\t' || c == '\n' || c == '\r'

def skipSpace (cursor : Cursor) : Cursor :=
  cursor.skip (cursor.rest.takeWhile isSpace).length

end Cursor

def hexValue? (c : CodePoint) : Option Nat :=
  let n := c.toNat
  if 0x30 ≤ n ∧ n ≤ 0x39 then some (n - 0x30)
  else if 0x61 ≤ n ∧ n ≤ 0x66 then some (n - 0x61 + 10)
  else if 0x41 ≤ n ∧ n ≤ 0x46 then some (n - 0x41 + 10)
  else none

def hexValues? (digits : Text) : Option Nat :=
  digits.foldl (fun n c => n.bind fun n => (hexValue? c).map (16 * n + ·)) (some 0)

def escaped? : CodePoint → Option Char
  | .scalar '\"' => some '\"'
  | .scalar '\\' => some '\\'
  | .scalar '/' => some '/'
  | .scalar 'b' => some '\x08'
  | .scalar 'f' => some '\x0C'
  | .scalar 'n' => some '\n'
  | .scalar 'r' => some '\r'
  | .scalar 't' => some '\t'
  | _ => none

/-- The text up to the closing quote; halves of a pair are joined if both are escaped. A string
without an end is malformed at its opening quote, a numbered escape at its letter. -/
def readCharacters (start : Nat) (taken : List Piece) (offset : Nat) :
    Text → Except ReadError (Text × Cursor)
  | [] => .error (.malformed start)
  | [.scalar '\\'] => .error (.malformed start)
  | .scalar '\\' :: .scalar 'u' :: a :: b :: c :: d :: rest =>
      match hexValues? [a, b, c, d], rest with
      | some n, _ :: _ => readCharacters start (.unit n :: taken) (offset + 6) rest
      | _, _ => .error (.malformed (offset + 1))
  | .scalar '\\' :: .scalar 'u' :: _ => .error (.malformed (offset + 1))
  | .scalar '\\' :: c :: rest =>
      match escaped? c with
      | some d => readCharacters start (.whole d :: taken) (offset + 2) rest
      | none => .error (.malformed offset)
  | c :: rest =>
      if c == '\"' then .ok (Piece.text taken.reverse, ⟨offset + 1, rest⟩)
      else if c.toNat < 0x20 then .error (.malformed offset)
      else readCharacters start (.whole c :: taken) (offset + 1) rest

def readString (cursor : Cursor) : Except ReadError (Text × Cursor) :=
  readCharacters cursor.offset [] (cursor.offset + 1) (cursor.rest.drop 1)

structure NumberText where
  negative : Bool
  integer : Text
  fraction : Text
  exponent : Option Int
  length : Nat
deriving Repr, DecidableEq

def splitInteger : Text → Text × Text
  | .scalar '0' :: rest => ([.scalar '0'], rest)
  | text => (text.takeWhile isAsciiDigit, text.dropWhile isAsciiDigit)

/-- A point counts only with a digit after it. -/
def splitFraction : Text → Text × Text
  | .scalar '.' :: rest =>
      let digits := rest.takeWhile isAsciiDigit
      if digits.isEmpty then ([], .scalar '.' :: rest) else (digits, rest.dropWhile isAsciiDigit)
  | text => ([], text)

/-- An exponent counts only with a digit in it; its length is told with it. -/
def splitExponent : Text → Option (Int × Nat)
  | c :: rest =>
      if c == 'e' || c == 'E' then
        let (negative, body) := Numeral.splitSign rest
        let digits := body.takeWhile isAsciiDigit
        let signed := rest.head?.any fun c : CodePoint => c == '+' || c == '-'
        let n : Int := Numeral.value digits
        if digits.isEmpty then none
        else some (if negative then -n else n, 1 + signed.toNat + digits.length)
      else none
  | [] => none

def numberText? (text : Text) : Option NumberText :=
  let negative := text.head? == some (.scalar '-')
  let body := if negative then text.drop 1 else text
  let (integer, rest) := splitInteger body
  let (fraction, rest) := splitFraction rest
  if integer.isEmpty then none
  else
    let exponent := splitExponent rest
    some {
      negative, integer, fraction
      exponent := exponent.map (·.1)
      length := negative.toNat + integer.length +
        (if fraction.isEmpty then 0 else fraction.length + 1) + (exponent.map (·.2)).getD 0 }

def NumberText.isWhole (number : NumberText) : Bool :=
  number.fraction.isEmpty && number.exponent.isNone

def NumberText.toJson (number : NumberText) : Except ReadError Json :=
  if number.isWhole then
    if number.integer.length > digitLimit then .error .refused
    else
      let n : Int := Numeral.value number.integer
      .ok (.whole (if number.negative then -n else n))
  else
    .ok (.binary (Binary64.ofDecimal number.negative
      (Numeral.value (number.integer ++ number.fraction))
      (number.exponent.getD 0 - number.fraction.length)))

def readNumber (cursor : Cursor) : Except ReadError (Json × Cursor) :=
  match numberText? cursor.rest with
  | none => .error (.malformed cursor.offset)
  | some number => number.toJson.map fun value => (value, cursor.skip number.length)

def literals : List (Text × Json) := [
  ("null", .null),
  ("true", .bool true),
  ("false", .bool false),
  ("NaN", .binary .nan),
  ("Infinity", .binary (.infinite false)),
  ("-Infinity", .binary (.infinite true))]

def literal? (cursor : Cursor) : Option (Json × Cursor) :=
  (literals.find? (·.1.isPrefixOf cursor.rest)).map fun l => (l.2, cursor.skip l.1.length)

/-! Values. The fuel bounds the number of steps, and `depth` the levels of nesting. -/

mutual

def readValue : Nat → Nat → Cursor → Except ReadError (Json × Cursor)
  | 0, _, _ => .error .refused
  | fuel + 1, depth, cursor =>
      match cursor.rest.head? with
      | some (.scalar '\"') => (readString cursor).map fun r => (.string r.1, r.2)
      | some (.scalar '[') =>
          match depth with
          | 0 => .error .refused
          | depth + 1 =>
              let inside := (cursor.skip 1).skipSpace
              if inside.rest.head? == some (.scalar ']') then .ok (.array [], inside.skip 1)
              else readItems fuel depth [] inside
      | some (.scalar '\x7b') =>
          match depth with
          | 0 => .error .refused
          | depth + 1 =>
              let inside := (cursor.skip 1).skipSpace
              if inside.rest.head? == some (.scalar '\x7d') then .ok (.object [], inside.skip 1)
              else readMembers fuel depth [] inside
      | _ =>
          match literal? cursor with
          | some found => .ok found
          | none => readNumber cursor

def readItems : Nat → Nat → List Json → Cursor → Except ReadError (Json × Cursor)
  | 0, _, _, _ => .error .refused
  | fuel + 1, depth, taken, cursor =>
      match readValue fuel depth cursor with
      | .error e => .error e
      | .ok (item, after) =>
          let next := after.skipSpace
          match next.rest.head? with
          | some (.scalar ']') => .ok (.array (item :: taken).reverse, next.skip 1)
          | some (.scalar ',') => readItems fuel depth (item :: taken) (next.skip 1).skipSpace
          | _ => .error (.malformed next.offset)

def readMembers : Nat → Nat → List (Text × Json) → Cursor → Except ReadError (Json × Cursor)
  | 0, _, _, _ => .error .refused
  | fuel + 1, depth, taken, cursor =>
      if cursor.rest.head? != some (.scalar '\"') then .error (.malformed cursor.offset)
      else
        match readString cursor with
        | .error e => .error e
        | .ok (name, afterName) =>
            let colon := afterName.skipSpace
            if colon.rest.head? != some (.scalar ':') then .error (.malformed colon.offset)
            else
              match readValue fuel depth (colon.skip 1).skipSpace with
              | .error e => .error e
              | .ok (value, after) =>
                  let next := after.skipSpace
                  match next.rest.head? with
                  | some (.scalar '\x7d') =>
                      .ok (.object ((name, value) :: taken).reverse, next.skip 1)
                  | some (.scalar ',') =>
                      readMembers fuel depth ((name, value) :: taken) (next.skip 1).skipSpace
                  | _ => .error (.malformed next.offset)

end

/-- How many levels of nesting are read. A level takes one call of the interpreter, which allows a
thousand; the others are taken already where a body is read. -/
def depthLimit : Nat := 970

/-- A text holds one value; whatever follows it but blanks is malformed. -/
def ofText (text : Text) : Except ReadError Json :=
  match readValue (2 * text.length + 2) depthLimit (Cursor.skipSpace ⟨0, text⟩) with
  | .error e => .error e
  | .ok (value, after) =>
      let stop := after.skipSpace
      if stop.rest.isEmpty then .ok value else .error (.malformed stop.offset)

def ofBytes (bytes : List Nat) : Except ReadError Json :=
  match decode bytes with
  | none => .error .refused
  | some text => ofText text

end Remittance.Json
