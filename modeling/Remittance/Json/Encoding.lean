import Remittance.Text.CodePoint

namespace Remittance.Json

/-- Told by the byte order mark of a body, or by where zero bytes stand among the first four. -/
inductive Encoding
  | utf8
  | utf16 (bigEndian : Bool)
  | utf32 (bigEndian : Bool)
deriving Repr, DecidableEq

namespace Encoding

def ofZeros : List Nat → Encoding
  | [0, _] => utf16 true
  | [_, 0] => utf16 false
  | a :: b :: c :: d :: _ =>
      if a = 0 then (if b = 0 then utf32 true else utf16 true)
      else if b = 0 then (if c = 0 ∧ d = 0 then utf32 false else utf16 false)
      else utf8
  | _ => utf8

/-- The encoding of a body and the bytes after its byte order mark. -/
def detect : List Nat → Encoding × List Nat
  | 0x00 :: 0x00 :: 0xFE :: 0xFF :: rest => (utf32 true, rest)
  | 0xFF :: 0xFE :: 0x00 :: 0x00 :: rest => (utf32 false, rest)
  | 0xFE :: 0xFF :: rest => (utf16 true, rest)
  | 0xFF :: 0xFE :: rest => (utf16 false, rest)
  | 0xEF :: 0xBB :: 0xBF :: rest => (utf8, rest)
  | bytes => (ofZeros bytes, bytes)

end Encoding

def isHighSurrogate (n : Nat) : Bool :=
  0xD800 ≤ n && n < 0xDC00

def isLowSurrogate (n : Nat) : Bool :=
  0xDC00 ≤ n && n < 0xE000

def joinSurrogates (high low : Nat) : Nat :=
  0x10000 + (high - 0xD800) * 0x400 + (low - 0xDC00)

/-- A piece of a text: a code point, or a unit that may be half of a pair. -/
inductive Piece
  | whole (c : CodePoint)
  | unit (n : Nat)
deriving Repr, DecidableEq

namespace Piece

def codePoint : Piece → CodePoint
  | whole c => c
  | unit n => .ofNat n

/-- Puts a piece before others, joined with the first of these if they are the halves of a pair. -/
def join : Piece → List Piece → List Piece
  | unit high, unit low :: rest =>
      if isHighSurrogate high && isLowSurrogate low then
        whole (.ofNat (joinSurrogates high low)) :: rest
      else unit high :: unit low :: rest
  | piece, rest => piece :: rest

def text (pieces : List Piece) : Text :=
  (pieces.foldr join []).map codePoint

end Piece

def isTrail (n : Nat) : Bool :=
  0x80 ≤ n && n < 0xC0

def trailBits (n : Nat) : Nat :=
  n - 0x80

/-- The shortest form only, up to U+10FFFF. -/
def nextUtf8 : List Nat → Option (Nat × List Nat)
  | [] => none
  | a :: rest =>
      if a < 0x80 then some (a, rest)
      else if a < 0xC2 then none
      else if a < 0xE0 then
        match rest with
        | b :: rest => if isTrail b then some ((a - 0xC0) * 0x40 + trailBits b, rest) else none
        | [] => none
      else if a < 0xF0 then
        match rest with
        | b :: c :: rest =>
            let n := (a - 0xE0) * 0x1000 + trailBits b * 0x40 + trailBits c
            if isTrail b && isTrail c && 0x800 ≤ n then some (n, rest) else none
        | _ => none
      else
        match rest with
        | b :: c :: d :: rest =>
            let n :=
              (a - 0xF0) * 0x40000 + trailBits b * 0x1000 + trailBits c * 0x40 + trailBits d
            if isTrail b && isTrail c && isTrail d && 0x10000 ≤ n && n < 0x110000 then
              some (n, rest)
            else none
        | _ => none

def nextUtf16 (bigEndian : Bool) : List Nat → Option (Nat × List Nat)
  | a :: b :: rest => some (if bigEndian then a * 0x100 + b else b * 0x100 + a, rest)
  | _ => none

def nextUtf32 (bigEndian : Bool) : List Nat → Option (Nat × List Nat)
  | a :: b :: c :: d :: rest =>
      let n := if bigEndian then ((a * 0x100 + b) * 0x100 + c) * 0x100 + d
        else ((d * 0x100 + c) * 0x100 + b) * 0x100 + a
      if n < 0x110000 then some (n, rest) else none
  | _ => none

/-- Takes numbers off the front until nothing is left; each takes one byte or more. -/
def takeAll (next : List Nat → Option (Nat × List Nat)) (taken : List Nat) :
    Nat → List Nat → Option (List Nat)
  | _, [] => some taken.reverse
  | 0, _ => none
  | fuel + 1, bytes =>
      match next bytes with
      | none => none
      | some (n, rest) => takeAll next (n :: taken) fuel rest

def decode (bytes : List Nat) : Option Text :=
  let (encoding, body) := Encoding.detect bytes
  match encoding with
  | .utf8 => (takeAll nextUtf8 [] body.length body).map (·.map .ofNat)
  | .utf16 bigEndian =>
      (takeAll (nextUtf16 bigEndian) [] body.length body).map fun units =>
        Piece.text (units.map .unit)
  | .utf32 bigEndian => (takeAll (nextUtf32 bigEndian) [] body.length body).map (·.map .ofNat)

end Remittance.Json
