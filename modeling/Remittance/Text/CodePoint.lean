namespace Remittance

/-- A character, or half of a surrogate pair that stands alone. -/
inductive CodePoint
  | scalar (c : Char)
  | surrogate (k : Fin 0x800)
deriving Repr, DecidableEq

namespace CodePoint

instance : Coe Char CodePoint := ⟨scalar⟩

def toNat : CodePoint → Nat
  | scalar c => c.toNat
  | surrogate k => 0xD800 + k

def ofNat (n : Nat) : CodePoint :=
  if h : 0xD800 ≤ n ∧ n < 0xE000 then surrogate ⟨n - 0xD800, by omega⟩ else scalar (Char.ofNat n)

def isSurrogate : CodePoint → Bool
  | scalar _ => false
  | surrogate _ => true

/-- A surrogate is shown as the replacement character. -/
def toChar : CodePoint → Char
  | scalar c => c
  | surrogate _ => '\uFFFD'

@[simp] theorem toNat_scalar (c : Char) : (scalar c).toNat = c.toNat := rfl

@[simp] theorem toNat_surrogate (k : Fin 0x800) : (surrogate k).toNat = 0xD800 + k := rfl

private theorem toNat_scalar_ne_toNat_surrogate (c : Char) (k : Fin 0x800) :
    (scalar c).toNat ≠ (surrogate k).toNat := by
  have hc : c.toNat < 0xD800 ∨ (0xDFFF < c.toNat ∧ c.toNat < 0x110000) := c.valid
  simp only [toNat_scalar, toNat_surrogate]
  omega

theorem toNat_injective {a b : CodePoint} (h : a.toNat = b.toNat) : a = b := by
  cases a with
  | scalar c =>
      cases b with
      | scalar d => exact congrArg scalar (Char.ext (UInt32.toNat_inj.mp h))
      | surrogate k => exact absurd h (toNat_scalar_ne_toNat_surrogate c k)
  | surrogate k =>
      cases b with
      | scalar d => exact absurd h.symm (toNat_scalar_ne_toNat_surrogate d k)
      | surrogate l =>
          simp only [toNat_surrogate] at h
          exact congrArg surrogate (Fin.ext (by omega))

end CodePoint

abbrev Text := List CodePoint

namespace Text

def ofString (string : String) : Text :=
  string.toList.map .scalar

instance : Coe String Text := ⟨ofString⟩

protected def toString (text : Text) : String :=
  String.ofList (text.map CodePoint.toChar)

/-- The first run of surrogates, after its place. -/
def surrogateRun? (text : Text) : Option (Nat × Text) :=
  (text.findIdx? CodePoint.isSurrogate).map fun start =>
    (start, (text.drop start).takeWhile CodePoint.isSurrogate)

theorem surrogateRun?_eq_none_iff {text : Text} :
    text.surrogateRun? = none ↔ ∀ c ∈ text, c.isSurrogate = false := by
  simp [surrogateRun?, List.findIdx?_eq_none_iff]

theorem isSurrogate_of_mem_ofString {string : String} {c : CodePoint} (h : c ∈ ofString string) :
    c.isSurrogate = false := by
  obtain ⟨d, _, rfl⟩ := List.mem_map.mp h
  rfl

def isBlank (c : CodePoint) : Bool :=
  let n := c.toNat
  (0x09 ≤ n && n ≤ 0x0D) || (0x1C ≤ n && n ≤ 0x20) || n == 0x85 || n == 0xA0 || n == 0x1680 ||
    (0x2000 ≤ n && n ≤ 0x200A) || n == 0x2028 || n == 0x2029 || n == 0x202F || n == 0x205F ||
    n == 0x3000

def isSpace (c : CodePoint) : Bool :=
  c == ' '

theorem isBlank_of_isSpace {c : CodePoint} (h : isSpace c) : isBlank c := by
  have hc : c = .scalar ' ' := by simpa [isSpace] using h
  subst hc
  decide

/-- The zeros of Unicode 14, in ascending order. -/
def digitZeros : List Nat := [
  0x0030, 0x0660, 0x06F0, 0x07C0, 0x0966, 0x09E6, 0x0A66, 0x0AE6, 0x0B66, 0x0BE6,
  0x0C66, 0x0CE6, 0x0D66, 0x0DE6, 0x0E50, 0x0ED0, 0x0F20, 0x1040, 0x1090, 0x17E0,
  0x1810, 0x1946, 0x19D0, 0x1A80, 0x1A90, 0x1B50, 0x1BB0, 0x1C40, 0x1C50, 0xA620,
  0xA8D0, 0xA900, 0xA9D0, 0xA9F0, 0xAA50, 0xABF0, 0xFF10, 0x104A0, 0x10D30, 0x11066,
  0x110F0, 0x11136, 0x111D0, 0x112F0, 0x11450, 0x114D0, 0x11650, 0x116C0, 0x11730, 0x118E0,
  0x11950, 0x11C50, 0x11D50, 0x11DA0, 0x16A60, 0x16AC0, 0x16B50, 0x1D7CE, 0x1D7D8, 0x1D7E2,
  0x1D7EC, 0x1D7F6, 0x1E140, 0x1E2F0, 0x1E950, 0x1FBF0]

def digitValue? (c : CodePoint) : Option Nat :=
  (digitZeros.find? fun z => z ≤ c.toNat && c.toNat < z + 10).map (c.toNat - ·)

def isAsciiDigit (c : CodePoint) : Bool :=
  0x30 ≤ c.toNat && c.toNat ≤ 0x39

end Text

end Remittance
