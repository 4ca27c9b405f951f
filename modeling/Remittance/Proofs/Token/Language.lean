import Mathlib.Data.List.Induction
import Mathlib.Data.Nat.Digits.Defs
import Remittance.Proofs.Token

namespace Remittance

open Remittance.Text

namespace Numeral

def places (row : Text) : List Nat :=
  row.reverse.map fun c => c.toNat - 0x30

private theorem value_eq_ofDigits (row : Text) : value row = Nat.ofDigits 10 (places row) := by
  induction row using List.reverseRecOn with
  | nil => rfl
  | append_singleton row c ih =>
      rw [value_append_digit, ih, Nat.add_comm]
      simp only [places, List.reverse_append, List.reverse_singleton, List.singleton_append,
        List.map_cons, Nat.ofDigits_cons]

private theorem value_eq_zero_iff {row : Text} (h : ∀ c ∈ row, isAsciiDigit c) :
    value row = 0 ↔ ∀ c ∈ row, c = .scalar '0' := by
  induction row using List.reverseRecOn with
  | nil => exact iff_of_true rfl (by simp)
  | append_singleton row c ih =>
      obtain ⟨hrow, hlast⟩ := List.forall_mem_append.mp h
      have hc := hlast c (List.mem_singleton_self c)
      have hzero : c.toNat - 0x30 = 0 ↔ c = .scalar '0' := by
        simp only [isAsciiDigit, Bool.and_eq_true, decide_eq_true_eq] at hc
        constructor
        · intro hle
          apply CodePoint.toNat_injective
          change c.toNat = 0x30
          omega
        · intro heq
          rw [heq]
          rfl
      rw [value_append_digit, List.forall_mem_append, List.forall_mem_singleton, ← ih hrow, ← hzero]
      omega

/-- The decimal digits of a number, after some zeros. -/
def padded (zeros n : Nat) : Text :=
  (List.replicate zeros '0' ++ Nat.toDigits 10 n).map .scalar

private theorem length_padded (zeros n : Nat) :
    (padded zeros n).length = zeros + (Nat.toDigits 10 n).length := by
  rw [padded, List.length_map, List.length_append, List.length_replicate]

private theorem length_padded_le {n width : Nat} (hpos : 0 < width) (h : n < Nat.pow 10 width) :
    (padded 0 n).length ≤ width := by
  rw [length_padded, Nat.zero_add]
  exact (Nat.length_toDigits_le_iff (by decide) hpos).mpr h

private theorem isAsciiDigit_of_isDigit {c : Char} (h : c.isDigit) : isAsciiDigit (.scalar c) := by
  simp only [Char.isDigit, Bool.and_eq_true, decide_eq_true_eq, ge_iff_le,
    UInt32.le_iff_toNat_le] at h
  simp only [isAsciiDigit, Bool.and_eq_true, decide_eq_true_eq]
  exact h

private theorem isNumeral_padded (zeros n : Nat) : isNumeral (padded zeros n) := by
  rw [isNumeral_iff]
  constructor
  · apply List.ne_nil_of_length_pos
    have := Nat.length_toDigits_pos (b := 10) (n := n)
    rw [length_padded]
    omega
  · simp only [padded, List.forall_mem_map, List.forall_mem_append]
    constructor
    · intro c hc
      obtain rfl := List.eq_of_mem_replicate hc
      rfl
    · intro c hc
      exact isAsciiDigit_of_isDigit (Nat.isDigit_of_mem_toDigits (by decide) (by decide) hc)

private theorem value_padded (zeros n : Nat) : value (padded zeros n) = n := by
  calc
    value (padded zeros n)
        = Nat.ofDigitChars 10 (List.replicate zeros '0' ++ Nat.toDigits 10 n) 0 := by
      rw [value, padded, List.foldl_map]
      rfl
    _ = n := by
      rw [Nat.ofDigitChars_append, Nat.ofDigitChars_replicate_zero, Nat.mul_zero,
        Nat.ofDigitChars_ten_toDigits]

end Numeral

namespace Token

variable {token : Text} {c : CodePoint}

def IsIdCharacter (c : CodePoint) : Prop :=
  (0x41 ≤ c.toNat ∧ c.toNat ≤ 0x5A) ∨ (0x61 ≤ c.toNat ∧ c.toNat ≤ 0x7A) ∨
    (0x30 ≤ c.toNat ∧ c.toNat ≤ 0x39) ∨
    c = .scalar '-' ∨ c = .scalar '.' ∨ c = .scalar '@'

private theorem isAlphanum_iff {c : Char} :
    c.isAlphanum ↔ (0x41 ≤ c.toNat ∧ c.toNat ≤ 0x5A) ∨ (0x61 ≤ c.toNat ∧ c.toNat ≤ 0x7A) ∨
      (0x30 ≤ c.toNat ∧ c.toNat ≤ 0x39) := by
  have hkinds : c.isAlphanum = ((c.isUpper || c.isLower) || c.isDigit) := rfl
  have hupper : c.isUpper ↔ 0x41 ≤ c.toNat ∧ c.toNat ≤ 0x5A := decide_eq_true_iff
  have hlower : c.isLower ↔ 0x61 ≤ c.toNat ∧ c.toNat ≤ 0x7A :=
    Bool.and_eq_true_iff.trans (and_congr decide_eq_true_iff decide_eq_true_iff)
  have hdigit : c.isDigit ↔ 0x30 ≤ c.toNat ∧ c.toNat ≤ 0x39 :=
    Bool.and_eq_true_iff.trans (and_congr decide_eq_true_iff decide_eq_true_iff)
  rw [hkinds, Bool.or_eq_true, Bool.or_eq_true, hupper, hlower, hdigit, or_assoc]

private theorem isIdLetter_iff : isIdLetter c ↔ IsIdCharacter c := by
  cases c with
  | scalar c =>
      simp only [isIdLetter, IsIdCharacter, Bool.or_eq_true, beq_iff_eq, isAlphanum_iff,
        CodePoint.toNat_scalar, CodePoint.scalar.injEq, or_assoc]
  | surrogate k =>
      simp only [isIdLetter, IsIdCharacter, CodePoint.toNat_surrogate, reduceCtorEq, or_false,
        Bool.false_eq_true, false_iff]
      omega

theorem isAccountId_iff : isAccountId token ↔ token ≠ [] ∧ ∀ c ∈ token, IsIdCharacter c := by
  simp [isAccountId, isIdLetter_iff]

/-- Digits of ASCII, not all of them zero. -/
structure IsPositiveRow (token : Text) : Prop where
  digits : ∀ c ∈ token, isAsciiDigit c
  nonzero : ∃ c ∈ token, c ≠ .scalar '0'

private theorem isPositiveRow_iff :
    IsPositiveRow token ↔ Numeral.isNumeral token ∧ 1 ≤ Numeral.value token := by
  have hpos (hdigits : ∀ c ∈ token, isAsciiDigit c) :
      1 ≤ Numeral.value token ↔ ∃ c ∈ token, c ≠ .scalar '0' := by
    rw [Nat.one_le_iff_ne_zero, ne_eq, Numeral.value_eq_zero_iff hdigits]
    simp only [not_forall, exists_prop]
  rw [Numeral.isNumeral_iff]
  constructor
  · intro h
    obtain ⟨c, hc, _⟩ := h.nonzero
    exact ⟨⟨List.ne_nil_of_mem hc, h.digits⟩, (hpos h.digits).mpr h.nonzero⟩
  · intro h
    exact ⟨h.1.2, (hpos h.1.2).mp h.2⟩

theorem isAmount_eq_true_iff :
    isAmount token = .ok true ↔ token.length ≤ digitLimit ∧ IsPositiveRow token := by
  have hread : isAmount token = .ok true ↔ ∃ amount, readAmount token = .ok (some amount) := by
    unfold isAmount
    rcases readAmount token with fault | _ | amount <;> simp [Except.map]
  simp only [hread, readAmount_eq_some_iff, isPositiveRow_iff]
  constructor
  · intro h
    obtain ⟨amount, hnumeral, hlength, hpos, rfl⟩ := h
    exact ⟨hlength, hnumeral, hpos⟩
  · intro h
    obtain ⟨hlength, hnumeral, hpos⟩ := h
    exact ⟨_, hnumeral, hlength, hpos, rfl⟩

theorem isAmount_eq_error_iff {fault : Fault} :
    isAmount token = .error fault ↔
      (Numeral.isNumeral token ∧ digitLimit < token.length) ∧
        fault = .tooManyDigits token.length := by
  rw [← readAmount_eq_error_iff]
  unfold isAmount
  rcases readAmount token with raised | _ | amount <;> simp [Except.map]

private theorem isAmount_of_length_le (h : token.length ≤ digitLimit) :
    ∃ accepted, isAmount token = .ok accepted ∧ (accepted ↔ IsPositiveRow token) := by
  cases haccepted : isAmount token with
  | error fault =>
      have hlong := (isAmount_eq_error_iff.mp haccepted).1.2
      omega
  | ok accepted =>
      refine ⟨accepted, rfl, ?_⟩
      rw [← and_iff_right h (b := IsPositiveRow token), ← isAmount_eq_true_iff, haccepted,
        Except.ok.injEq]

private theorem isAmount_of_lt_length (h : digitLimit < token.length) :
    ((∃ fault, isAmount token = .error fault) ↔ ∀ c ∈ token, isAsciiDigit c) ∧
      (isAmount token = .ok false ↔ ¬ ∀ c ∈ token, isAsciiDigit c) := by
  have hraises : (∃ fault, isAmount token = .error fault) ↔ ∀ c ∈ token, isAsciiDigit c := by
    have hne : token ≠ [] := List.ne_nil_of_length_pos (by omega)
    simp only [isAmount_eq_error_iff, Numeral.isNumeral_iff]
    simp [hne, h]
  refine ⟨hraises, ?_⟩
  rw [← hraises]
  rcases haccepted : isAmount token with fault | _ | _
  · simp
  · simp
  · have := (isAmount_eq_true_iff.mp haccepted).1
    omega

theorem readAmount_of_isPositiveRow (hlength : token.length ≤ digitLimit)
    (h : IsPositiveRow token) :
    Numeral.readWhole token = .ok (Nat.ofDigits 10 (Numeral.places token) : Nat) ∧
      readAmount token = .ok (some (Nat.ofDigits 10 (Numeral.places token))) := by
  obtain ⟨hnumeral, hpos⟩ := isPositiveRow_iff.mp h
  rw [← Numeral.value_eq_ofDigits]
  exact ⟨Numeral.readWhole_of_isNumeral hnumeral hlength,
    readAmount_eq_some_iff.mpr ⟨hnumeral, hlength, hpos, rfl⟩⟩

/-- Account ids are the texts over their letters, and amounts the rows of at most 4300 digits that
write a positive number, whatever zeros are in front. More digits are too many to be told, and
any other text is refused. -/
theorem accepts_exactly (token : Text) :
    (isAccountId token ↔ token ≠ [] ∧ ∀ c ∈ token, IsIdCharacter c) ∧
    (token.length ≤ digitLimit →
      (∃ accepted, isAmount token = .ok accepted ∧ (accepted ↔ IsPositiveRow token)) ∧
      (IsPositiveRow token →
        Numeral.readWhole token = .ok (Nat.ofDigits 10 (Numeral.places token) : Nat) ∧
        readAmount token = .ok (some (Nat.ofDigits 10 (Numeral.places token))))) ∧
    (∀ n, 1 ≤ n → n < Nat.pow 10 digitLimit →
      (Numeral.padded 0 n).length ≤ digitLimit ∧
      ∀ zeros, (Numeral.padded zeros n).length ≤ digitLimit →
        isAmount (Numeral.padded zeros n) = .ok true ∧
        Numeral.readWhole (Numeral.padded zeros n) = .ok (n : Int) ∧
        readAmount (Numeral.padded zeros n) = .ok (some n)) ∧
    (digitLimit < token.length →
      ((∃ fault, isAmount token = .error fault) ↔ ∀ c ∈ token, isAsciiDigit c) ∧
      (isAmount token = .ok false ↔ ¬ ∀ c ∈ token, isAsciiDigit c)) := by
  refine ⟨isAccountId_iff, fun h => ⟨isAmount_of_length_le h, readAmount_of_isPositiveRow h⟩, ?_,
    isAmount_of_lt_length⟩
  intro n hpos hlt
  refine ⟨Numeral.length_padded_le (by decide) hlt, fun zeros hzeros => ?_⟩
  have hnumeral := Numeral.isNumeral_padded zeros n
  have hvalue := Numeral.value_padded zeros n
  have hrow : IsPositiveRow (Numeral.padded zeros n) :=
    isPositiveRow_iff.mpr ⟨hnumeral, by rwa [hvalue]⟩
  have hread := readAmount_of_isPositiveRow hzeros hrow
  rw [← Numeral.value_eq_ofDigits, hvalue] at hread
  exact ⟨isAmount_eq_true_iff.mpr ⟨hzeros, hrow⟩, hread⟩

/-- Seven with two zeros in front, and the digits of another script. -/
theorem accepts_exactly_by_script :
    let seven : Text := "007"
    let twelve : Text := "\u0661\u0662"
    seven = Numeral.padded 2 7 ∧ isAmount seven = .ok true ∧ Numeral.readWhole seven = .ok 7 ∧
      isAmount twelve = .ok false ∧ Numeral.readWhole twelve = .ok 12 ∧ ¬ isAccountId twelve := by
  intro seven twelve
  have hseven : seven = Numeral.padded 2 7 := by decide
  obtain ⟨haccepted, hvalue, _⟩ :=
    ((accepts_exactly []).2.2.1 7 (by decide) (by decide +kernel)).2 2 (by decide)
  obtain ⟨⟨accepted, htwelve, hrow⟩, _⟩ := (accepts_exactly twelve).2.1 (by decide)
  obtain rfl : accepted = false := by
    rw [Bool.eq_false_iff, ne_eq, hrow]
    intro h
    exact absurd h.digits (by decide)
  refine ⟨hseven, ?_, ?_, htwelve, by decide +kernel, ?_⟩
  · rw [hseven, haccepted]
  · rw [hseven, hvalue]
    rfl
  · rw [(accepts_exactly twelve).1]
    intro h
    exact absurd (h.2 (.scalar '\u0661') (by decide)) (by unfold IsIdCharacter; decide)

end Token

end Remittance
