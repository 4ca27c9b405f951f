import Mathlib.Data.List.TakeWhile
import Remittance.Proofs.Text.Capitals
import Remittance.Token

namespace Remittance

open Remittance.Text

theorem Text.ne_of_isAsciiDigit {c d : CodePoint} (h : isAsciiDigit c)
    (hd : isAsciiDigit d = false) : c ≠ d := by
  intro heq
  subst heq
  rw [h] at hd
  contradiction

private theorem Text.capitals_of_isAsciiDigit {c : CodePoint} (h : isAsciiDigit c) :
    capitals c = [c] := by
  have hall : ∀ n ∈ List.range' 0x30 10, letterCapitals (Char.ofNat n) = [Char.ofNat n] := by
    decide
  simp only [isAsciiDigit, Bool.and_eq_true, decide_eq_true_eq] at h
  cases c with
  | scalar c =>
      have hmem : c.toNat ∈ List.range' 0x30 10 := by
        rw [CodePoint.toNat_scalar] at h
        rw [List.mem_range'_1]
        omega
      simpa using hall c.toNat hmem
  | surrogate k =>
      rw [CodePoint.toNat_surrogate] at h
      omega

private theorem Text.eq_of_mem_letterCapitals {c d : Char} (h : d ∈ letterCapitals c)
    (hd : isAsciiDigit (.scalar d)) : c = d := by
  obtain ⟨several, hseveral, heq⟩ := letterCapitals_eq_map c
  obtain ⟨capital, hcapital, rfl⟩ := List.mem_map.mp (heq ▸ h)
  rcases hseveral.capital_cases hcapital with rfl | ⟨small, rfl⟩ | ⟨run, closed, m, found⟩
  · obtain rfl := List.mem_singleton.mp hcapital
    exact (Char.ofNat_toNat c).symm
  · have hall : ∀ n < 0x80, let d := (Char.ofNat n).toUpper
        isAsciiDigit (.scalar d) → Char.ofNat n = d := by
      decide
    simp only [Char.ofNat_toNat] at hd ⊢
    simpa [hd] using hall c.toNat small
  · -- No capital of the table stands among the digits.
    obtain ⟨hlow, hhigh⟩ := run.mem_span_of_capital? found
    simp only [CaseRun.isClosed, Bool.and_eq_true] at closed
    have valid := isValidChar_of_isCapitalSpan closed.1.1 hlow hhigh
    have span := closed.1.1
    simp only [isCapitalSpan, Bool.or_eq_true, Bool.and_eq_true, Nat.blt_eq] at span
    simp only [isAsciiDigit, CodePoint.toNat_scalar, toNat_ofNat_of_isValidChar valid,
      Bool.and_eq_true, decide_eq_true_eq] at hd
    omega

theorem Text.eq_of_mem_capitals {c d : CodePoint} (h : d ∈ capitals c) (hd : isAsciiDigit d) :
    c = d := by
  cases c with
  | scalar c =>
      obtain ⟨letter, hletter, rfl⟩ := List.mem_map.mp h
      rw [eq_of_mem_letterCapitals hletter hd]
  | surrogate k => exact (List.mem_singleton.mp h).symm

namespace Numeral

variable {digits : Text}

theorem isNumeral_iff {text : Text} :
    isNumeral text ↔ text ≠ [] ∧ ∀ c ∈ text, isAsciiDigit c := by
  simp [isNumeral]

theorem upper_of_isNumeral (h : isNumeral digits) : upper digits = digits := by
  apply upper_of_forall_capitals
  intro c hc
  exact capitals_of_isAsciiDigit ((isNumeral_iff.mp h).2 c hc)

private theorem eq_of_upper_eq {other : Text} (h : isNumeral digits)
    (heq : upper other = upper digits) :
    other = digits := by
  rw [upper_of_isNumeral h] at heq
  have hfixed : upper other = other := by
    apply upper_of_forall_capitals
    intro c hc
    obtain ⟨d, hd⟩ := List.exists_mem_of_ne_nil _ (capitals_ne_nil c)
    have hdigit : isAsciiDigit d :=
      (isNumeral_iff.mp h).2 d (heq ▸ List.mem_flatMap.mpr ⟨c, hc, hd⟩)
    exact capitals_of_isAsciiDigit (eq_of_mem_capitals hd hdigit ▸ hdigit)
  exact hfixed.symm.trans heq

theorem upper_ne_of_isNumeral {keyword : Text} (h : isNumeral digits)
    (hkeyword : isNumeral keyword = false) : upper digits ≠ keyword := by
  intro heq
  rw [upper_of_isNumeral h] at heq
  rw [heq, hkeyword] at h
  contradiction

private theorem splitSign_cons_of_isAsciiDigit {c : CodePoint} (h : isAsciiDigit c) (text : Text) :
    splitSign (c :: text) = (false, c :: text) := by
  unfold splitSign
  split
  · rename_i heq
    exact absurd (List.cons.inj heq).1 (ne_of_isAsciiDigit h (by decide))
  · rename_i heq
    exact absurd (List.cons.inj heq).1 (ne_of_isAsciiDigit h (by decide))
  · rfl

private theorem wellSpaced_of_forall {row : Text} (h : ∀ c ∈ row, isAsciiDigit c) :
    wellSpaced row = true := by
  induction row with
  | nil => rfl
  | cons c row ih =>
      have hc : c ≠ .scalar '_' := ne_of_isAsciiDigit (h c List.mem_cons_self) (by decide)
      unfold wellSpaced
      split
      · rfl
      · rename_i heq
        exact absurd (List.cons.inj heq).1 hc
      · rename_i heq
        exact absurd (List.cons.inj heq).1 hc
      · rename_i heq
        obtain ⟨rfl, rfl⟩ := List.cons.inj heq
        exact ih fun d hd => h d (List.mem_cons_of_mem c hd)

theorem readWhole_of_isNumeral (h : isNumeral digits) (hlength : digits.length ≤ digitLimit) :
    readWhole digits = .ok (value digits) := by
  obtain ⟨hne, hdigits⟩ := isNumeral_iff.mp h
  obtain ⟨first, rest, rfl⟩ := List.exists_cons_of_ne_nil hne
  have hfirst : isAsciiDigit first := hdigits first List.mem_cons_self
  have hascii : (first :: rest).all (·.toNat < 0x80) = true := by
    rw [List.all_eq_true]
    intro c hc
    have := hdigits c hc
    simp only [isAsciiDigit, Bool.and_eq_true, decide_eq_true_eq] at this ⊢
    omega
  have hblank : isAsciiBlank first = false := by
    rw [isAsciiBlank, Bool.or_eq_false_iff, beq_eq_false_iff_ne]
    refine ⟨?_, ne_of_isAsciiDigit hfirst (by decide)⟩
    simp only [isAsciiDigit, Bool.and_eq_true, decide_eq_true_eq] at hfirst
    simp only [Bool.and_eq_false_iff, decide_eq_false_iff_not]
    omega
  have hpart : ∀ c ∈ first :: rest, (isAsciiDigit c || c == .scalar '_') = true := by
    intro c hc
    rw [hdigits c hc, Bool.true_or]
  have hunderscore : first ≠ .scalar '_' := ne_of_isAsciiDigit hfirst (by decide)
  have hshort : ¬ (first :: rest).length > digitLimit := Nat.not_lt.mpr hlength
  simp only [readWhole, hascii, if_true, List.dropWhile_cons_of_neg (Bool.eq_false_iff.mp hblank),
    splitSign_cons_of_isAsciiDigit hfirst, List.takeWhile_eq_self_iff.mpr hpart,
    List.dropWhile_eq_nil_iff.mpr hpart, List.filter_eq_self.mpr hdigits,
    wellSpaced_of_forall hdigits, if_neg hshort]
  simp [hunderscore]

theorem value_append_digit (row : Text) (c : CodePoint) :
    value (row ++ [c]) = 10 * value row + (c.toNat - 0x30) := by
  rw [value, List.foldl_append]
  rfl

theorem value_lt (h : isNumeral digits) : value digits < Nat.pow 10 digits.length := by
  have hdigits := (isNumeral_iff.mp h).2
  have general (n : Nat) :
      digits.foldl (fun n c => 10 * n + (c.toNat - 0x30)) n <
        (n + 1) * Nat.pow 10 digits.length := by
    clear h
    induction digits generalizing n with
    | nil => simp
    | cons c digits ih =>
        obtain ⟨hc, hdigits⟩ := List.forall_mem_cons.mp hdigits
        simp only [isAsciiDigit, Bool.and_eq_true, decide_eq_true_eq] at hc
        have hhead : 10 * n + (c.toNat - 0x30) + 1 ≤ (n + 1) * 10 := by omega
        calc
          (c :: digits).foldl (fun n c => 10 * n + (c.toNat - 0x30)) n
              < (10 * n + (c.toNat - 0x30) + 1) * Nat.pow 10 digits.length := ih hdigits _
          _ ≤ (n + 1) * 10 * Nat.pow 10 digits.length := Nat.mul_le_mul_right _ hhead
          _ = (n + 1) * Nat.pow 10 (c :: digits).length := by
            rw [List.length_cons, Nat.mul_assoc, Nat.mul_comm 10]
            rfl
  simpa [value] using general 0

end Numeral

theorem Token.readAmount_eq_some_iff {token : Text} {amount : Nat} :
    Token.readAmount token = .ok (some amount) ↔
      Numeral.isNumeral token ∧ token.length ≤ digitLimit ∧ 1 ≤ amount ∧
        Numeral.value token = amount := by
  unfold Token.readAmount
  cases hnumeral : Numeral.isNumeral token with
  | false => simp
  | true =>
      rw [Bool.not_true, if_neg Bool.false_ne_true]
      split
      · rename_i hlong
        constructor
        · intro h
          cases h
        · intro ⟨_, hshort, _⟩
          omega
      · rename_i hshort
        split
        · rename_i hzero
          constructor
          · intro h
            cases h
          · intro ⟨_, _, hpos, hvalue⟩
            omega
        · rename_i hpos
          rw [Except.ok.injEq, Option.some.injEq]
          constructor
          · intro heq
            subst heq
            exact ⟨rfl, by omega, by omega, rfl⟩
          · intro hparts
            obtain ⟨_, _, _, hvalue⟩ := hparts
            exact hvalue

theorem Token.readAmount_eq_error_iff {token : Text} {fault : Fault} :
    Token.readAmount token = .error fault ↔
      (Numeral.isNumeral token ∧ digitLimit < token.length) ∧
        fault = .tooManyDigits token.length := by
  unfold Token.readAmount
  cases hnumeral : Numeral.isNumeral token with
  | false => simp
  | true =>
      rw [Bool.not_true, if_neg Bool.false_ne_true]
      split
      · rename_i hlong
        simp [show digitLimit < token.length from hlong, eq_comm]
      · rename_i hshort
        have hnotLong : ¬ digitLimit < token.length := hshort
        split
        · simp [hnotLong]
        · simp [hnotLong]

theorem Token.readAmount_eq_of_upper_eq {token other : Text} (h : upper other = upper token) :
    Token.readAmount other = Token.readAmount token := by
  by_cases hnumeral : Numeral.isNumeral token
  · rw [Numeral.eq_of_upper_eq hnumeral h]
  · by_cases hother : Numeral.isNumeral other
    · rw [Numeral.eq_of_upper_eq hother h.symm]
    · simp [Token.readAmount, hnumeral, hother]

theorem Token.isCurrency_upper {token : Text} :
    Token.isCurrency (upper token) ↔ upper token ∈ Token.supportedCurrencies := by
  rw [Token.isCurrency, upper_upper, List.contains_iff_mem]

end Remittance
