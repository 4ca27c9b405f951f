import Mathlib.Tactic.Ring
import Remittance.Ledger
import Remittance.Proofs.Matcher.Stages

namespace Remittance

namespace Binary64

/-- Halfway between the largest magnitude and the one that would follow it; the tie goes up. -/
def overflow : Nat :=
  Nat.pow 2 1024 - Nat.pow 2 970

theorem le_divRound_iff {n d m : Nat} (hd : 0 < d) (hm : m % 2 = 0) :
    m ≤ divRound n d ↔ 2 * (m * d) ≤ 2 * n + d := by
  have hn : n = n / d * d + n % d := (Nat.div_add_mod' n d).symm
  have hr : n % d < d := Nat.mod_lt n hd
  unfold divRound
  generalize n / d = q at *
  generalize n % d = r at *
  subst hn
  have hle (k : Nat) (h : m ≤ q + k) : m * d ≤ q * d + k * d := by
    rw [← Nat.add_mul]
    exact Nat.mul_le_mul_right d h
  have hge (k : Nat) (h : q + k ≤ m) : q * d + k * d ≤ m * d := by
    rw [← Nat.add_mul]
    exact Nat.mul_le_mul_right d h
  have hle0 := hle 0
  have hle1 := hle 1
  have hge1 := hge 1
  have hge2 := hge 2
  dsimp only
  split
  · omega
  · split
    · omega
    · omega

theorem pow_two_add (a b : Nat) : Nat.pow 2 (a + b) = Nat.pow 2 a * Nat.pow 2 b :=
  Nat.pow_add 2 a b

theorem le_rankOfRatio_iff {n e : Nat} :
    (e + 2) * spacingRun ≤ rankOfRatio n 1 ↔ Nat.pow 2 (e + 54) ≤ 2 * n + Nat.pow 2 e := by
  have hrun : spacingRun = 2 ^ 52 := by decide
  have hpos (k : Nat) : 0 < Nat.pow 2 k := Nat.pow_pos (by decide)
  have hscale (c k : Nat) : Nat.pow 2 (k + c) = 2 ^ c * Nat.pow 2 k := by
    rw [pow_two_add, Nat.mul_comm]
    rfl
  have hmono {a b : Nat} (h : a ≤ b) : Nat.pow 2 a ≤ Nat.pow 2 b :=
    Nat.pow_le_pow_right (by decide) h
  have hupper : n < Nat.pow 2 (n.log2 + 1) := Nat.lt_log2_self
  rw [rankOfRatio, Nat.div_one, Nat.one_mul, hrun]
  generalize hk : n.log2 - 52 = k
  have hstep := hpos k
  have htop := hscale 54 e
  rcases Nat.lt_trichotomy n.log2 (e + 52) with hlt | heq | hgt
  · -- even with a carry the rank does not get past the run before
    have hbound := Nat.lt_of_lt_of_le hupper (hmono (show n.log2 + 1 ≤ e + 52 by omega))
    rw [hscale] at hbound
    have hdigits := Nat.lt_of_lt_of_le hupper (hmono (show n.log2 + 1 ≤ k + 53 by omega))
    rw [hscale] at hdigits
    rcases Nat.lt_or_ge k e with hke | hke
    · have hcarry : divRound n (Nat.pow 2 k) < 2 ^ 53 + 2 := by
        rw [← Nat.not_le, le_divRound_iff hstep (by decide)]
        omega
      omega
    · obtain ⟨rfl, rfl⟩ : k = 0 ∧ e = 0 := by omega
      have hcarry : divRound n (Nat.pow 2 0) < 2 ^ 53 := by
        rw [← Nat.not_le, le_divRound_iff hstep (by decide)]
        omega
      omega
  · have hke : k = e := by omega
    subst hke
    have heven := le_divRound_iff (n := n) hstep (m := 2 ^ 53) (by decide)
    omega
  · have hlower : Nat.pow 2 n.log2 ≤ n := Nat.log2_self_le (by rintro rfl; simp at hgt)
    rw [show n.log2 = k + 52 by omega, hscale] at hlower
    have hreached : 2 ^ 52 ≤ divRound n (Nat.pow 2 k) := by
      rw [le_divRound_iff hstep (by decide)]
      omega
    have hexp := hmono (show e + 1 ≤ k by omega)
    rw [hscale] at hexp
    omega

theorem ofUnits_eq_infinite_iff {n : Int} {e : Nat} (he : e = 2045) :
    (∃ negative, ofUnits n = infinite negative) ↔
      Nat.pow 2 (e + 54) ≤ 2 * n.natAbs + Nat.pow 2 e := by
  have hmagnitudes : magnitudes = (e + 2) * spacingRun := by
    subst he
    decide
  rw [← le_rankOfRatio_iff, ← hmagnitudes, ofUnits, ofRatio]
  split
  · rename_i hlt
    simp [hlt]
  · rename_i hge
    simp [Nat.not_lt.mp hge]

private theorem scaled_le_iff {a b c k : Nat} :
    Nat.pow 2 (a + (c + 1)) ≤ 2 * (k * Nat.pow 2 c) + Nat.pow 2 (b + (c + 1)) ↔
      Nat.pow 2 a ≤ k + Nat.pow 2 b := by
  have hpos : 0 < Nat.pow 2 (c + 1) := Nat.pow_pos (by decide)
  have hdouble : 2 * (k * Nat.pow 2 c) = k * Nat.pow 2 (c + 1) := by
    rw [pow_two_add c 1]
    exact Nat.mul_left_comm 2 k _ |>.trans (by rw [Nat.mul_comm 2])
  rw [hdouble, pow_two_add a, pow_two_add b, ← Nat.add_mul]
  exact Nat.mul_le_mul_right_iff hpos

theorem unit_eq {c : Nat} (hc : c = 1074) : unit = Nat.pow 2 c := by
  subst hc
  decide +kernel

theorem unit_pos : 0 < unit := by
  obtain ⟨c, hc⟩ : ∃ c, c = 1074 := ⟨_, rfl⟩
  rw [unit_eq hc]
  exact Nat.pow_pos (by decide)

theorem overflow_eq {a b : Nat} (ha : a = 1024) (hb : b = 970) :
    overflow = Nat.pow 2 a - Nat.pow 2 b := by
  subst ha hb
  decide +kernel

private theorem bounded?_eq_none_iff {x : Binary64} :
    x.bounded? = none ↔ ∃ negative, x = infinite negative := by
  cases x <;> simp [bounded?]

theorem unitsOfRank_add_le {rank e : Nat} (he : e = 2045) (h : rank < magnitudes) :
    unitsOfRank rank + Nat.pow 2 e ≤ Nat.pow 2 (e + 53) := by
  have hrun : spacingRun = 2 ^ 52 := by decide
  have hmagnitudes : magnitudes = (e + 2) * 2 ^ 52 := by
    subst he
    decide
  have hpos : 0 < Nat.pow 2 e := Nat.pow_pos (by decide)
  have htop : Nat.pow 2 (e + 53) = 2 ^ 53 * Nat.pow 2 e := by
    rw [pow_two_add, Nat.mul_comm]
    rfl
  rw [unitsOfRank, hrun, htop]
  split
  · omega
  · have hstep : Nat.pow 2 (rank / 2 ^ 52 - 1) ≤ Nat.pow 2 e :=
      Nat.pow_le_pow_right (by decide) (by omega)
    have hdigits : 2 ^ 52 + rank % 2 ^ 52 ≤ 2 ^ 53 - 1 := by omega
    have hunits := Nat.mul_le_mul hdigits hstep
    rw [Nat.sub_mul, Nat.one_mul] at hunits
    omega

theorem ofInt?_eq_none_iff {n : Int} : ofInt? n = none ↔ overflow ≤ n.natAbs := by
  obtain ⟨a, ha⟩ : ∃ a, a = 1024 := ⟨_, rfl⟩
  obtain ⟨b, hb⟩ : ∃ b, b = 970 := ⟨_, rfl⟩
  obtain ⟨c, hc⟩ : ∃ c, c = 1074 := ⟨_, rfl⟩
  rw [ofInt?, bounded?_eq_none_iff, ofUnits_eq_infinite_iff (show b + (c + 1) = 2045 by omega),
    show b + (c + 1) + 54 = a + (c + 1) by omega, Int.natAbs_mul, Int.natAbs_natCast, unit_eq hc,
    scaled_le_iff, overflow_eq ha hb, Nat.sub_le_iff_le_add]

theorem unitsOfRank_lt {rank n : Nat} (hrank : rank < magnitudes) (h : overflow ≤ n) :
    unitsOfRank rank < n * unit := by
  obtain ⟨a, ha⟩ : ∃ a, a = 1024 := ⟨_, rfl⟩
  obtain ⟨b, hb⟩ : ∃ b, b = 970 := ⟨_, rfl⟩
  obtain ⟨c, hc⟩ : ∃ c, c = 1074 := ⟨_, rfl⟩
  have hunits := unitsOfRank_add_le (show b + (c + 1) = 2045 by omega) hrank
  rw [overflow_eq ha hb, Nat.sub_le_iff_le_add] at h
  have hscaled := scaled_le_iff (c := c).mpr h
  have hdouble : Nat.pow 2 (a + (c + 1)) = Nat.pow 2 (b + (c + 1) + 53) * 2 := by
    rw [← Nat.add_assoc, show b + (c + 1) + 53 = a + c by omega, pow_two_add (a + c) 1]
  have hpos : 0 < Nat.pow 2 (b + (c + 1)) := Nat.pow_pos (by decide)
  rw [unit_eq hc]
  omega

theorem isBelow_of_overflow_le {x : Binary64} (hfinite : x.isFinite) {n : Nat}
    (h : overflow ≤ n) : x.isBelow n := by
  cases x with
  | infinite negative => cases hfinite
  | nan => cases hfinite
  | finite negative rank =>
      have hunits := unitsOfRank_lt rank.isLt h
      have hsigned : signed negative (unitsOfRank rank) ≤ unitsOfRank rank := by
        cases negative
        · exact Int.le_refl _
        · simp only [signed, if_true]
          omega
      rw [isBelow, decide_eq_true_iff]
      exact Int.lt_of_le_of_lt hsigned (by exact_mod_cast hunits)

end Binary64

/-! A transfer faults only where the payee's balance is binary: the payer's balance covers the
amount, so it is past no number. -/

namespace Balance

variable {balance : Balance} {fault : Fault}

theorem binaryAmount_eq_error_iff {amount : Int} :
    binaryAmount amount = .error fault ↔
      Binary64.overflow ≤ amount.natAbs ∧ fault = .beyondBinary64 := by
  rw [← Binary64.ofInt?_eq_none_iff, binaryAmount]
  generalize Binary64.ofInt? amount = rounded
  cases rounded with
  | none => simp [eq_comm]
  | some x => simp

theorem plus_eq_error_iff {amount : Int} :
    balance.plus amount = .error fault ↔
      (balance.isBinary ∧ Binary64.overflow ≤ amount.natAbs) ∧ fault = .beyondBinary64 := by
  cases balance with
  | whole n => simp [isBinary]
  | binary x =>
      rw [plus, map_eq_error_iff, binaryAmount_eq_error_iff]
      simp [isBinary]

theorem minus_eq_error_iff {amount : Int} :
    balance.minus amount = .error fault ↔
      (balance.isBinary ∧ Binary64.overflow ≤ amount.natAbs) ∧ fault = .beyondBinary64 := by
  cases balance with
  | whole n => simp [isBinary]
  | binary x =>
      rw [minus, map_eq_error_iff, binaryAmount_eq_error_iff]
      simp [isBinary]

private theorem lt_overflow_of_covers {amount : Nat} (hfinite : balance.isFinite)
    (hbinary : balance.isBinary) (hcovered : balance.isBelow amount = false) :
    amount < Binary64.overflow := by
  cases balance with
  | whole n => cases hbinary
  | binary x =>
      rw [← Nat.not_le]
      intro hle
      have hbelow := Binary64.isBelow_of_overflow_le hfinite hle
      rw [isBelow, hbelow] at hcovered
      cases hcovered

end Balance

theorem Ledger.transfer_eq_error_iff {debit credit : Account} {amount : Nat} {fault : Fault}
    (hfinite : debit.balance.isFinite) (hcovered : debit.balance.isBelow amount = false) :
    transfer debit credit amount = .error fault ↔
      (credit.balance.isBinary ∧ Binary64.overflow ≤ amount) ∧ fault = .beyondBinary64 := by
  have hpaid : ∃ paid, debit.balance.minus amount = .ok paid := by
    cases hminus : debit.balance.minus amount with
    | ok paid => exact ⟨paid, rfl⟩
    | error fault =>
        obtain ⟨⟨hbinary, hpast⟩, _⟩ := Balance.minus_eq_error_iff.mp hminus
        exact absurd (Balance.lt_overflow_of_covers hfinite hbinary hcovered) (Nat.not_lt.mpr hpast)
  obtain ⟨paid, hpaid⟩ := hpaid
  rw [transfer, hpaid]
  cases hplus : credit.balance.plus amount with
  | error raised =>
      obtain ⟨hcause, rfl⟩ := Balance.plus_eq_error_iff.mp hplus
      rw [Int.natAbs_natCast] at hcause
      simp [bind, Except.bind, hcause, eq_comm]
  | ok received =>
      have hsafe : ¬ (credit.balance.isBinary ∧ Binary64.overflow ≤ amount) := by
        intro hcause
        have hfault : credit.balance.plus amount = .error .beyondBinary64 :=
          Balance.plus_eq_error_iff.mpr ⟨hcause, rfl⟩
        rw [hplus] at hfault
        cases hfault
      simp [bind, Except.bind, pure, Except.pure, hsafe]

end Remittance
