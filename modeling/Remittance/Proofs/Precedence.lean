import Mathlib.Algebra.Order.Field.Basic
import Mathlib.Algebra.Order.Field.Rat
import Mathlib.Data.Rat.Cast.Order
import Remittance.Proofs.Calendar.Written
import Remittance.Proofs.Outcome
import Remittance.Proofs.Overflow

namespace Remittance

open Remittance.Text

namespace Binary64

def value? (x : Binary64) : Option ℚ :=
  x.units?.map fun units => (units : ℚ) / unit

theorem value?_eq_some_iff {x : Binary64} {value : ℚ} :
    x.value? = some value ↔ ∃ units, x.units? = some units ∧ (units : ℚ) / unit = value := by
  cases x with
  | finite negative rank =>
      constructor
      · intro h
        exact ⟨_, rfl, Option.some.inj h⟩
      · rintro ⟨units, hunits, rfl⟩
        obtain rfl := Option.some.inj hunits
        rfl
  | infinite negative | nan =>
      constructor
      · intro h
        cases h
      · rintro ⟨units, hunits, _⟩
        cases hunits

theorem isBelow_iff_of_units? {x : Binary64} {units : Int} (h : x.units? = some units)
    (amount : Int) : x.isBelow amount ↔ units < amount * unit := by
  cases x with
  | finite negative rank =>
      obtain rfl := Option.some.inj h
      rw [isBelow, decide_eq_true_iff]
  | infinite negative => cases h
  | nan => cases h

private theorem isBelow_iff_of_value? {x : Binary64} {value : ℚ} (h : x.value? = some value)
    (amount : Int) : x.isBelow amount ↔ value < amount := by
  obtain ⟨units, hunits, rfl⟩ := value?_eq_some_iff.mp h
  have hpos : (0 : ℚ) < unit := by exact_mod_cast unit_pos
  rw [isBelow_iff_of_units? hunits, div_lt_iff₀ hpos]
  exact_mod_cast Iff.rfl

end Binary64

namespace Balance

variable {balance : Balance}

def value? : Balance → Option ℚ
  | whole n => some n
  | binary x => x.value?

theorem exists_value? (h : balance.isFinite) : ∃ value, balance.value? = some value := by
  cases balance with
  | whole n => exact ⟨n, rfl⟩
  | binary x =>
      obtain ⟨units, hunits⟩ := (Binary64.isFinite_iff_units? x).mp h
      exact ⟨(units : ℚ) / Binary64.unit, Binary64.value?_eq_some_iff.mpr ⟨units, hunits, rfl⟩⟩

private theorem isBelow_iff_of_value? {value : ℚ} (h : balance.value? = some value) (amount : Int) :
    balance.isBelow amount ↔ value < amount := by
  cases balance with
  | whole n =>
      obtain rfl := Option.some.inj h
      rw [isBelow_whole, Int.cast_lt]
  | binary x => exact Binary64.isBelow_iff_of_value? h amount

end Balance

def judge (instruction : Instruction) (snapshot : Snapshot) (today : Date) :
    Except Fault Verdict :=
  if instruction.executeBy.all Date.isWritten then Verdict.of instruction snapshot today
  else .ok ⟨.invalidDate, none, none⟩

def Verdict.enact (verdict : Verdict) (instruction : Instruction) (snapshot : Snapshot) :
    Except Fault Result :=
  if verdict.cleared then
    match verdict.debit, verdict.credit, instruction.amount with
    | some debit, some credit, some amount => do
        let ledger ← Ledger.transfer debit credit amount
        pure (Result.of instruction .executed snapshot ledger)
    | _, _, _ => .error (.absentAccount "id")
  else .ok (Result.of instruction verdict.code snapshot [])

variable {snapshot : Snapshot} {text : Text} {today : Date} {instruction : Instruction}

theorem settle_eq (instruction : Instruction) (snapshot : Snapshot) (today : Date) :
    settle instruction snapshot today =
      Verdict.of instruction snapshot today >>= (·.enact instruction snapshot) :=
  rfl

theorem outcome_of_refused {code : Code}
    (hmatch : Match.ofTokens (Reading.ofText text).tokens (Reading.ofText text).clause.executeBy =
      .ok ⟨instruction, some code⟩) :
    outcome snapshot text today = .ok (.of instruction code snapshot []) := by
  simp only [outcome_eq, hmatch]
  rfl

theorem outcome_of_matched
    (hmatch : Match.ofTokens (Reading.ofText text).tokens (Reading.ofText text).clause.executeBy =
      .ok ⟨instruction, none⟩) :
    outcome snapshot text today =
      judge instruction snapshot today >>= (·.enact instruction snapshot) := by
  simp only [outcome_eq, hmatch, judge, settle_eq]
  change (if _ then _ else _) = _
  split <;> rfl

namespace Code

/-- What must be the case for the code of a verdict, the codes before it aside. -/
def Applies (instruction : Instruction) (snapshot : Snapshot) (today : Date) : Code → Prop
  | invalidDate => ∃ text ∈ instruction.executeBy, ∀ day, ¬ Date.Writes text day
  | accountNotFound =>
      (∀ account ∈ snapshot, instruction.debitAccount ≠ some account.id) ∨
        ∀ account ∈ snapshot, instruction.creditAccount ≠ some account.id
  | currencyMismatch => ¬ ∃ debit credit, snapshot.IsFirst instruction.debitAccount debit ∧
      snapshot.IsFirst instruction.creditAccount credit ∧
      upper debit.currency = upper credit.currency ∧
      instruction.currency = some (upper debit.currency)
  | sameAccount => instruction.debitAccount = instruction.creditAccount
  | scheduled => ∃ text ∈ instruction.executeBy, ∃ day, Date.Writes text day ∧ day.IsAfter today
  | insufficientFunds => ∃ debit funds amount, snapshot.IsFirst instruction.debitAccount debit ∧
      debit.balance.value? = some funds ∧ instruction.amount = some amount ∧ funds < amount
  | executed => True
  | _ => False

theorem not_applies_accountNotFound_iff :
    ¬ accountNotFound.Applies instruction snapshot today ↔ ∃ debit credit,
      snapshot.IsFirst instruction.debitAccount debit ∧
        snapshot.IsFirst instruction.creditAccount credit := by
  rw [Applies, ← Snapshot.lookup?_eq_none_iff, ← Snapshot.lookup?_eq_none_iff, not_or]
  simp only [← Snapshot.lookup?_eq_some_iff, ← ne_eq, Option.ne_none_iff_exists', exists_and_left,
    exists_and_right]

theorem not_applies_invalidDate_iff :
    ¬ invalidDate.Applies instruction snapshot today ↔
      ∀ executeBy ∈ instruction.executeBy, Date.isWritten executeBy := by
  simp only [Applies, Date.isWritten_iff_exists_writes, not_exists, not_and, not_forall, not_not]

private theorem not_applies_scheduled_iff
    (hdate : ∀ executeBy ∈ instruction.executeBy, Date.isWritten executeBy) :
    ¬ scheduled.Applies instruction snapshot today ↔ ∀ executeBy ∈ instruction.executeBy,
      ∃ order, Date.compareText executeBy today = .ok order ∧ order ≠ .gt := by
  constructor
  · intro hnone executeBy hexecuteBy
    obtain ⟨day, hwrites⟩ := Date.isWritten_iff_exists_writes.mp (hdate executeBy hexecuteBy)
    refine ⟨_, hwrites.compareText_eq today, fun hgt => hnone ?_⟩
    exact ⟨executeBy, hexecuteBy, day, hwrites, Date.order_eq_gt_iff.mp hgt⟩
  · rintro hdue ⟨executeBy, hexecuteBy, day, hwrites, hafter⟩
    obtain ⟨order, horder, hne⟩ := hdue executeBy hexecuteBy
    rw [hwrites.compareText_eq] at horder
    obtain rfl := Except.ok.inj horder
    exact hne (Date.order_eq_gt_iff.mpr hafter)

private theorem not_applies_insufficientFunds_iff {debit : Account} {amount : Int}
    (hfinite : debit.balance.isFinite)
    (hdebit : snapshot.lookup? instruction.debitAccount = some debit)
    (hamount : instruction.amount = some amount) :
    ¬ insufficientFunds.Applies instruction snapshot today ↔
      debit.balance.isBelow amount = false := by
  obtain ⟨funds, hfunds⟩ := Balance.exists_value? hfinite
  have hcovered : debit.balance.isBelow amount = false ↔ ¬ funds < amount := by
    rw [← Balance.isBelow_iff_of_value? hfunds amount, Bool.not_eq_true]
  simp [Applies, ← Snapshot.lookup?_eq_some_iff, hdebit, hamount, hfunds, hcovered]

def verdicts : List Code :=
  [invalidDate, accountNotFound, currencyMismatch, sameAccount, scheduled, insufficientFunds,
    executed]

def earlier (code : Code) : List Code :=
  verdicts.takeWhile (· != code)

structure FirstApplies (instruction : Instruction) (snapshot : Snapshot) (today : Date)
    (code : Code) : Prop where
  listed : code ∈ verdicts
  applies : code.Applies instruction snapshot today
  first : ∀ earlier ∈ code.earlier, ¬ earlier.Applies instruction snapshot today

theorem FirstApplies.unique {code other : Code}
    (h : code.FirstApplies instruction snapshot today)
    (hother : other.FirstApplies instruction snapshot today) : code = other := by
  have horder : ∀ code ∈ verdicts, ∀ other ∈ verdicts,
      code = other ∨ code ∈ other.earlier ∨ other ∈ code.earlier := by
    decide
  rcases horder code h.listed other hother.listed with heq | hearlier | hearlier
  · exact heq
  · exact absurd h.applies (hother.first code hearlier)
  · exact absurd hother.applies (h.first other hearlier)

end Code

namespace Rule

variable {c : Case}

private theorem exists_of_check_currencyAgreement {code? : Option Code}
    (h : currencyAgreement.check c = .ok code?) :
    ∃ debit credit, c.debit = some debit ∧ c.credit = some credit := by
  simp only [check, checkCurrencyAgreement] at h
  split at h
  · rename_i debit credit hdebit hcredit
    exact ⟨debit, credit, hdebit, hcredit⟩
  · cases h

private theorem exists_of_check_sufficientFunds {code? : Option Code}
    (h : sufficientFunds.check c = .ok code?) :
    ∃ debit amount, c.debit = some debit ∧ c.instruction.amount = some amount := by
  simp only [check, checkSufficientFunds] at h
  split at h
  · cases h
  · cases h
  · rename_i debit amount hdebit hamount
    exact ⟨debit, amount, hdebit, hamount⟩

theorem check_eq_none_iff {rule : Rule} {code? : Option Code}
    (h : rule.check (.ofSnapshot instruction snapshot today) = .ok code?)
    (hfinite : ∀ account ∈ snapshot, account.balance.isFinite)
    (hdate : ∀ executeBy ∈ instruction.executeBy, Date.isWritten executeBy) :
    code? = none ↔ ¬ rule.code.Applies instruction snapshot today := by
  have hnone : code? = none ↔
      rule.check (.ofSnapshot instruction snapshot today) = .ok none := by
    rw [h, Except.ok.injEq]
  rw [hnone]
  cases rule with
  | accountsExist =>
      rw [check_accountsExist_iff, code, Code.not_applies_accountNotFound_iff]
      simp only [← Snapshot.lookup?_eq_some_iff]
      rfl
  | currencyAgreement =>
      obtain ⟨debit, credit, hdebit, hcredit⟩ := exists_of_check_currencyAgreement h
      have hpayer : snapshot.lookup? instruction.debitAccount = some debit := hdebit
      have hpayee : snapshot.lookup? instruction.creditAccount = some credit := hcredit
      rw [check_currencyAgreement_iff hdebit hcredit, code, Code.Applies, not_not]
      simp [← Snapshot.lookup?_eq_some_iff, hpayer, hpayee, Case.ofSnapshot]
  | distinctAccounts => exact check_distinctAccounts_iff
  | schedule => exact check_schedule_iff.trans (Code.not_applies_scheduled_iff hdate).symm
  | sufficientFunds =>
      obtain ⟨debit, amount, hdebit, hamount⟩ := exists_of_check_sufficientFunds h
      obtain ⟨_, _, hmem⟩ := Snapshot.lookup?_of_account hdebit
      rw [check_sufficientFunds_iff hdebit, code,
        Code.not_applies_insufficientFunds_iff (hfinite debit hmem) hdebit hamount]
      simp [hamount]

theorem earlier_code {before after : List Rule} {rule : Rule}
    (h : precedence = before ++ rule :: after) :
    rule.code.earlier = .invalidDate :: before.map code := by
  have hverdicts : Code.verdicts =
      (.invalidDate :: before.map code) ++ rule.code :: (after.map code ++ [.executed]) := by
    rw [show Code.verdicts = .invalidDate :: (precedence.map code ++ [.executed]) from rfl, h]
    simp
  have hnodup : Code.verdicts.Nodup := by decide
  have hfront : ∀ earlier ∈ .invalidDate :: before.map code, (earlier != rule.code) = true := by
    intro earlier hearlier
    rw [hverdicts, List.nodup_append] at hnodup
    exact bne_iff_ne.mpr (hnodup.2.2 earlier hearlier rule.code List.mem_cons_self)
  rw [Code.earlier, hverdicts, List.takeWhile_append_of_pos hfront,
    List.takeWhile_cons_of_neg (by simp), List.append_nil]

end Rule

theorem accounts_of_judge {verdict : Verdict} (h : judge instruction snapshot today = .ok verdict)
    (hcode : verdict.code ≠ .invalidDate) :
    verdict.debit = snapshot.lookup? instruction.debitAccount ∧
      verdict.credit = snapshot.lookup? instruction.creditAccount := by
  unfold judge at h
  split at h
  · rw [Verdict.of_eq_map] at h
    obtain ⟨code?, _, rfl⟩ := map_eq_ok_iff.mp h
    exact ⟨rfl, rfl⟩
  · obtain rfl := Except.ok.inj h
    exact absurd rfl hcode

section

variable (hfinite : ∀ account ∈ snapshot, account.balance.isFinite)

include hfinite

private theorem firstApplies_of_firstCode {code? : Option Code}
    (hdate : ∀ executeBy ∈ instruction.executeBy, Date.isWritten executeBy)
    (h : Rule.firstCode (.ofSnapshot instruction snapshot today) Rule.precedence = .ok code?) :
    (code?.getD .executed).FirstApplies instruction snapshot today := by
  have hvalid : ¬ Code.invalidDate.Applies instruction snapshot today :=
    Code.not_applies_invalidDate_iff.mpr hdate
  have hpassed : ∀ rule : Rule,
      rule.check (.ofSnapshot instruction snapshot today) = .ok none →
        ¬ rule.code.Applies instruction snapshot today :=
    fun rule hrule => (Rule.check_eq_none_iff hrule hfinite hdate).mp rfl
  cases code? with
  | none =>
      have hall := Rule.firstCode_eq_none_iff.mp h
      refine ⟨by decide, trivial, ?_⟩
      change ∀ earlier ∈ .invalidDate :: Rule.precedence.map Rule.code, _
      simp only [List.forall_mem_cons, List.forall_mem_map]
      exact ⟨hvalid, fun rule hrule => hpassed rule (hall rule hrule)⟩
  | some code =>
      obtain ⟨before, rule, after, hsplit, hbefore, hrule⟩ := Rule.firstCode_eq_some_iff.mp h
      obtain rfl := Rule.code_of_check hrule
      refine ⟨by cases rule <;> decide, ?_, ?_⟩
      · by_contra hnone
        cases (Rule.check_eq_none_iff hrule hfinite hdate).mpr hnone
      · change ∀ earlier ∈ rule.code.earlier, _
        rw [Rule.earlier_code hsplit]
        simp only [List.forall_mem_cons, List.forall_mem_map]
        exact ⟨hvalid, fun earlier hearlier => hpassed earlier (hbefore earlier hearlier)⟩

theorem exists_judge_firstApplies {amount : Int} (hamount : instruction.amount = some amount)
    (today : Date) :
    ∃ verdict, judge instruction snapshot today = .ok verdict ∧
      verdict.code.FirstApplies instruction snapshot today := by
  unfold judge
  split
  · rename_i hdate
    rw [Option.all_eq_true] at hdate
    obtain ⟨code?, hcode⟩ : ∃ code?,
        Rule.firstCode (.ofSnapshot instruction snapshot today) Rule.precedence = .ok code? :=
      Rule.exists_firstCode_precedence hamount hdate
    rw [Verdict.of_eq_map, hcode]
    exact ⟨_, rfl, firstApplies_of_firstCode hfinite hdate hcode⟩
  · rename_i hdate
    rw [Option.all_eq_true] at hdate
    refine ⟨_, rfl, by decide, ?_, by simp [Code.earlier, Code.verdicts]⟩
    exact not_not.mp (Code.not_applies_invalidDate_iff.not.mpr hdate)

/-- A match is judged without a fault, by the first code that applies. The verdict is cleared when
that is the last one, and then carries the two accounts. -/
theorem judge_of_matched {tokens : Tokens} {executeBy : Option Text}
    (hmatch : Match.ofTokens tokens executeBy = .ok ⟨instruction, none⟩) (today : Date) :
    ∃ verdict, judge instruction snapshot today = .ok verdict ∧
      verdict.code.FirstApplies instruction snapshot today ∧
      (verdict.cleared ↔ verdict.code = .executed) ∧
      (verdict.cleared → ∃ debit credit,
        snapshot.IsFirst instruction.debitAccount debit ∧
        snapshot.IsFirst instruction.creditAccount credit ∧
        verdict.debit = some debit ∧ verdict.credit = some credit) := by
  obtain ⟨amount, hamount, _⟩ := (Match.complete_of_matched hmatch).amount
  obtain ⟨verdict, hjudge, hfirst⟩ := exists_judge_firstApplies hfinite hamount today
  have hcleared : verdict.cleared ↔ verdict.code = .executed := beq_iff_eq
  refine ⟨verdict, hjudge, hfirst, hcleared, fun h => ?_⟩
  rw [hcleared] at h
  have hfound := hfirst.first .accountNotFound (by rw [h]; decide)
  obtain ⟨debit, credit, hdebit, hcredit⟩ := Code.not_applies_accountNotFound_iff.mp hfound
  obtain ⟨hpayer, hpayee⟩ := accounts_of_judge hjudge (by rw [h]; decide)
  rw [Snapshot.lookup?_eq_some_iff.mpr hdebit] at hpayer
  rw [Snapshot.lookup?_eq_some_iff.mpr hcredit] at hpayee
  exact ⟨debit, credit, hdebit, hcredit, hpayer, hpayee⟩

end

/-- One more than a binary balance of 2⁵³, which is what the amount would be rounded to. -/
theorem judge_of_matched_past_rounding :
    let funds : Balance := .binary (.ofBits 0x4340000000000000)
    let snapshot : Snapshot :=
      [⟨"a", funds, "ngn"⟩, ⟨"a", .whole 9007199254740993, "NGN"⟩, ⟨"b", .whole 0, "NGN"⟩]
    let instruction : Instruction := .ofSecondId .debit (some "2025-01-31") 9007199254740993 "NGN"
      "a" "b"
    Balance.binaryAmount 9007199254740993 = .ok (.ofBits 0x4340000000000000) ∧
      ∃ verdict, judge instruction snapshot ⟨2025, 1, 31⟩ = .ok verdict ∧
        verdict.code = .insufficientFunds ∧
        verdict.code.FirstApplies instruction snapshot ⟨2025, 1, 31⟩ := by
  intro funds snapshot instruction
  have hfinite : ∀ account ∈ snapshot, account.balance.isFinite := by decide +kernel
  have hmatch : Match.ofTokens (.ofClause
        "DEBIT 9007199254740993 NGN FROM ACCOUNT a FOR CREDIT TO ACCOUNT b") (some "2025-01-31") =
      .ok ⟨instruction, none⟩ := by
    decide +kernel
  have hcode : (judge instruction snapshot ⟨2025, 1, 31⟩).toOption.map Verdict.code =
      some .insufficientFunds := by
    decide +kernel
  obtain ⟨verdict, hjudge, hfirst, _⟩ := judge_of_matched hfinite hmatch ⟨2025, 1, 31⟩
  rw [hjudge] at hcode
  exact ⟨by decide +kernel, verdict, hjudge, Option.some.inj hcode, hfirst⟩

end Remittance
