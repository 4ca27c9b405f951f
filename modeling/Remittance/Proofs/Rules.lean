import Remittance.Proofs.Calendar.Written
import Remittance.Proofs.Matcher.Stages
import Remittance.Rule

namespace Remittance

open Remittance.Text

namespace Snapshot

variable {snapshot : Snapshot} {id? : Option Text} {account : Account}

def IsFirst (snapshot : Snapshot) (id? : Option Text) (account : Account) : Prop :=
  id? = some account.id ∧ ∃ before after, snapshot = before ++ account :: after ∧
    ∀ earlier ∈ before, earlier.id ≠ account.id

theorem lookup?_eq_some_iff :
    snapshot.lookup? id? = some account ↔ snapshot.IsFirst id? account := by
  cases id? with
  | none => simp [IsFirst]
  | some id =>
      rw [lookup?, List.find?_eq_some_iff_append, beq_iff_eq, IsFirst, Option.some.injEq, eq_comm]
      apply and_congr_right
      rintro rfl
      simp

theorem IsFirst.unique {other : Account} (h : snapshot.IsFirst id? account)
    (hother : snapshot.IsFirst id? other) : account = other :=
  Option.some.inj ((lookup?_eq_some_iff.mpr h).symm.trans (lookup?_eq_some_iff.mpr hother))

theorem lookup?_eq_none_iff :
    snapshot.lookup? id? = none ↔ ∀ account ∈ snapshot, id? ≠ some account.id := by
  cases id? with
  | none => simp
  | some id =>
      simp only [lookup?, List.find?_eq_none, beq_iff_eq, ne_eq, Option.some.injEq]
      simp only [eq_comm]

theorem lookup?_of_account (h : snapshot.lookup? id? = some account) :
    id? = some account.id ∧ snapshot.lookup? (some account.id) = some account ∧
      account ∈ snapshot := by
  cases id? with
  | none => cases h
  | some id =>
      obtain ⟨hmem, rfl⟩ := lookup?_sound h
      exact ⟨rfl, h, hmem⟩

end Snapshot

namespace Rule

variable {c : Case} {rules : List Rule}

theorem firstCode_cons_of_none {rule : Rule} (h : rule.check c = .ok none) (rules : List Rule) :
    firstCode c (rule :: rules) = firstCode c rules := by
  rw [firstCode, h]
  rfl

theorem firstCode_cons_of_some {rule : Rule} {code : Code} (h : rule.check c = .ok (some code))
    (rules : List Rule) : firstCode c (rule :: rules) = .ok (some code) := by
  rw [firstCode, h]
  rfl

theorem firstCode_cons_of_error {rule : Rule} {fault : Fault} (h : rule.check c = .error fault)
    (rules : List Rule) : firstCode c (rule :: rules) = .error fault := by
  rw [firstCode, h]
  rfl

theorem firstCode_eq_none_iff :
    firstCode c rules = .ok none ↔ ∀ rule ∈ rules, rule.check c = .ok none := by
  induction rules with
  | nil => simp [firstCode]
  | cons rule rules ih =>
      rw [List.forall_mem_cons, ← ih]
      cases hrule : rule.check c with
      | error fault => simp [firstCode_cons_of_error hrule]
      | ok code =>
          cases code with
          | none => simp [firstCode_cons_of_none hrule]
          | some code => simp [firstCode_cons_of_some hrule]

theorem firstCode_eq_some_iff {code : Code} :
    firstCode c rules = .ok (some code) ↔ ∃ before rule after, rules = before ++ rule :: after ∧
      (∀ earlier ∈ before, earlier.check c = .ok none) ∧ rule.check c = .ok (some code) := by
  constructor
  · intro h
    induction rules with
    | nil => cases h
    | cons rule rules ih =>
        cases hrule : rule.check c with
        | error fault =>
            rw [firstCode_cons_of_error hrule] at h
            cases h
        | ok found =>
            cases found with
            | none =>
                rw [firstCode_cons_of_none hrule] at h
                obtain ⟨before, decisive, after, rfl, hbefore, hcode⟩ := ih h
                refine ⟨rule :: before, decisive, after, rfl, ?_, hcode⟩
                exact List.forall_mem_cons.mpr ⟨hrule, hbefore⟩
            | some found =>
                rw [firstCode_cons_of_some hrule] at h
                obtain rfl := Option.some.inj (Except.ok.inj h)
                exact ⟨[], rule, rules, rfl, by simp, hrule⟩
  · intro hparts
    obtain ⟨before, rule, after, rfl, hbefore, hcode⟩ := hparts
    induction before with
    | nil => exact firstCode_cons_of_some hcode after
    | cons earlier before ih =>
        obtain ⟨hearlier, hbefore⟩ := List.forall_mem_cons.mp hbefore
        rw [List.cons_append, firstCode_cons_of_none hearlier]
        exact ih hbefore

def code : Rule → Code
  | accountsExist => .accountNotFound
  | currencyAgreement => .currencyMismatch
  | distinctAccounts => .sameAccount
  | schedule => .scheduled
  | sufficientFunds => .insufficientFunds

theorem code_ne_executed (rule : Rule) : rule.code ≠ .executed := by
  cases rule <;> decide

theorem check_accountsExist_iff :
    accountsExist.check c = .ok none ↔
      ∃ debit credit, c.debit = some debit ∧ c.credit = some credit := by
  simp [check, checkAccountsExist, Option.isSome_iff_exists]

theorem check_currencyAgreement_iff {debit credit : Account} (hdebit : c.debit = some debit)
    (hcredit : c.credit = some credit) :
    currencyAgreement.check c = .ok none ↔
      upper debit.currency = upper credit.currency ∧
        c.instruction.currency = some (upper debit.currency) := by
  simp [check, checkCurrencyAgreement, hdebit, hcredit]

theorem check_distinctAccounts_iff :
    distinctAccounts.check c = .ok none ↔
      c.instruction.debitAccount ≠ c.instruction.creditAccount := by
  simp [check, checkDistinctAccounts]

theorem check_schedule_iff :
    schedule.check c = .ok none ↔ ∀ executeBy ∈ c.instruction.executeBy,
      ∃ order, Date.compareText executeBy c.today = .ok order ∧ order ≠ .gt := by
  cases hexecuteBy : c.instruction.executeBy with
  | none => simp [check, checkSchedule, hexecuteBy]
  | some executeBy =>
      simp only [check, checkSchedule, hexecuteBy, map_eq_ok_iff, Option.mem_def,
        Option.some.injEq, forall_eq']
      apply exists_congr
      intro order
      simp

theorem check_sufficientFunds_iff {debit : Account} (hdebit : c.debit = some debit) :
    sufficientFunds.check c = .ok none ↔
      ∃ amount, c.instruction.amount = some amount ∧ debit.balance.isBelow amount = false := by
  cases hamount : c.instruction.amount with
  | none => simp [check, checkSufficientFunds, hdebit, hamount]
  | some amount => simp [check, checkSufficientFunds, hdebit, hamount]

theorem code_of_check {rule : Rule} {found : Code} (h : rule.check c = .ok (some found)) :
    found = rule.code := by
  cases rule with
  | accountsExist =>
      simp only [check, checkAccountsExist] at h
      split at h <;> cases h
      rfl
  | currencyAgreement =>
      simp only [check, checkCurrencyAgreement] at h
      split at h
      · split at h <;> cases h
        rfl
      · cases h
  | distinctAccounts =>
      simp only [check, checkDistinctAccounts] at h
      split at h <;> cases h
      rfl
  | schedule =>
      simp only [check, checkSchedule] at h
      split at h
      · cases h
      · obtain ⟨order, _, horder⟩ := map_eq_ok_iff.mp h
        split at horder <;> cases horder
        rfl
  | sufficientFunds =>
      simp only [check, checkSufficientFunds] at h
      split at h
      · cases h
      · cases h
      · split at h <;> cases h
        rfl

/-! No rule faults on a case that has an amount, if the date it has is a written day: the rules that
look at the accounts come after the one that finds them. -/

theorem exists_firstCode_of_forall (h : ∀ rule ∈ rules, ∃ code, rule.check c = .ok code) :
    ∃ code, firstCode c rules = .ok code := by
  induction rules with
  | nil => exact ⟨none, rfl⟩
  | cons rule rules ih =>
      obtain ⟨⟨code, hrule⟩, hrules⟩ := List.forall_mem_cons.mp h
      cases code with
      | some code => exact ⟨some code, firstCode_cons_of_some hrule rules⟩
      | none =>
          rw [firstCode_cons_of_none hrule]
          exact ih hrules

theorem exists_check {debit credit : Account} {amount : Int} (hdebit : c.debit = some debit)
    (hcredit : c.credit = some credit) (hamount : c.instruction.amount = some amount)
    (hdate : ∀ executeBy ∈ c.instruction.executeBy,
      ∃ order, Date.compareText executeBy c.today = .ok order) (rule : Rule) :
    ∃ code, rule.check c = .ok code := by
  cases rule with
  | accountsExist => exact ⟨_, rfl⟩
  | currencyAgreement => simp [check, checkCurrencyAgreement, hdebit, hcredit]
  | distinctAccounts => exact ⟨_, rfl⟩
  | schedule =>
      cases hexecuteBy : c.instruction.executeBy with
      | none => simp [check, checkSchedule, hexecuteBy]
      | some executeBy =>
          obtain ⟨order, horder⟩ := hdate executeBy hexecuteBy
          simp [check, checkSchedule, hexecuteBy, horder, Except.map]
  | sufficientFunds => simp [check, checkSufficientFunds, hdebit, hamount]

theorem exists_firstCode_precedence {amount : Int} (hamount : c.instruction.amount = some amount)
    (hdate : ∀ executeBy ∈ c.instruction.executeBy, Date.isWritten executeBy) :
    ∃ code, firstCode c precedence = .ok code := by
  have hcompare : ∀ executeBy ∈ c.instruction.executeBy,
      ∃ order, Date.compareText executeBy c.today = .ok order := by
    intro executeBy hexecuteBy
    obtain ⟨day, _, hcompare⟩ := Date.compareText_of_isWritten (hdate executeBy hexecuteBy)
    exact ⟨_, hcompare c.today⟩
  cases hexist : checkAccountsExist c with
  | some code =>
      have hcheck : accountsExist.check c = .ok (some code) := congrArg Except.ok hexist
      exact ⟨some code, firstCode_cons_of_some hcheck _⟩
  | none =>
      have hcheck : accountsExist.check c = .ok none := congrArg Except.ok hexist
      obtain ⟨debit, credit, hdebit, hcredit⟩ := check_accountsExist_iff.mp hcheck
      exact exists_firstCode_of_forall fun rule _ =>
        exists_check hdebit hcredit hamount hcompare rule

end Rule

structure Cleared (c : Case) (debit credit : Account) (amount : Int) : Prop where
  debit_eq : c.debit = some debit
  credit_eq : c.credit = some credit
  amount_eq : c.instruction.amount = some amount
  same_currency : upper debit.currency = upper credit.currency
  currency_eq : c.instruction.currency = some (upper debit.currency)
  distinct : c.instruction.debitAccount ≠ c.instruction.creditAccount
  due : ∀ executeBy ∈ c.instruction.executeBy,
    ∃ order, Date.compareText executeBy c.today = .ok order ∧ order ≠ .gt
  covered : debit.balance.isBelow amount = false

theorem Rule.firstCode_precedence_eq_none_iff {c : Case} :
    firstCode c precedence = .ok none ↔ ∃ debit credit amount, Cleared c debit credit amount := by
  simp only [firstCode_eq_none_iff, precedence, List.forall_mem_cons]
  constructor
  · intro hparts
    obtain ⟨hexist, hcurrency, hdistinct, hschedule, hfunds, _⟩ := hparts
    obtain ⟨debit, credit, hdebit, hcredit⟩ := check_accountsExist_iff.mp hexist
    obtain ⟨hsame, hcurrency⟩ := (check_currencyAgreement_iff hdebit hcredit).mp hcurrency
    obtain ⟨amount, hamount, hcovered⟩ := (check_sufficientFunds_iff hdebit).mp hfunds
    exact ⟨debit, credit, amount, hdebit, hcredit, hamount, hsame, hcurrency,
      check_distinctAccounts_iff.mp hdistinct, check_schedule_iff.mp hschedule, hcovered⟩
  · intro hparts
    obtain ⟨debit, credit, amount, h⟩ := hparts
    exact ⟨check_accountsExist_iff.mpr ⟨debit, credit, h.debit_eq, h.credit_eq⟩,
      (check_currencyAgreement_iff h.debit_eq h.credit_eq).mpr ⟨h.same_currency, h.currency_eq⟩,
      check_distinctAccounts_iff.mpr h.distinct, check_schedule_iff.mpr h.due,
      (check_sufficientFunds_iff h.debit_eq).mpr ⟨amount, h.amount_eq, h.covered⟩, by simp⟩

end Remittance
