import Mathlib.Data.List.Forall2
import Remittance.Payload
import Remittance.Proofs.Transfer

namespace Remittance

open Remittance.Text

variable {snapshot : Snapshot} {text : Text} {today : Date} {instruction : Instruction}

/-! Each view is of one record. A ledger is kept by id, so after a transfer the records that share
an id show the balance of the first one. -/

structure View.IsOf (snapshot : Snapshot) (code : Code) (account : Account) (view : View) :
    Prop where
  id : view.id = account.id
  currency : view.currency = upper account.currency
  own : (code = .executed → snapshot.IsFirst (some account.id) account) →
    view.balanceBefore = account.balance
  shared : code = .executed → ∀ first, snapshot.IsFirst (some account.id) first →
    view.balanceBefore = first.balance

private theorem View.isOf_unchanged {code : Code} (hcode : code ≠ .executed) (account : Account) :
    IsOf snapshot code account (ofAccount [] account) where
  id := rfl
  currency := rfl
  own _ := rfl
  shared h := absurd h hcode

theorem View.exists_isFirst_of_cleared {debit credit account : Account} {amount : Int}
    {ledger : Ledger}
    (hcleared : Cleared (.ofSnapshot instruction snapshot today) debit credit amount)
    (htransfer : Ledger.transfer debit credit amount = .ok ledger)
    (hnamed : instruction.names account) :
    ∃ first, snapshot.IsFirst (some account.id) first ∧
      (ofAccount ledger account).balanceBefore = first.balance := by
  obtain ⟨_, hdebitFirst, _⟩ := Snapshot.lookup?_of_account hcleared.debit_eq
  obtain ⟨_, hcreditFirst, _⟩ := Snapshot.lookup?_of_account hcleared.credit_eq
  obtain ⟨_, _, _, _, hdebitEntry, hcreditEntry⟩ :=
    Ledger.lookup?_of_transfer hcleared.id_ne htransfer
  rw [Instruction.names, Bool.or_eq_true, beq_iff_eq, beq_iff_eq] at hnamed
  rcases ofAccount_cases hcleared hdebitEntry hcreditEntry hnamed with
    ⟨hid, hbefore, _⟩ | ⟨hid, hbefore, _⟩
  · rw [hid]
    exact ⟨debit, Snapshot.lookup?_eq_some_iff.mp hdebitFirst, hbefore⟩
  · rw [hid]
    exact ⟨credit, Snapshot.lookup?_eq_some_iff.mp hcreditFirst, hbefore⟩

private theorem View.isOf_of_cleared {debit credit account : Account} {amount : Int}
    {ledger : Ledger}
    (hcleared : Cleared (.ofSnapshot instruction snapshot today) debit credit amount)
    (htransfer : Ledger.transfer debit credit amount = .ok ledger)
    (hnamed : instruction.names account) :
    IsOf snapshot .executed account (ofAccount ledger account) := by
  obtain ⟨first, hfirst, hbefore⟩ := exists_isFirst_of_cleared hcleared htransfer hnamed
  refine ⟨rfl, rfl, fun hown => ?_, fun _ other hother => ?_⟩
  · rw [hbefore, hfirst.unique (hown rfl)]
  · rw [hbefore, hfirst.unique hother]

theorem View.forall₂_ofSnapshot {code : Code} {ledger : Ledger}
    (h : ∀ account, instruction.names account →
      IsOf snapshot code account (ofAccount ledger account)) :
    List.Forall₂ (IsOf snapshot code) (snapshot.filter instruction.names)
      (Result.of instruction code snapshot ledger).views := by
  change List.Forall₂ _ _ ((snapshot.filter instruction.names).map (ofAccount ledger))
  rw [List.forall₂_map_right_iff, List.forall₂_same]
  intro account hmem
  exact h account (List.mem_filter.mp hmem).2

/-- The views are of the named records, one of each, in their order. -/
theorem process_views (snapshot : Snapshot) (text : Text) (today : Date) :
    let result := (process snapshot text today).1
    List.Forall₂ (View.IsOf snapshot result.code) (snapshot.filter result.instruction.names)
      result.views := by
  intro result
  cases houtcome : outcome snapshot text today with
  | error fault =>
      have hresult : result = Result.malformed :=
        congrArg Prod.fst (process_of_outcome_error houtcome)
      rw [hresult]
      simp [Result.malformed, Instruction.empty, Instruction.names]
  | ok ended =>
      have hresult : result = ended := congrArg Prod.fst (process_of_outcome_ok houtcome)
      rw [hresult]
      cases ends_of_outcome houtcome with
      | refused hcode =>
          exact View.forall₂_ofSnapshot fun account _ => View.isOf_unchanged hcode account
      | executed hmatch hdate hcleared htransfer =>
          exact View.forall₂_ofSnapshot fun _ hnamed =>
            View.isOf_of_cleared hcleared htransfer hnamed

/-- A payload may repeat an id, and then the later record shows the balance of the first one. -/
theorem process_views_repeated_id :
    let account (id : String) (balance : Int) : Json :=
      .object [("id", .string id), ("balance", .whole balance), ("currency", .string "NGN")]
    let payload : Json := .object [
      ("accounts", .array [account "a" 500, account "a" 7, account "b" (-3)]),
      ("instruction", .string "DEBIT 100 NGN FROM ACCOUNT a FOR CREDIT TO ACCOUNT b")]
    ∃ snapshot text, Payload.ofJson payload = .ok ⟨snapshot, text⟩ ∧
      let result := (process snapshot text ⟨2025, 1, 31⟩).1
      result.code = .executed ∧
        (snapshot.filter result.instruction.names).map Account.balance =
          [.whole 500, .whole 7, .whole (-3)] ∧
        result.views.map View.balanceBefore = [.whole 500, .whole 500, .whole (-3)] := by
  intro account payload
  exact ⟨[⟨"a", .whole 500, "NGN"⟩, ⟨"a", .whole 7, "NGN"⟩, ⟨"b", .whole (-3), "NGN"⟩],
    "DEBIT 100 NGN FROM ACCOUNT a FOR CREDIT TO ACCOUNT b", by decide +kernel, by decide +kernel,
    by decide +kernel, by decide +kernel⟩

end Remittance
