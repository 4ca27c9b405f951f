import Remittance.Proofs.Calendar.Written
import Remittance.Proofs.Outcome

namespace Remittance

open Remittance.Text

variable {snapshot : Snapshot} {text : Text} {today : Date} {instruction : Instruction}
  {result : Result}

theorem Ledger.lookup?_of_transfer {debit credit : Account} (hne : debit.id ≠ credit.id)
    {amount : Int} {ledger : Ledger} (h : transfer debit credit amount = .ok ledger) :
    ∃ paid received, debit.balance.minus amount = .ok paid ∧
      credit.balance.plus amount = .ok received ∧
      ledger.lookup? debit.id = some ⟨debit.balance, paid⟩ ∧
      ledger.lookup? credit.id = some ⟨credit.balance, received⟩ := by
  obtain ⟨paid, hpaid, h⟩ := bind_eq_ok_iff.mp h
  obtain ⟨received, hreceived, h⟩ := bind_eq_ok_iff.mp h
  obtain rfl := Except.ok.inj h
  refine ⟨paid, received, hpaid, hreceived, ?_⟩
  rw [ofEntries, List.foldl_cons, List.foldl_cons, List.foldl_nil]
  simp only [lookup?_record, if_true, if_neg hne.symm, and_self]

theorem Ledger.transfer_whole {debit credit : Account} {funds savings : Int}
    (hdebit : debit.balance = .whole funds) (hcredit : credit.balance = .whole savings)
    (hne : debit.id ≠ credit.id) (amount : Int) {ledger : Ledger}
    (h : transfer debit credit amount = .ok ledger) :
    ledger.lookup? debit.id = some ⟨.whole funds, .whole (funds - amount)⟩ ∧
      ledger.lookup? credit.id = some ⟨.whole savings, .whole (savings + amount)⟩ := by
  obtain ⟨paid, received, hpaid, hreceived, hentries⟩ := lookup?_of_transfer hne h
  rw [hdebit, Balance.minus_whole] at hpaid
  rw [hcredit, Balance.plus_whole] at hreceived
  obtain rfl := Except.ok.inj hpaid
  obtain rfl := Except.ok.inj hreceived
  rwa [hdebit, hcredit] at hentries

/-- A record that no money moved on. -/
def View.unchanged (account : Account) : View :=
  ⟨account.id, account.balance, account.balance, upper account.currency⟩

theorem View.ofAccount_of_lookup? {ledger : Ledger} {account : Account} {entry : Entry}
    (h : ledger.lookup? account.id = some entry) :
    (ofAccount ledger account).balance = entry.after ∧
      (ofAccount ledger account).balanceBefore = entry.before := by
  simp [ofAccount, h]

/-- What an executed result says of the two records that money moved between. Of records that
share an id only the first counts, and every view with the id shows its balance. -/
structure Moves (snapshot : Snapshot) (today : Date) (result : Result) (debit credit : Account)
    (amount funds savings : Int) : Prop where
  amount_eq : result.instruction.amount = some amount
  amount_pos : 1 ≤ amount
  debit_id : result.instruction.debitAccount = some debit.id
  credit_id : result.instruction.creditAccount = some credit.id
  debit_isAccountId : Token.isAccountId debit.id
  credit_isAccountId : Token.isAccountId credit.id
  distinct : debit.id ≠ credit.id
  debit_first : snapshot.lookup? (some debit.id) = some debit
  credit_first : snapshot.lookup? (some credit.id) = some credit
  debit_currency : result.instruction.currency = some (upper debit.currency)
  credit_currency : result.instruction.currency = some (upper credit.currency)
  supported : upper debit.currency ∈ Token.supportedCurrencies
  funds_eq : debit.balance = .whole funds
  savings_eq : credit.balance = .whole savings
  covered : amount ≤ funds
  due : ∀ executeBy ∈ result.instruction.executeBy,
    ∃ day, Date.ofWritten? executeBy = some day ∧ day.order today ≠ .gt
  debit_view : ∃ view ∈ result.views, view.id = debit.id
  credit_view : ∃ view ∈ result.views, view.id = credit.id
  view_cases : ∀ view ∈ result.views,
    (view.id = debit.id ∧ view.balanceBefore = .whole funds ∧
      view.balance = .whole (funds - amount) ∧ 0 ≤ funds - amount) ∨
    (view.id = credit.id ∧ view.balanceBefore = .whole savings ∧
      view.balance = .whole (savings + amount))

private theorem View.exists_of_mem {debitId creditId : Option Text} {ledger : Ledger}
    {account : Account}
    (hmem : account ∈ snapshot)
    (hnamed : debitId = some account.id ∨ creditId = some account.id) :
    ∃ view ∈ ofSnapshot snapshot debitId creditId ledger, view.id = account.id :=
  ⟨ofAccount ledger account, mem_ofSnapshot_iff.mpr ⟨account, hmem, hnamed, rfl⟩, rfl⟩

theorem Cleared.id_ne {debit credit : Account} {amount : Int}
    (h : Cleared (.ofSnapshot instruction snapshot today) debit credit amount) :
    debit.id ≠ credit.id := by
  obtain ⟨hdebitId, _, _⟩ := Snapshot.lookup?_of_account h.debit_eq
  obtain ⟨hcreditId, _, _⟩ := Snapshot.lookup?_of_account h.credit_eq
  intro heq
  apply h.distinct
  change instruction.debitAccount = instruction.creditAccount
  rw [hdebitId, hcreditId, heq]

theorem View.ofAccount_cases {debit credit account : Account} {amount : Int} {ledger : Ledger}
    {paid received : Entry}
    (hcleared : Cleared (.ofSnapshot instruction snapshot today) debit credit amount)
    (hpaid : ledger.lookup? debit.id = some paid)
    (hreceived : ledger.lookup? credit.id = some received)
    (hnamed : instruction.debitAccount = some account.id ∨
      instruction.creditAccount = some account.id) :
    (account.id = debit.id ∧ (ofAccount ledger account).balanceBefore = paid.before ∧
        (ofAccount ledger account).balance = paid.after) ∨
      (account.id = credit.id ∧ (ofAccount ledger account).balanceBefore = received.before ∧
        (ofAccount ledger account).balance = received.after) := by
  obtain ⟨hdebitId, _, _⟩ := Snapshot.lookup?_of_account hcleared.debit_eq
  obtain ⟨hcreditId, _, _⟩ := Snapshot.lookup?_of_account hcleared.credit_eq
  rcases hnamed with hid | hid
  · obtain heq : debit.id = account.id := Option.some.inj (hdebitId.symm.trans hid)
    rw [heq] at hpaid
    obtain ⟨hafter, hbefore⟩ := View.ofAccount_of_lookup? hpaid
    exact .inl ⟨heq.symm, hbefore, hafter⟩
  · obtain heq : credit.id = account.id := Option.some.inj (hcreditId.symm.trans hid)
    rw [heq] at hreceived
    obtain ⟨hafter, hbefore⟩ := View.ofAccount_of_lookup? hreceived
    exact .inr ⟨heq.symm, hbefore, hafter⟩

theorem View.cases_of_cleared {debit credit : Account} {amount : Int} {code : Code}
    {ledger : Ledger} {paid received : Entry} {view : View}
    (hcleared : Cleared (.ofSnapshot instruction snapshot today) debit credit amount)
    (hpaid : ledger.lookup? debit.id = some paid)
    (hreceived : ledger.lookup? credit.id = some received)
    (hview : view ∈ (Result.of instruction code snapshot ledger).views) :
    (view.id = debit.id ∧ view.balanceBefore = paid.before ∧ view.balance = paid.after) ∨
      (view.id = credit.id ∧ view.balanceBefore = received.before ∧
        view.balance = received.after) := by
  obtain ⟨account, _, hnamed, rfl⟩ := View.mem_ofSnapshot_iff.mp hview
  exact View.ofAccount_cases hcleared hpaid hreceived hnamed

theorem moves_of_cleared {debit credit : Account} {amount : Int} {ledger : Ledger}
    (hwhole : ∀ account ∈ snapshot, ∃ balance, account.balance = .whole balance)
    (hcomplete : instruction.Complete)
    (hdate : ∀ executeBy ∈ instruction.executeBy, Date.isWritten executeBy)
    (hcleared : Cleared (.ofSnapshot instruction snapshot today) debit credit amount)
    (htransfer : Ledger.transfer debit credit amount = .ok ledger) :
    ∃ funds savings,
      Moves snapshot today (.of instruction .executed snapshot ledger) debit credit amount funds
        savings := by
  obtain ⟨hdebitId, hdebitFirst, hdebitMem⟩ := Snapshot.lookup?_of_account hcleared.debit_eq
  obtain ⟨hcreditId, hcreditFirst, hcreditMem⟩ := Snapshot.lookup?_of_account hcleared.credit_eq
  obtain ⟨funds, hfunds⟩ := hwhole debit hdebitMem
  obtain ⟨savings, hsavings⟩ := hwhole credit hcreditMem
  have hamount : instruction.amount = some amount := hcleared.amount_eq
  have hcurrency : instruction.currency = some (upper debit.currency) := hcleared.currency_eq
  have hdistinct := hcleared.id_ne
  have hcovered : amount ≤ funds := by
    have hbelow := hcleared.covered
    rw [hfunds, Balance.isBelow, decide_eq_false_iff_not] at hbelow
    omega
  obtain ⟨hdebitEntry, hcreditEntry⟩ :=
    Ledger.transfer_whole hfunds hsavings hdistinct amount htransfer
  obtain ⟨whole, hwholeAmount, hpos⟩ := hcomplete.amount
  obtain ⟨currency, hsupported, hnamed⟩ := hcomplete.currency
  obtain ⟨debitId, hdebitAccount, hdebitValid⟩ := hcomplete.account .debit
  obtain ⟨creditId, hcreditAccount, hcreditValid⟩ := hcomplete.account .credit
  obtain rfl : amount = whole := Option.some.inj (hamount.symm.trans hwholeAmount)
  obtain rfl : upper debit.currency = currency := Option.some.inj (hcurrency.symm.trans hnamed)
  obtain rfl : debit.id = debitId := Option.some.inj (hdebitId.symm.trans hdebitAccount)
  obtain rfl : credit.id = creditId := Option.some.inj (hcreditId.symm.trans hcreditAccount)
  refine ⟨funds, savings, {
    amount_eq := hamount
    amount_pos := hpos
    debit_id := hdebitId
    credit_id := hcreditId
    debit_isAccountId := hdebitValid
    credit_isAccountId := hcreditValid
    distinct := hdistinct
    debit_first := hdebitFirst
    credit_first := hcreditFirst
    debit_currency := hcurrency
    credit_currency := hcleared.same_currency ▸ hcurrency
    supported := hsupported
    funds_eq := hfunds
    savings_eq := hsavings
    covered := hcovered
    due := ?_
    debit_view := View.exists_of_mem hdebitMem (.inl hdebitId)
    credit_view := View.exists_of_mem hcreditMem (.inr hcreditId)
    view_cases := ?_ }⟩
  · intro executeBy hexecuteBy
    obtain ⟨day, hday, hcompare⟩ := Date.compareText_of_isWritten (hdate executeBy hexecuteBy)
    obtain ⟨order, horder, hnotLater⟩ := hcleared.due executeBy hexecuteBy
    obtain rfl := Except.ok.inj ((hcompare today).symm.trans horder)
    exact ⟨day, hday, hnotLater⟩
  · intro view hview
    rcases View.cases_of_cleared hcleared hdebitEntry hcreditEntry hview with
      ⟨hid, hbefore, hafter⟩ | hcredit
    · exact .inl ⟨hid, hbefore, hafter, by omega⟩
    · exact .inr hcredit

def Instruction.names (instruction : Instruction) (account : Account) : Bool :=
  instruction.debitAccount == some account.id || instruction.creditAccount == some account.id

theorem Ends.views_of_code_ne_executed (h : Ends snapshot text today result)
    (hcode : result.code ≠ .executed) :
    result.views = (snapshot.filter result.instruction.names).map View.unchanged := by
  cases h with
  | refused => rfl
  | executed => exact absurd rfl hcode

/-- Money moves only when everything checks out, and moves exactly. -/
theorem process_moves_exactly
    (hwhole : ∀ account ∈ snapshot, ∃ balance, account.balance = .whole balance)
    (text : Text) (today : Date) :
    let result := (process snapshot text today).1
    (result.code = .executed → ∃ debit credit amount funds savings,
      Moves snapshot today result debit credit amount funds savings) ∧
    (result.code ≠ .executed →
      result.views = (snapshot.filter result.instruction.names).map View.unchanged) := by
  intro result
  cases houtcome : outcome snapshot text today with
  | error fault =>
      have hresult : result = Result.malformed := by
        simp only [result, process, houtcome]
      rw [hresult]
      constructor
      · intro hexecuted
        exact absurd hexecuted (by decide)
      · intro _
        simp [Result.malformed, Instruction.empty, Instruction.names]
  | ok ended =>
      have hresult : result = ended := by
        simp only [result, process, houtcome]
      have hends := ends_of_outcome houtcome
      rw [hresult]
      refine ⟨?_, hends.views_of_code_ne_executed⟩
      intro hexecuted
      cases hends with
      | refused hcode => exact absurd hexecuted hcode
      | @executed instruction debit credit amount ledger hmatch hdate hcleared htransfer =>
          exact ⟨debit, credit, amount, moves_of_cleared hwhole (Match.complete_of_matched hmatch)
            hdate hcleared htransfer⟩

/-- The later record with the id of the payer shows the balance of the first one. -/
theorem process_moves_exactly_repeated_id :
    let snapshot : Snapshot :=
      [⟨"a", .whole 500, "ngn"⟩, ⟨"a", .whole 7, "NGN"⟩, ⟨"b", .whole (-3), "NGN"⟩]
    let text : Text := "CREDIT 100 ngn TO ACCOUNT b FOR DEBIT FROM ACCOUNT a ON 2025-01-31"
    let result := (process snapshot text ⟨2025, 1, 31⟩).1
    result.code = .executed ∧ result.views.map View.balance = [.whole 400, .whole 400, .whole 97] ∧
      ∃ debit credit amount funds savings,
        Moves snapshot ⟨2025, 1, 31⟩ result debit credit amount funds savings := by
  intro snapshot text result
  have hwhole : ∀ account ∈ snapshot, ∃ balance, account.balance = .whole balance := by
    simp [snapshot]
  have hcode : result.code = .executed := by decide +kernel
  have hviews : result.views.map View.balance = [.whole 400, .whole 400, .whole 97] := by
    decide +kernel
  exact ⟨hcode, hviews, (process_moves_exactly hwhole text ⟨2025, 1, 31⟩).1 hcode⟩

end Remittance
