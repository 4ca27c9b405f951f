import Mathlib.Algebra.Ring.Int.Defs
import Mathlib.Data.List.Forall2
import Mathlib.Data.List.Nodup
import Remittance.Proofs.Transfer
import Remittance.Session

namespace Remittance

open Remittance.Text

namespace Snapshot

def after (snapshot : Snapshot) (text : Text) (today : Date) : Snapshot :=
  let result := (process snapshot text today).1
  if result.code = .executed then snapshot.apply result.views else snapshot

def run (snapshot : Snapshot) : List (Text × Date) → Snapshot
  | [] => snapshot
  | (text, today) :: turns => (snapshot.after text today).run turns

end Snapshot

def Balance.whole? : Balance → Option Int
  | whole n => some n
  | binary _ => none

def Snapshot.total (snapshot : Snapshot) (currency : Text) : Int :=
  ((snapshot.filter (upper ·.currency = currency)).filterMap (·.balance.whole?)).sum

/-- A record that keeps its id and currency, and whose balance is at least the smaller of zero and
what it was. -/
structure Account.Kept (before after : Account) : Prop where
  id : after.id = before.id
  currency : after.currency = before.currency
  balance : ∃ funds left, before.balance = .whole funds ∧ after.balance = .whole left ∧
    min 0 funds ≤ left

/-- Two snapshots of the same records, with as much money in each currency. -/
structure Snapshot.Conserves (before after : Snapshot) : Prop where
  records : List.Forall₂ Account.Kept before after
  totals : ∀ currency, after.total currency = before.total currency

theorem Account.Kept.trans {a b c : Account} (hab : a.Kept b) (hbc : b.Kept c) : a.Kept c := by
  obtain ⟨funds, left, hfunds, hleft, hfloor⟩ := hab.balance
  obtain ⟨held, rest, hheld, hrest, hnext⟩ := hbc.balance
  obtain rfl : left = held := Balance.whole.inj (hleft.symm.trans hheld)
  exact ⟨hbc.id.trans hab.id, hbc.currency.trans hab.currency, funds, rest, hfunds, hrest, by omega⟩

namespace Snapshot

variable {snapshot middle last : Snapshot} {text : Text} {today : Date} {result : Result}

private theorem records_trans (h : List.Forall₂ Account.Kept snapshot middle)
    (hnext : List.Forall₂ Account.Kept middle last) :
    List.Forall₂ Account.Kept snapshot last := by
  induction h generalizing last with
  | nil => exact hnext
  | cons hfirst _ ih =>
      cases hnext with
      | cons hsecond hrest => exact .cons (hfirst.trans hsecond) (ih hrest)

theorem Conserves.trans (h : snapshot.Conserves middle) (hnext : middle.Conserves last) :
    snapshot.Conserves last :=
  ⟨records_trans h.records hnext.records,
    fun currency => (hnext.totals currency).trans (h.totals currency)⟩

def IsWhole (snapshot : Snapshot) : Prop :=
  ∀ account ∈ snapshot, ∃ balance, account.balance = .whole balance

theorem Conserves.refl (hwhole : snapshot.IsWhole) : snapshot.Conserves snapshot := by
  refine ⟨List.forall₂_same.mpr ?_, fun _ => rfl⟩
  intro account hmem
  obtain ⟨balance, hbalance⟩ := hwhole account hmem
  exact ⟨rfl, rfl, balance, balance, hbalance, hbalance, by omega⟩

private theorem isWhole_of_records (h : List.Forall₂ Account.Kept snapshot last) :
    last.IsWhole := by
  induction h with
  | nil => simp [IsWhole]
  | cons hfirst _ ih =>
      obtain ⟨_, left, _, hleft, _⟩ := hfirst.balance
      exact List.forall_mem_cons.mpr ⟨⟨left, hleft⟩, ih⟩

private theorem map_id_of_records (h : List.Forall₂ Account.Kept snapshot last) :
    last.map Account.id = snapshot.map Account.id := by
  induction h with
  | nil => rfl
  | cons hfirst _ ih => rw [List.map_cons, List.map_cons, hfirst.id, ih]

def set (snapshot : Snapshot) (id : Text) (balance : Int) : Snapshot :=
  snapshot.map fun account =>
    if account.id = id then { account with balance := .whole balance } else account

private theorem mem_set_of_ne {account : Account} {id : Text} (hmem : account ∈ snapshot)
    (hne : account.id ≠ id) (balance : Int) : account ∈ snapshot.set id balance :=
  List.mem_map.mpr ⟨account, hmem, if_neg hne⟩

private theorem set_of_not_mem {id : Text} (h : id ∉ snapshot.map Account.id) (balance : Int) :
    snapshot.set id balance = snapshot := by
  conv_rhs => rw [← List.map_id snapshot]
  apply List.map_congr_left
  intro account hmem
  have hne : account.id ≠ id := fun heq => h (heq ▸ List.mem_map_of_mem hmem)
  exact if_neg hne

private theorem total_cons (account : Account) (snapshot : Snapshot) (currency : Text) :
    total (account :: snapshot) currency =
      (if upper account.currency = currency then account.balance.whole?.getD 0 else 0) +
        snapshot.total currency := by
  unfold total
  by_cases hcurrency : upper account.currency = currency
  · rw [List.filter_cons_of_pos (by simpa using hcurrency), if_pos hcurrency]
    cases hbalance : account.balance.whole? with
    | none => simp [hbalance]
    | some n => simp [hbalance]
  · rw [List.filter_cons_of_neg (by simpa using hcurrency), if_neg hcurrency, Int.zero_add]

theorem total_set {account : Account} {funds : Int}
    (hdistinct : (snapshot.map Account.id).Nodup) (hmem : account ∈ snapshot)
    (hfunds : account.balance = .whole funds) (balance : Int) (currency : Text) :
    (snapshot.set account.id balance).total currency =
      snapshot.total currency +
        if upper account.currency = currency then balance - funds else 0 := by
  induction snapshot with
  | nil => cases hmem
  | cons first rest ih =>
      obtain ⟨hfresh, hdistinct⟩ := List.nodup_cons.mp hdistinct
      rcases List.mem_cons.mp hmem with rfl | hrest
      · have hset : set (account :: rest) account.id balance =
            { account with balance := .whole balance } :: rest := by
          rw [set, List.map_cons, if_pos rfl]
          exact congrArg _ (set_of_not_mem hfresh balance)
        rw [hset, total_cons, total_cons, hfunds]
        simp only [Balance.whole?, Option.getD_some]
        split <;> omega
      · have hne : first.id ≠ account.id := fun heq =>
          hfresh (heq ▸ List.mem_map_of_mem hrest)
        have hset : set (first :: rest) account.id balance =
            first :: set rest account.id balance := by
          rw [set, List.map_cons, if_neg hne]
          rfl
        rw [hset, total_cons, total_cons, ih hdistinct hrest]
        omega

private theorem records_set {account : Account} {funds balance : Int}
    (hwhole : snapshot.IsWhole) (hdistinct : (snapshot.map Account.id).Nodup)
    (hmem : account ∈ snapshot) (hfunds : account.balance = .whole funds)
    (hfloor : min 0 funds ≤ balance) :
    List.Forall₂ Account.Kept snapshot (snapshot.set account.id balance) := by
  rw [set, List.forall₂_map_right_iff, List.forall₂_same]
  intro other hother
  split
  · rename_i heq
    obtain rfl := List.inj_on_of_nodup_map hdistinct hother hmem heq
    exact ⟨rfl, rfl, funds, balance, hfunds, rfl, hfloor⟩
  · obtain ⟨n, hn⟩ := hwhole other hother
    exact ⟨rfl, rfl, n, n, hn, hn, by omega⟩

theorem apply_of_moves {debit credit : Account} {amount funds savings : Int}
    (h : Moves snapshot today result debit credit amount funds savings) :
    snapshot.apply result.views =
      (snapshot.set debit.id (funds - amount)).set credit.id (savings + amount) := by
  rw [apply, set, set, List.map_map]
  apply List.map_congr_left
  intro account _
  simp only [Function.comp_apply]
  cases hfind : result.views.reverse.find? (·.id == account.id) with
  | some view =>
      have hview : view ∈ result.views := List.mem_reverse.mp (List.mem_of_find?_eq_some hfind)
      have hid : view.id = account.id := by simpa using List.find?_some hfind
      rcases h.view_cases view hview with ⟨hdebit, _, hbalance, _⟩ | ⟨hcredit, _, hbalance⟩
      · have heq : account.id = debit.id := hid.symm.trans hdebit
        have hne : account.id ≠ credit.id := fun hcredit => h.distinct (heq.symm.trans hcredit)
        simp only [if_pos heq, if_neg hne, hbalance]
      · have heq : account.id = credit.id := hid.symm.trans hcredit
        have hne : account.id ≠ debit.id := fun hdebit => h.distinct (hdebit.symm.trans heq)
        simp only [if_neg hne, if_pos heq, hbalance]
  | none =>
      have hnone (view : View) (hview : view ∈ result.views) : view.id ≠ account.id := by
        simpa using List.find?_eq_none.mp hfind view (List.mem_reverse.mpr hview)
      have hdebit : account.id ≠ debit.id := fun heq => by
        obtain ⟨view, hview, hid⟩ := h.debit_view
        exact hnone view hview (hid.trans heq.symm)
      have hcredit : account.id ≠ credit.id := fun heq => by
        obtain ⟨view, hview, hid⟩ := h.credit_view
        exact hnone view hview (hid.trans heq.symm)
      simp only [if_neg hdebit, if_neg hcredit]

theorem conserves_of_moves (hwhole : snapshot.IsWhole)
    (hdistinct : (snapshot.map Account.id).Nodup) {debit credit : Account}
    {amount funds savings : Int}
    (h : Moves snapshot today result debit credit amount funds savings) :
    snapshot.Conserves (snapshot.apply result.views) := by
  have hdebit := (lookup?_sound h.debit_first).1
  have hcredit := (lookup?_sound h.credit_first).1
  have hpos := h.amount_pos
  have hcovered := h.covered
  have hsame : upper credit.currency = upper debit.currency :=
    Option.some.inj (h.credit_currency.symm.trans h.debit_currency)
  have hpaid : List.Forall₂ Account.Kept snapshot (snapshot.set debit.id (funds - amount)) :=
    records_set hwhole hdistinct hdebit h.funds_eq (by omega)
  -- the receiver is untouched by what the payer gives
  have hcreditPaid := mem_set_of_ne hcredit h.distinct.symm (funds - amount)
  have hdistinctPaid : ((snapshot.set debit.id (funds - amount)).map Account.id).Nodup := by
    rwa [map_id_of_records hpaid]
  rw [apply_of_moves h]
  constructor
  · exact records_trans hpaid
      (records_set (isWhole_of_records hpaid) hdistinctPaid hcreditPaid h.savings_eq (by omega))
  · intro currency
    rw [total_set hdistinctPaid hcreditPaid h.savings_eq, total_set hdistinct hdebit h.funds_eq,
      hsame]
    split <;> omega

end Snapshot

private theorem Ends.exists_moves {snapshot : Snapshot} {text : Text} {today : Date}
    {result : Result}
    (h : Ends snapshot text today result) (hwhole : snapshot.IsWhole)
    (hexecuted : result.code = .executed) :
    ∃ debit credit amount funds savings,
      Moves snapshot today result debit credit amount funds savings := by
  cases h with
  | refused hcode => exact absurd hexecuted hcode
  | @executed instruction debit credit amount ledger hmatch hdate hcleared htransfer =>
      exact ⟨debit, credit, amount, moves_of_cleared hwhole (Match.complete_of_matched hmatch)
        hdate hcleared htransfer⟩

namespace Snapshot

variable {snapshot : Snapshot}

private theorem conserves_after (hwhole : snapshot.IsWhole)
    (hdistinct : (snapshot.map Account.id).Nodup) (text : Text) (today : Date) :
    snapshot.Conserves (snapshot.after text today) := by
  rw [after, process]
  cases houtcome : outcome snapshot text today with
  | error fault => exact .refl hwhole
  | ok result =>
      simp only
      split
      · rename_i hexecuted
        obtain ⟨debit, credit, amount, funds, savings, hmoves⟩ :=
          (ends_of_outcome houtcome).exists_moves hwhole hexecuted
        exact conserves_of_moves hwhole hdistinct hmoves
      · exact .refl hwhole

/-- Whatever is processed, money only changes hands, and nobody goes into debt. -/
theorem run_conserves (hwhole : snapshot.IsWhole)
    (hdistinct : (snapshot.map Account.id).Nodup) (turns : List (Text × Date)) :
    snapshot.Conserves (snapshot.run turns) := by
  induction turns generalizing snapshot with
  | nil => exact .refl hwhole
  | cons turn turns ih =>
      have hafter := conserves_after hwhole hdistinct turn.1 turn.2
      have hrest := ih (isWhole_of_records hafter.records)
        (by rwa [map_id_of_records hafter.records])
      exact hafter.trans hrest

/-- One transfer goes through, one is not covered, one is not due yet, and one gives back all. -/
theorem run_conserves_there_and_back :
    let snapshot : Snapshot := [⟨"a", .whole 500, "ngn"⟩, ⟨"u", .whole 9, "USD"⟩,
      ⟨"b", .whole (-3), "NGN"⟩]
    let turns : List (Text × Date) := [
      ("DEBIT 100 ngn FROM ACCOUNT a FOR CREDIT TO ACCOUNT b", ⟨2025, 1, 31⟩),
      ("DEBIT 98 NGN FROM ACCOUNT b FOR CREDIT TO ACCOUNT a", ⟨2025, 1, 31⟩),
      ("DEBIT 1 NGN FROM ACCOUNT b FOR CREDIT TO ACCOUNT a ON 2025-02-01", ⟨2025, 1, 31⟩),
      ("CREDIT 97 NGN TO ACCOUNT a FOR DEBIT FROM ACCOUNT b", ⟨2025, 2, 1⟩)]
    (snapshot.run turns).map Account.balance = [.whole 497, .whole 9, .whole 0] ∧
      snapshot.Conserves (snapshot.run turns) := by
  intro snapshot turns
  have hwhole : snapshot.IsWhole := by simp [IsWhole, snapshot]
  have hdistinct : (snapshot.map Account.id).Nodup := by decide
  exact ⟨by decide +kernel, run_conserves hwhole hdistinct turns⟩

end Snapshot

private theorem Snapshot.apply_unchanged {snapshot : Snapshot}
    (hdistinct : (snapshot.map Account.id).Nodup) (named : Account → Bool) :
    snapshot.apply ((snapshot.filter named).map View.unchanged) = snapshot := by
  conv_rhs => rw [← List.map_id snapshot]
  apply List.map_congr_left
  intro account hmem
  split
  · rename_i view hfind
    have hview := List.mem_reverse.mp (List.mem_of_find?_eq_some hfind)
    obtain ⟨other, hother, rfl⟩ := List.mem_map.mp hview
    have hid : other.id = account.id := by simpa [View.unchanged] using List.find?_some hfind
    obtain rfl := List.inj_on_of_nodup_map hdistinct (List.mem_of_mem_filter hother) hmem hid
    rfl
  · rfl

theorem Session.snapshot_apply_process (settings : Settings) (session : Session)
    (hdistinct : (session.snapshot.map Account.id).Nodup) (text : Text) :
    ((session.step settings (.process text)).session.step settings .apply).session.snapshot =
      session.snapshot.after text session.today := by
  have hunchanged : session.snapshot.apply [] = session.snapshot := by
    simpa using Snapshot.apply_unchanged hdistinct fun _ => false
  change session.snapshot.apply (process session.snapshot text session.today).1.views = _
  rw [Snapshot.after, process]
  cases houtcome : outcome session.snapshot text session.today with
  | error fault => exact hunchanged
  | ok result =>
      simp only
      split
      · rfl
      · rename_i hcode
        rw [(ends_of_outcome houtcome).views_of_code_ne_executed hcode]
        exact Snapshot.apply_unchanged hdistinct _

end Remittance
