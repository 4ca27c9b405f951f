import Mathlib.Data.List.Nodup
import Remittance.Proofs.Precedence
import Remittance.Proofs.Syntax

namespace Remittance

open Remittance.Text

variable {snapshot other : Snapshot} {text : Text} {instruction : Instruction}

def Instruction.accountIds (instruction : Instruction) : List Text :=
  instruction.debitAccount.toList ++ instruction.creditAccount.toList

def Text.accountIds (text : Text) : List Text :=
  match Match.ofText text with
  | .ok found => found.instruction.accountIds
  | .error _ => []

def Snapshot.under (snapshot : Snapshot) (ids : List Text) : Snapshot :=
  snapshot.filter fun account => ids.contains account.id

namespace Instruction

private theorem mem_accountIds_iff {id : Text} : id ∈ instruction.accountIds ↔
    instruction.debitAccount = some id ∨ instruction.creditAccount = some id := by
  simp [accountIds]

private theorem filter_names (snapshot : Snapshot) :
    snapshot.filter instruction.names = snapshot.under instruction.accountIds := by
  apply List.filter_congr
  intro account _
  rw [Bool.eq_iff_iff, List.contains_iff_mem, mem_accountIds_iff, names, Bool.or_eq_true,
    beq_iff_eq, beq_iff_eq]

end Instruction

private theorem Text.accountIds_of_ofText {found : Match} (h : Match.ofText text = .ok found) :
    text.accountIds = found.instruction.accountIds := by
  rw [accountIds, h]

/-! An id leads to the same record wherever the records with that id are the same, and wherever ids
are distinct and the records come in another order. -/

namespace Snapshot

private theorem lookup?_under {ids : List Text} {id : Text} (h : id ∈ ids) :
    (snapshot.under ids).lookup? (some id) = snapshot.lookup? (some id) := by
  rw [lookup?, lookup?, under, List.find?_filter]
  congr 1
  funext account
  by_cases hid : account.id = id
  · simp [hid, h]
  · simp [hid]

theorem lookup?_eq_some_iff_of_nodup (hdistinct : (snapshot.map Account.id).Nodup) {id : Text}
    {account : Account} :
    snapshot.lookup? (some id) = some account ↔ account ∈ snapshot ∧ account.id = id := by
  constructor
  · exact lookup?_sound
  · rintro ⟨hmem, rfl⟩
    obtain ⟨first, hfirst⟩ := lookup?_complete hmem
    obtain ⟨hfirstMem, hid⟩ := lookup?_sound hfirst
    rw [hfirst, List.inj_on_of_nodup_map hdistinct hfirstMem hmem hid]

theorem lookup?_of_perm (hperm : snapshot.Perm other)
    (hdistinct : (snapshot.map Account.id).Nodup) (id : Text) :
    snapshot.lookup? (some id) = other.lookup? (some id) := by
  have hother : (other.map Account.id).Nodup := (hperm.map Account.id).nodup_iff.mp hdistinct
  apply Option.ext
  intro account
  rw [lookup?_eq_some_iff_of_nodup hdistinct, lookup?_eq_some_iff_of_nodup hother, hperm.mem_iff]

end Snapshot

/-- The entries that a verdict writes: those of the transfer, if it is cleared. -/
def Verdict.entries (verdict : Verdict) (instruction : Instruction) : Except Fault Ledger :=
  if verdict.cleared then
    match verdict.debit, verdict.credit, instruction.amount with
    | some debit, some credit, some amount => Ledger.transfer debit credit amount
    | _, _, _ => .error (.absentAccount "id")
  else .ok []

private theorem Verdict.enact_eq_map (verdict : Verdict) (instruction : Instruction)
    (snapshot : Snapshot) :
    verdict.enact instruction snapshot =
      (verdict.entries instruction).map (.of instruction verdict.code snapshot) := by
  unfold enact entries
  split
  · rename_i hcleared
    have hcode : verdict.code = .executed := beq_iff_eq.mp hcleared
    rw [hcode]
    cases verdict.debit with
    | none => rfl
    | some debit =>
        cases verdict.credit with
        | none => rfl
        | some credit =>
            cases instruction.amount with
            | none => rfl
            | some amount => cases Ledger.transfer debit credit amount <;> rfl
  · rfl

/-- Two runs of a text that fault alike, or say the same of it, each with views of its own
records. -/
inductive RunsAlike (text : Text) (snapshot other : Snapshot) :
    Except Fault Result → Except Fault Result → Prop
  | fault (fault : Fault) : RunsAlike text snapshot other (.error fault) (.error fault)
  | result {found : Match} (hfound : Match.ofText text = .ok found) (code : Code)
      (ledger : Ledger) :
      RunsAlike text snapshot other (.ok (.of found.instruction code snapshot ledger))
        (.ok (.of found.instruction code other ledger))

private theorem Verdict.of_congr
    (h : ∀ id ∈ instruction.accountIds, snapshot.lookup? (some id) = other.lookup? (some id))
    (today : Date) :
    Verdict.of instruction snapshot today = Verdict.of instruction other today := by
  have hlookup (id? : Option Text) (hid : ∀ id ∈ id?, id ∈ instruction.accountIds) :
      snapshot.lookup? id? = other.lookup? id? := by
    cases id? with
    | none => rfl
    | some id => exact h id (hid id rfl)
  have hdebit := hlookup instruction.debitAccount fun id hid =>
    Instruction.mem_accountIds_iff.mpr (.inl hid)
  have hcredit := hlookup instruction.creditAccount fun id hid =>
    Instruction.mem_accountIds_iff.mpr (.inr hid)
  rw [Verdict.of, Verdict.of, hdebit, hcredit]

theorem runsAlike_outcome
    (h : ∀ id ∈ text.accountIds, snapshot.lookup? (some id) = other.lookup? (some id))
    (today : Date) :
    RunsAlike text snapshot other (outcome snapshot text today) (outcome other text today) := by
  rw [outcome_eq_ofText, outcome_eq_ofText]
  cases hfound : Match.ofText text with
  | error fault => exact .fault fault
  | ok found =>
      rw [accountIds_of_ofText hfound] at h
      cases hfailure : found.failure with
      | some code =>
          simp only [bind, Except.bind, hfailure]
          exact .result hfound code []
      | none =>
          simp only [bind, Except.bind, hfailure, settle_eq, Verdict.of_congr h]
          cases Verdict.of found.instruction other today with
          | error fault => exact .fault fault
          | ok verdict =>
              simp only [Verdict.enact_eq_map]
              cases verdict.entries found.instruction with
              | error fault => exact .fault fault
              | ok ledger => exact .result hfound verdict.code ledger

/-- Two results that say the same, and show the same records in any order. -/
structure Result.SameButOrder (a b : Result) : Prop where
  instruction : a.instruction = b.instruction
  code : a.code = b.code
  status : a.status = b.status
  reason : a.reason = b.reason
  views : a.views.Perm b.views
  view_eq : ∀ view ∈ a.views, ∀ other ∈ b.views, view.id = other.id → view = other

theorem Result.SameButOrder.malformed : Result.malformed.SameButOrder Result.malformed :=
  ⟨rfl, rfl, rfl, rfl, .refl _, by simp [Result.malformed]⟩

private theorem Result.views_of {found : Match} (h : Match.ofText text = .ok found) (code : Code)
    (snapshot : Snapshot) (ledger : Ledger) :
    (Result.of found.instruction code snapshot ledger).views =
      (snapshot.under text.accountIds).map (View.ofAccount ledger) := by
  rw [accountIds_of_ofText h, ← Instruction.filter_names]
  rfl

namespace RunsAlike

variable {first second : Except Fault Result}

private theorem eq_of_under (h : RunsAlike text snapshot other first second)
    (hunder : snapshot.under text.accountIds = other.under text.accountIds) : first = second := by
  cases h with
  | fault fault => rfl
  | @result found hfound code ledger =>
      refine congrArg Except.ok (Result.eq_of_views ?_ ?_ ?_)
      · rfl
      · rfl
      · rw [Result.views_of hfound, Result.views_of hfound, hunder]

private theorem eq_error {fault : Fault} (h : RunsAlike text snapshot other (.error fault) second) :
    second = .error fault := by
  cases h
  rfl

private theorem sameButOrder {result : Result}
    (h : RunsAlike text snapshot other (.ok result) second) (hperm : snapshot.Perm other)
    (hdistinct : (snapshot.map Account.id).Nodup) :
    ∃ same, second = .ok same ∧ result.SameButOrder same := by
  cases h with
  | @result found hfound code ledger =>
      have hviews : (Result.of found.instruction code snapshot ledger).views.Perm
          (Result.of found.instruction code other ledger).views := by
        rw [Result.views_of hfound, Result.views_of hfound]
        exact (hperm.filter _).map _
      refine ⟨_, rfl, rfl, rfl, rfl, rfl, hviews, ?_⟩
      intro view hview same hsame hid
      rw [← hviews.mem_iff, Result.views_of hfound] at hsame
      rw [Result.views_of hfound] at hview
      obtain ⟨account, haccount, rfl⟩ := List.mem_map.mp hview
      obtain ⟨twin, htwin, rfl⟩ := List.mem_map.mp hsame
      rw [List.inj_on_of_nodup_map hdistinct (List.mem_of_mem_filter haccount)
        (List.mem_of_mem_filter htwin) hid]

end RunsAlike

/-- Only the records with an id that the text names bear on a result and on what is recorded about
it; where ids are distinct, the order of the records only orders the views. -/
theorem process_named_accounts (settings : Settings) (snapshot other : Snapshot) (text : Text)
    (today : Date) :
    let turn (snapshot : Snapshot) :=
      ({ snapshot, today } : Session).step settings (.process text)
    (snapshot.under text.accountIds = other.under text.accountIds →
      (process snapshot text today).1 = (process other text today).1 ∧
        (turn snapshot).events = (turn other).events) ∧
    (snapshot.Perm other → (snapshot.map Account.id).Nodup →
      (process snapshot text today).1.SameButOrder (process other text today).1 ∧
        (turn snapshot).events = (turn other).events) := by
  intro turn
  have hevents (snapshot : Snapshot) :
      (turn snapshot).events = (process snapshot text today).2.toList.map .unexpected := rfl
  rw [hevents, hevents]
  constructor
  · intro hunder
    have hlookup : ∀ id ∈ text.accountIds,
        snapshot.lookup? (some id) = other.lookup? (some id) := by
      intro id hid
      rw [← Snapshot.lookup?_under hid, hunder, Snapshot.lookup?_under hid]
    have houtcome := (runsAlike_outcome hlookup today).eq_of_under hunder
    have hprocess : process snapshot text today = process other text today := by
      rw [process, process, houtcome]
    rw [hprocess]
    exact ⟨rfl, rfl⟩
  · intro hperm hdistinct
    have hlookup : ∀ id ∈ text.accountIds,
        snapshot.lookup? (some id) = other.lookup? (some id) := fun id _ =>
      Snapshot.lookup?_of_perm hperm hdistinct id
    have hruns := runsAlike_outcome hlookup today
    cases houtcome : outcome snapshot text today with
    | error fault =>
        rw [houtcome] at hruns
        rw [process_of_outcome_error houtcome, process_of_outcome_error hruns.eq_error]
        exact ⟨.malformed, rfl⟩
    | ok result =>
        rw [houtcome] at hruns
        obtain ⟨same, hsame, halike⟩ := hruns.sameButOrder hperm hdistinct
        rw [process_of_outcome_ok houtcome, process_of_outcome_ok hsame]
        exact ⟨halike, rfl⟩

/-- Strangers before, between and after the accounts, and the accounts the other way round. -/
theorem process_named_accounts_reordered :
    let payer : Account := ⟨"a", .whole 500, "ngn"⟩
    let payee : Account := ⟨"b", .binary (.ofBits 0x4058C00000000000), "NGN"⟩
    let stranger (id : String) : Account := ⟨id, .binary .nan, "USD"⟩
    let text : Text := "DEBIT 100 ngn FROM ACCOUNT a FOR CREDIT TO ACCOUNT b"
    let plain : Snapshot := [payer, payee]
    let crowded : Snapshot := [stranger "A", payer, stranger "c", payee, stranger "c"]
    let result (snapshot : Snapshot) := (process snapshot text ⟨2025, 1, 31⟩).1
    (result plain).code = .executed ∧ result plain = result crowded ∧
      (result plain).SameButOrder (result [payee, payer]) ∧
      (result [payee, payer]).views.map View.id = ["b", "a"] := by
  intro payer payee stranger text plain crowded result
  have hunder : plain.under text.accountIds = crowded.under text.accountIds := by decide +kernel
  have hperm : plain.Perm [payee, payer] := .swap ..
  have hdistinct : (plain.map Account.id).Nodup := by decide
  refine ⟨by decide +kernel, ?_, ?_, by decide +kernel⟩
  · exact ((process_named_accounts {} plain crowded text ⟨2025, 1, 31⟩).1 hunder).1
  · exact ((process_named_accounts {} plain _ text ⟨2025, 1, 31⟩).2 hperm hdistinct).1

end Remittance
