import Mathlib.Data.List.Forall2
import Remittance.Proofs.Answer
import Remittance.Proofs.Text.Words

namespace Remittance

open Remittance.Text

/-- An account as an item of a body gives it. -/
def Account.IsGivenBy (account : Account) (item : Json) : Prop :=
  ∃ members, item = .object members ∧
    Json.member? members "id" = some (.string account.id) ∧
    Json.member? members "balance" = some account.balance.toJson ∧
    Json.member? members "currency" = some (.string account.currency)

def Account.normalized (account : Account) : Account :=
  ⟨trim account.id, account.balance, upper (trim account.currency)⟩

namespace Payload

open Checked

/-- A payload as a body gives it, account by account. -/
def IsGivenBy (payload : Payload) (body : Json) : Prop :=
  ∃ members items, body = .object members ∧
    Json.member? members "accounts" = some (.array items) ∧
    List.Forall₂ Account.IsGivenBy payload.accounts items ∧
    Json.member? members "instruction" = some (.string payload.instruction)

def normalized (payload : Payload) : Payload :=
  ⟨payload.accounts.map Account.normalized, trim payload.instruction⟩

private theorem exists_of_readText {place : List Place} {value : Json} {text : Text}
    (h : readText place value = .ok text) : ∃ given, value = .string given ∧ trim given = text := by
  unfold readText at h
  split at h
  · exact ⟨_, rfl, Except.ok.inj h⟩
  · cases h

private theorem eq_of_readBalance {place : List Place} {value : Json} {balance : Balance}
    (h : readBalance place value = .ok balance) : value = balance.toJson := by
  unfold readBalance at h
  split at h
  · cases h
    rfl
  · split at h
    · cases h
      rfl
    · cases h
  · cases h

private theorem exists_of_readAccount {place : List Place} {item : Json} {account : Account}
    (h : readAccount place item = .ok account) :
    ∃ given : Account, given.IsGivenBy item ∧ given.normalized = account := by
  obtain ⟨members, rfl, hid, hbalance, hcurrency⟩ := readAccount_eq_ok_iff_required.mp h
  obtain ⟨_, hidMember, hidRead⟩ := required_eq_ok_iff.mp hid
  obtain ⟨_, hbalanceMember, hbalanceRead⟩ := required_eq_ok_iff.mp hbalance
  obtain ⟨_, hcurrencyMember, hcurrencyRead⟩ := required_eq_ok_iff.mp hcurrency
  obtain ⟨givenId, rfl, hgivenId⟩ := exists_of_readText hidRead
  obtain rfl := eq_of_readBalance hbalanceRead
  obtain ⟨givenCurrency, rfl, hgivenCurrency, _⟩ := readCurrency_eq_ok_iff.mp hcurrencyRead
  refine ⟨⟨givenId, account.balance, givenCurrency⟩,
    ⟨members, rfl, hidMember, hbalanceMember, hcurrencyMember⟩, ?_⟩
  rw [Account.normalized, hgivenId, hgivenCurrency]

private theorem exists_of_all {read : Place → Json → Checked Account} {start : Nat}
    {items : List Json}
    {accounts : List Account} (h : all read start items = .ok accounts)
    (hread : ∀ place item account, read place item = .ok account →
      ∃ given : Account, given.IsGivenBy item ∧ given.normalized = account) :
    ∃ given : List Account, List.Forall₂ Account.IsGivenBy given items ∧
      given.map Account.normalized = accounts := by
  induction items generalizing start accounts with
  | nil =>
      cases h
      exact ⟨[], .nil, rfl⟩
  | cons item items ih =>
      obtain ⟨account, rest, hfirst, hrest, rfl⟩ := both_eq_ok_iff.mp h
      obtain ⟨given, hgiven, rfl⟩ := hread _ item account hfirst
      obtain ⟨others, hothers, rfl⟩ := ih hrest
      exact ⟨given :: others, .cons hgiven hothers, rfl⟩

theorem exists_of_ofJson {body : Json} {payload : Payload} (h : ofJson body = .ok payload) :
    ∃ given : Payload, given.IsGivenBy body ∧ given.normalized = payload := by
  obtain ⟨members, rfl, haccounts, hinstruction⟩ := ofJson_eq_ok_iff_required.mp h
  obtain ⟨_, haccountsMember, haccountsRead⟩ := required_eq_ok_iff.mp haccounts
  obtain ⟨_, htextMember, htextRead⟩ := required_eq_ok_iff.mp hinstruction
  obtain ⟨text, rfl, htext⟩ := exists_of_readText htextRead
  unfold readAccounts at haccountsRead
  split at haccountsRead
  · rename_i items
    obtain ⟨given, hgiven, haccountsGiven⟩ :=
      exists_of_all haccountsRead fun _ _ _ => exists_of_readAccount
    refine ⟨⟨given, text⟩, ⟨members, items, rfl, haccountsMember, hgiven, htextMember⟩, ?_⟩
    rw [Payload.normalized, haccountsGiven, htext]
  · cases haccountsRead

end Payload

theorem Service.exists_of_readPayload {request : Request} {payload : Payload}
    (h : readPayload request = .ok payload) :
    ∃ (body : Json) (given : Payload),
      readJson request = .ok body ∧ given.IsGivenBy body ∧ given.normalized = payload := by
  obtain ⟨body, hbody, hjson⟩ := exists_json_of_readPayload h
  obtain ⟨given, hgiven, hnormalized⟩ := Payload.exists_of_ofJson hjson
  exact ⟨body, given, hbody, hgiven, hnormalized⟩

private theorem process_trim (snapshot : Snapshot) (text : Text) (today : Date) :
    process snapshot (trim text) today = process snapshot text today := by
  have hsqueeze : squeeze (trim text) = squeeze text := by rw [squeeze, words_trim, squeeze]
  rw [process, process, outcome, outcome, Reading.ofText, Reading.ofText, hsqueeze]

inductive Balance.IsWritten : Balance → Json → Prop
  | whole (n : Int) : IsWritten (.whole n) (.whole n)
  | finite {x : Binary64} (h : x.isFinite) : IsWritten (.binary x) (.binary x)
  | null {x : Binary64} (h : x.isFinite = false) : IsWritten (.binary x) .null

theorem Balance.isWritten_toFiniteJson (balance : Balance) :
    balance.IsWritten balance.toFiniteJson := by
  cases balance with
  | whole n => exact .whole n
  | binary x =>
      rw [toFiniteJson, isFinite]
      cases hfinite : x.isFinite with
      | true => exact .finite hfinite
      | false => exact .null hfinite

/-- The members of an object that shows a view. -/
structure View.IsWritten (view : View) (members : List (Text × Json)) : Prop where
  names : members.map Prod.fst = ["id", "balance", "balance_before", "currency"]
  id : Json.member? members "id" = some (.string view.id)
  balance : ∃ value, Json.member? members "balance" = some value ∧ view.balance.IsWritten value
  balanceBefore : ∃ value, Json.member? members "balance_before" = some value ∧
    view.balanceBefore.IsWritten value
  currency : Json.member? members "currency" = some (.string view.currency)

/-- The members of an object that shows a result. -/
structure Result.IsWritten (result : Result) (members : List (Text × Json)) : Prop where
  names : members.map Prod.fst = ["type", "amount", "currency", "debit_account", "credit_account",
    "execute_by", "status", "status_reason", "status_code", "accounts"]
  kind : Json.member? members "type" = some (Json.text? result.instruction.kind)
  amount : Json.member? members "amount" = some (Json.ofOption .whole result.instruction.amount)
  currency : Json.member? members "currency" = some (Json.text? result.instruction.currency)
  debitAccount : Json.member? members "debit_account" =
    some (Json.text? result.instruction.debitAccount)
  creditAccount : Json.member? members "credit_account" =
    some (Json.text? result.instruction.creditAccount)
  executeBy : Json.member? members "execute_by" = some (Json.text? result.instruction.executeBy)
  status : Json.member? members "status" = some (.string result.status.text)
  reason : Json.member? members "status_reason" = some (.string result.reason)
  code : Json.member? members "status_code" = some (.string result.code.text)
  accounts : ∃ items, Json.member? members "accounts" = some (.array items) ∧
    List.Forall₂ (fun view item => ∃ members, item = .object members ∧ view.IsWritten members)
      result.views items

private theorem View.exists_isWritten (view : View) : ∃ members,
    view.toJsonWith Balance.toFiniteJson = .object members ∧ view.IsWritten members :=
  ⟨_, rfl, rfl, rfl, ⟨_, rfl, Balance.isWritten_toFiniteJson _⟩,
    ⟨_, rfl, Balance.isWritten_toFiniteJson _⟩, rfl⟩

theorem Result.exists_isWritten (result : Result) : ∃ members,
    result.toJsonWith Balance.toFiniteJson = .object members ∧ result.IsWritten members := by
  have hviews : List.Forall₂
      (fun (view : View) item => ∃ members, item = .object members ∧ view.IsWritten members)
      result.views (result.views.map (View.toJsonWith Balance.toFiniteJson)) := by
    rw [List.forall₂_map_right_iff, List.forall₂_same]
    exact fun view _ => view.exists_isWritten
  refine ⟨_, rfl, ?_⟩
  exact {
    names := rfl
    kind := rfl
    amount := rfl
    currency := rfl
    debitAccount := rfl
    creditAccount := rfl
    executeBy := rfl
    status := rfl
    reason := rfl
    code := rfl
    accounts := ⟨_, rfl, hviews⟩ }

/-- The members of a record that tells a result. -/
structure Result.IsLogged (result : Result) (requestId : RequestId) (record : List (Text × Json)) :
    Prop where
  message : Json.member? record "message" = some (.string "Instruction processed")
  requestId : Json.member? record "request_id" = some (.string requestId.text)
  status : Json.member? record "status" = some (.string result.status.text)
  code : Json.member? record "status_code" = some (.string result.code.text)
  kind : Json.member? record "transaction_type" = some (Json.text? result.instruction.kind)
  amount : Json.member? record "amount" = some (Json.ofOption .whole result.instruction.amount)
  currency : Json.member? record "currency" = some (Json.text? result.instruction.currency)

private theorem Event.isLogged_ofResult (service : String) (requestId : RequestId)
    (result : Result) :
    ∃ members, (ofResult requestId result).record service = .object members ∧
      result.IsLogged requestId members ∧
      Json.member? members "level" = some (.string (ofResult requestId result).level.text) := by
  refine ⟨_, rfl, ?_, rfl⟩
  exact {
    message := rfl
    requestId := rfl
    status := rfl
    code := rfl
    kind := rfl
    amount := rfl
    currency := rfl }

private theorem Event.records_eq_map {service : String} {threshold : Nat} {events : List Event}
    (hthreshold : threshold ≤ Level.info.severity)
    (hwritable : ∀ event ∈ events, event.isWritable) :
    records service threshold events = events.map (record service) := by
  have hreaches (event : Event) : event.reaches threshold :=
    decide_eq_true (hthreshold.trans (of_decide_eq_true event.reaches_info))
  rw [records, List.filter_eq_self.mpr]
  intro event hevent
  rw [hreaches, hwritable event hevent]
  rfl

theorem Event.records_told {result : Result} (hvetted : result.instruction.Vetted)
    {threshold : Nat} (hthreshold : threshold ≤ Level.info.severity) (service : String)
    (requestId : RequestId) (fault? : Option Fault) :
    records service threshold (fault?.toList.map unexpected ++ [ofResult requestId result]) =
      fault?.toList.map (fun fault => (unexpected fault).record service) ++
        [(ofResult requestId result).record service] := by
  have hwritable : ∀ event ∈ fault?.toList.map unexpected ++ [ofResult requestId result],
      event.isWritable := by
    intro event hevent
    rcases List.mem_append.mp hevent with hcaught | hlast
    · obtain ⟨fault, _, rfl⟩ := List.mem_map.mp hcaught
      exact isWritable_unexpected fault
    · rw [List.mem_singleton.mp hlast]
      exact isWritable_ofResult hvetted requestId
  rw [records_eq_map hthreshold hwritable, List.map_append, List.map_map, List.map_singleton]
  rfl

/-! Where no fault is raised, a request with an accepted payload gets the response that tells its
result, and the record of it comes after the one of a fault that the engine caught. -/

private theorem Response.eq_told_of_ofResult {result : Result} {response : Response}
    (h : ofResult result = .ok response) : response = told result := by
  unfold ofResult at h
  simp only at h
  split at h
  · cases h
  · exact (Except.ok.inj h).symm

/-- An answer that tells a result: to the client in the response, and in what is recorded. -/
structure Answer.Tells (answer : Answer) (service : String) (requestId : RequestId)
    (result : Result) (fault? : Option Fault) : Prop where
  envelope : ∃ members, answer.response.content =
    .json (.object [("message", .string result.reason), ("data", .object members)]) ∧
    result.IsWritten members
  ok_iff : answer.response.status = 200 ↔ result.status = .successful ∨ result.status = .pending
  refused_iff : answer.response.status = 400 ↔ result.status = .failed
  header : answer.response.requestId = some requestId
  once : answer.events.filter (·.message == "Instruction processed") = [.ofResult requestId result]
  records : ∀ threshold ≤ Level.info.severity, ∃ members,
    Event.records service threshold answer.events =
      fault?.toList.map (fun fault => (Event.unexpected fault).record service) ++
        [.object members] ∧
    result.IsLogged requestId members ∧
    Json.member? members "level" =
      some (.string (if answer.response.status = 400 then "WARNING" else "INFO"))

namespace Service

variable {settings : Settings} {today : Date} {metrics : Metrics} {request : Request}
  {payload : Payload} {requestId : RequestId} {result : Result} {fault? : Option Fault}

private theorem process_of_answered
    (hprocess : Remittance.process payload.accounts payload.instruction today = (result, fault?))
    (h : (process payload requestId today metrics).1.raised = none) :
    (process payload requestId today metrics).1 =
      { response := Response.told result
        events := fault?.toList.map .unexpected ++ [.ofResult requestId result] } := by
  simp only [process, hprocess] at h ⊢
  generalize metrics.recordResult result = counted at h ⊢
  obtain ⟨recorded, raised?⟩ := counted
  cases raised? with
  | some raised => cases h
  | none =>
      cases hresponse : Response.ofResult result with
      | error raised =>
          rw [hresponse] at h
          cases h
      | ok response =>
          rw [Response.eq_told_of_ofResult hresponse]

theorem handle_of_answered (haccepted : accepted? request = some payload)
    (hprocess : Remittance.process payload.accounts payload.instruction today = (result, fault?))
    (h : (handle settings today metrics request).1.raised = none) :
    (handle settings today metrics request).1 =
      { response := { Response.told result with requestId := some request.id }
        events := fault?.toList.map .unexpected ++ [.ofResult request.id result] } := by
  rw [handle, respond, dispatch_of_accepted haccepted] at h ⊢
  cases hserved : process payload request.id today metrics with
  | mk answer served =>
      rw [hserved] at h
      cases hraised : answer.raised with
      | some fault =>
          simp only [hraised] at h
          cases h
      | none =>
          have htold := process_of_answered hprocess (by rw [hserved]; exact hraised)
          rw [hserved] at htold
          simp only at htold
          rw [htold]

private theorem tells_told (hvetted : result.instruction.Vetted) (service : String)
    (requestId : RequestId) (fault? : Option Fault) :
    Answer.Tells
      { response := { Response.told result with requestId := some requestId }
        events := fault?.toList.map .unexpected ++ [.ofResult requestId result] }
      service requestId result fault? := by
  obtain ⟨data, hdata, hwritten⟩ := result.exists_isWritten
  obtain ⟨members, hmembers, hlogged, hlevel⟩ := Event.isLogged_ofResult service requestId result
  have hstatus : (Response.told result).status = if result.status = .failed then 400 else 200 := rfl
  constructor
  case envelope =>
    refine ⟨data, ?_, hwritten⟩
    rw [← hdata]
    rfl
  case ok_iff =>
    simp only [hstatus]
    cases result.status <;> decide
  case refused_iff =>
    simp only [hstatus]
    cases result.status <;> decide
  case header => rfl
  case once => exact Event.filter_message_unexpected fault? requestId result
  case records =>
    intro threshold hthreshold
    refine ⟨members, ?_, hlogged, ?_⟩
    · rw [Event.records_told hvetted hthreshold, hmembers]
    · rw [hlevel, Event.level_ofResult]
      by_cases hfailed : result.status = .failed <;> simp [hstatus, hfailed, Level.text]

/-- Unless a fault is raised, the response and the record tell what the engine says of the accounts
and the text that the body gives. -/
theorem handle_tells (haccepted : (accepted? request).isSome)
    (hanswered : (handle settings today metrics request).1.raised = none) :
    ∃ (body : Json) (given : Payload), readJson request = .ok body ∧ given.IsGivenBy body ∧
      let turn :=
        Remittance.process (given.accounts.map Account.normalized) given.instruction today
      (handle settings today metrics request).1.Tells settings.serviceName request.id turn.1
        turn.2 := by
  obtain ⟨payload, hpayload⟩ := Option.isSome_iff_exists.mp haccepted
  obtain ⟨_, _, hread⟩ := accepted?_eq_some_iff.mp hpayload
  obtain ⟨body, given, hbody, hgiven, rfl⟩ := exists_of_readPayload hread
  refine ⟨body, given, hbody, hgiven, ?_⟩
  intro turn
  have hprocess : Remittance.process given.normalized.accounts given.normalized.instruction today =
      (turn.1, turn.2) := process_trim ..
  have hvetted : turn.1.instruction.Vetted := (process_vetted ..).instruction
  rw [handle_of_answered hpayload hprocess hanswered]
  exact tells_told hvetted settings.serviceName request.id turn.2

/-- Five go from a binary balance to a whole one, and each keeps its kind in what the client is
told; a vast amount goes to a binary balance, and the engine catches the fault. Blanks and small
letters make no difference. -/
theorem handle_tells_caught :
    let zeros := List.replicate 309 '0'
    let today : Date := ⟨2025, 1, 31⟩
    let executed := posted (
      "\x7b\"accounts\":[\x7b\"id\":\" a\",\"balance\":7.5,\"currency\":\"NGN\"\x7d,".toList ++
      "\x7b\"id\":\"b\",\"balance\":2,\"currency\":\"ngn\"\x7d],\"instruction\":".toList ++
      "\"debit 5 NGN from account a for credit to account b \"\x7d".toList)
    let caught := posted (
      "\x7b\"accounts\":[\x7b\"id\":\"a \",\"balance\":1".toList ++ zeros ++
      ",\"currency\":\"ngn \"\x7d,".toList ++
      "\x7b\"id\":\"b\",\"balance\":0.5,\"currency\":\"NGN\"\x7d],".toList ++
      "\"instruction\":\" DEBIT 1".toList ++ zeros ++
      " NGN FROM ACCOUNT a FOR CREDIT TO ACCOUNT b\"\x7d".toList)
    let moved : Payload :=
      ⟨[⟨"a", .binary (.ofBits 0x401e000000000000), "NGN"⟩, ⟨"b", .whole 2, "NGN"⟩],
        "debit 5 NGN from account a for credit to account b"⟩
    let result : Result :=
      ⟨⟨some "DEBIT", some 5, some "NGN", some "a", some "b", none⟩, .executed,
        [⟨"a", .binary (.ofBits 0x4004000000000000), .binary (.ofBits 0x401e000000000000), "NGN"⟩,
          ⟨"b", .whole 7, .whole 2, "NGN"⟩]⟩
    (accepted? executed = some moved ∧
      (handle {} today {} executed).1.response.status = 200 ∧
      (handle {} today {} executed).1.events.map Event.level = [.info] ∧
      (handle {} today {} executed).1.response.content = .json (.object [
        ("message", .string "Transaction executed successfully"), ("data", result.toJson)])) ∧
    ((handle {} today {} caught).1.response.status = 400 ∧
      (handle {} today {} caught).1.events.map Event.level = [.error, .warning]) ∧
    ∀ request ∈ [executed, caught],
      ∃ (body : Json) (given : Payload), readJson request = .ok body ∧ given.IsGivenBy body ∧
        let turn :=
          Remittance.process (given.accounts.map Account.normalized) given.instruction today
        (handle {} today {} request).1.Tells "payment-instructions" request.id turn.1
          turn.2 := by
  intro zeros today executed caught moved result
  have hexecuted : accepted? executed = some moved ∧
      Remittance.process moved.accounts moved.instruction today = (result, none) ∧
      (handle {} today {} executed).1.raised = none ∧
      (handle {} today {} executed).1.response.status = 200 ∧
      (handle {} today {} executed).1.events.map Event.level = [.info] := by
    decide +kernel
  have hcaught : (accepted? caught).isSome ∧ (handle {} today {} caught).1.raised = none ∧
      (handle {} today {} caught).1.response.status = 400 ∧
      (handle {} today {} caught).1.events.map Event.level = [.error, .warning] := by
    decide +kernel
  obtain ⟨haccepted, hprocess, hraised, hok⟩ := hexecuted
  obtain ⟨hsome, hanswered, hrefused⟩ := hcaught
  refine ⟨⟨haccepted, hok.1, hok.2, ?_⟩, hrefused, fun request hrequest => ?_⟩
  · exact congrArg (·.response.content) (handle_of_answered haccepted hprocess hraised)
  · rcases List.mem_pair.mp hrequest with rfl | rfl
    · exact handle_tells (Option.isSome_iff_exists.mpr ⟨_, haccepted⟩) hraised
    · exact handle_tells hsome hanswered

end Service

end Remittance
