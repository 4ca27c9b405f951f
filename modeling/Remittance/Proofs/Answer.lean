import Remittance.Proofs.Echo
import Remittance.Proofs.Overflow
import Remittance.Service

namespace Remittance

open Remittance.Text

structure Account.IsSound (account : Account) : Prop where
  balance : account.balance.isFinite
  currency : account.currency.length = 3
  encodable : account.currency.IsEncodable

namespace Payload

open Checked

theorem required_eq_ok_iff {α : Type} {members : List (Text × Json)} {place : List Place}
    {name : String} {read : List Place → Json → Checked α} {a : α} :
    required members place name read = .ok a ↔ ∃ value,
      Json.member? members name = some value ∧ read (place ++ [.name name]) value = .ok a := by
  unfold required
  cases Json.member? members name with
  | none => simp [complain]
  | some value => simp

theorem readAccount_eq_ok_iff_required {place : List Place} {value : Json} {account : Account} :
    readAccount place value = .ok account ↔ ∃ members, value = .object members ∧
      required members place "id" readText = .ok account.id ∧
      required members place "balance" readBalance = .ok account.balance ∧
      required members place "currency" readCurrency = .ok account.currency := by
  constructor
  · intro h
    cases value with
    | object members =>
        obtain ⟨id, rest, hid, hrest, rfl⟩ := both_eq_ok_iff.mp h
        obtain ⟨balance, currency, hbalance, hcurrency, rfl⟩ := both_eq_ok_iff.mp hrest
        exact ⟨members, rfl, hid, hbalance, hcurrency⟩
    | _ => cases h
  · rintro ⟨members, rfl, hid, hbalance, hcurrency⟩
    rw [readAccount, hid, hbalance, hcurrency]
    rfl

theorem ofJson_eq_ok_iff_required {value : Json} {payload : Payload} :
    ofJson value = .ok payload ↔ ∃ members, value = .object members ∧
      required members body "accounts" readAccounts = .ok payload.accounts ∧
      required members body "instruction" readText = .ok payload.instruction := by
  constructor
  · intro h
    cases value with
    | object members =>
        obtain ⟨accounts, instruction, haccounts, hinstruction, rfl⟩ := both_eq_ok_iff.mp h
        exact ⟨members, rfl, haccounts, hinstruction⟩
    | _ => cases h
  · rintro ⟨members, rfl, haccounts, hinstruction⟩
    rw [ofJson, haccounts, hinstruction]
    rfl

private theorem exists_of_mem_all {α : Type} {read : Place → Json → Checked α} {start : Nat}
    {items : List Json} {list : List α} (h : Checked.all read start items = .ok list) :
    ∀ a ∈ list, ∃ place item, read place item = .ok a := by
  induction items generalizing start list with
  | nil =>
      cases h
      simp
  | cons item items ih =>
      obtain ⟨first, rest, hfirst, hrest, rfl⟩ := both_eq_ok_iff.mp h
      exact List.forall_mem_cons.mpr ⟨⟨_, item, hfirst⟩, ih hrest⟩

theorem readCurrency_eq_ok_iff {place : List Place} {value : Json} {currency : Text} :
    readCurrency place value = .ok currency ↔ ∃ given, value = .string given ∧
      upper (trim given) = currency ∧ currency.length = 3 ∧ currency.IsEncodable := by
  cases value with
  | string text =>
      have hencodable : (upper (trim text)).IsEncodable ↔
          ¬ (upper (trim text)).any CodePoint.isSurrogate := by
        simp [IsEncodable]
      simp only [readCurrency, Json.string.injEq, exists_eq_left']
      split
      · rename_i hhalf
        refine iff_of_false (by simp [complain]) ?_
        rintro ⟨rfl, _, hwhole⟩
        exact hencodable.mp hwhole hhalf
      · rename_i hwhole
        split
        · refine iff_of_false (by simp [complain]) ?_
          rintro ⟨rfl, _⟩
          omega
        · split
          · refine iff_of_false (by simp [complain]) ?_
            rintro ⟨rfl, _⟩
            omega
          · constructor
            · intro h
              cases h
              exact ⟨rfl, by omega, hencodable.mpr hwhole⟩
            · rintro ⟨rfl, _⟩
              rfl
  | _ => simp [readCurrency, complain]

private theorem isFinite_of_readBalance {place : List Place} {value : Json} {balance : Balance}
    (h : readBalance place value = .ok balance) : balance.isFinite := by
  unfold readBalance at h
  split at h
  · cases h
    rfl
  · split at h
    · rename_i hfinite
      cases h
      exact hfinite
    · cases h
  · cases h

private theorem isSound_of_readAccount {place : List Place} {value : Json} {account : Account}
    (h : readAccount place value = .ok account) : account.IsSound := by
  obtain ⟨_, _, _, hbalance, hcurrency⟩ := readAccount_eq_ok_iff_required.mp h
  obtain ⟨_, _, hfinite⟩ := required_eq_ok_iff.mp hbalance
  obtain ⟨_, _, hread⟩ := required_eq_ok_iff.mp hcurrency
  obtain ⟨_, _, _, hlength, hencodable⟩ := readCurrency_eq_ok_iff.mp hread
  exact ⟨isFinite_of_readBalance hfinite, hlength, hencodable⟩

theorem isSound_of_ofJson {value : Json} {payload : Payload} (h : ofJson value = .ok payload) :
    ∀ account ∈ payload.accounts, account.IsSound := by
  obtain ⟨_, _, haccounts, _⟩ := ofJson_eq_ok_iff_required.mp h
  obtain ⟨_, _, hread⟩ := required_eq_ok_iff.mp haccounts
  unfold readAccounts at hread
  split at hread
  · intro account hmem
    obtain ⟨_, _, haccount⟩ := exists_of_mem_all hread account hmem
    exact isSound_of_readAccount haccount
  · cases hread

end Payload

theorem Service.exists_json_of_readPayload {request : Request} {payload : Payload}
    (h : readPayload request = .ok payload) :
    ∃ body, readJson request = .ok body ∧ Payload.ofJson body = .ok payload := by
  unfold readPayload at h
  split at h
  · cases h
  · split at h
    · obtain ⟨body, hbody, hread⟩ := bind_eq_ok_iff.mp h
      cases hjson : Payload.ofJson body with
      | error errors =>
          rw [hjson] at hread
          cases hread
      | ok read =>
          rw [hjson] at hread
          cases hread
          exact ⟨body, hbody, hjson⟩
    · cases h

theorem Service.isSound_of_readPayload {request : Request} {payload : Payload}
    (h : readPayload request = .ok payload) : ∀ account ∈ payload.accounts, account.IsSound := by
  obtain ⟨_, _, hjson⟩ := exists_json_of_readPayload h
  exact Payload.isSound_of_ofJson hjson

theorem Service.isEncodable_of_readPayload {request : Request} {payload : Payload}
    (h : readPayload request = .ok payload) :
    ∀ account ∈ payload.accounts, account.currency.IsEncodable :=
  fun account hmem => (isSound_of_readPayload h account hmem).encodable

namespace Metrics

private theorem addend_eq_error_iff {amount : Int} {fault : Fault} (hpos : 0 ≤ amount) :
    addend amount = .error fault ↔ Binary64.overflow ≤ amount ∧ fault = .beyondBinary64 := by
  rw [addend, if_neg (Int.not_lt.mpr hpos), Balance.binaryAmount_eq_error_iff]
  apply and_congr_left'
  omega

private theorem addAmount_eq_none_iff {amount : Int} (hpos : 0 ≤ amount) (metrics : Metrics)
    (currency : String) :
    (metrics.addAmount currency amount).2 = none ↔ amount < Binary64.overflow := by
  rw [← Int.not_le]
  unfold addAmount
  cases haddend : addend amount with
  | error fault =>
      obtain ⟨hpast, _⟩ := (addend_eq_error_iff hpos).mp haddend
      exact iff_of_false (Option.some_ne_none fault) (not_not_intro hpast)
  | ok x =>
      have hsafe : ¬ (Binary64.overflow : Int) ≤ amount := by
        intro hpast
        have hfault := (addend_eq_error_iff hpos).mpr ⟨hpast, rfl⟩
        rw [haddend] at hfault
        cases hfault
      exact iff_of_true rfl hsafe

private theorem record_eq_none_of_ne {status : String} (h : status ≠ Status.successful.text)
    (metrics : Metrics) (code : String) (amount : Option Int) (currency : Option String) :
    (metrics.record status code amount currency).2 = none := by
  unfold record
  simp only
  split
  · rw [if_neg h]
  · rfl

end Metrics

theorem Code.status_eq_successful_iff {code : Code} :
    code.status = .successful ↔ code = .executed := by
  cases code <;> simp [status]

theorem Metrics.recordResult_eq_none_iff {result : Result}
    (hcomplete : result.code = .executed → result.instruction.Complete) (metrics : Metrics) :
    (metrics.recordResult result).2 = none ↔
      (result.code = .executed →
        ∀ amount ∈ result.instruction.amount, amount < Binary64.overflow) := by
  by_cases hexecuted : result.code = .executed
  · obtain ⟨amount, hamount, hpos⟩ := (hcomplete hexecuted).amount
    obtain ⟨currency, _, hcurrency⟩ := (hcomplete hexecuted).currency
    have hstatus : result.status.text = Status.successful.text :=
      congrArg Status.text (Code.status_eq_successful_iff.mpr hexecuted)
    rw [recordResult, hamount, hcurrency, Option.map_some, record, if_pos hstatus,
      addAmount_eq_none_iff (show 0 ≤ amount by omega)]
    constructor
    · intro hsafe _ held hheld
      rwa [← Option.some.inj hheld]
    · intro hsafe
      exact hsafe hexecuted amount rfl
  · have hstatus : result.status.text ≠ Status.successful.text := fun htext =>
      hexecuted (Code.status_eq_successful_iff.mp (Status.text_injective htext))
    exact iff_of_true (record_eq_none_of_ne hstatus ..) fun h => absurd h hexecuted

structure Result.IsAnswerable (result : Result) : Prop where
  amount : result.code = .executed →
    ∀ amount ∈ result.instruction.amount, amount < Binary64.overflow
  currency : ∀ currency ∈ result.instruction.currency, currency.IsEncodable
  executeBy : ∀ executeBy ∈ result.instruction.executeBy, executeBy.IsEncodable

/-- The answer that tells a result, with one record of it among the events. -/
structure Answer.Reports (answer : Answer) (requestId : RequestId) (result : Result) : Prop where
  raised : answer.raised = none
  status : answer.response.status = if result.status = .failed then 400 else 200
  envelope : answer.response.content = .json (.object [
    ("message", .string result.reason), ("data", result.toJsonWith Balance.toFiniteJson)])
  recorded : answer.events.filter (·.message == "Instruction processed") =
    [.ofResult requestId result]
  written : (Event.ofResult requestId result).reaches Level.info.severity ∧
    (Event.ofResult requestId result).isWritable

theorem Event.reaches_info (event : Event) : event.reaches Level.info.severity := by
  have hseverity (level : Level) : Level.info.severity ≤ level.severity := by
    cases level <;> decide
  exact decide_eq_true (hseverity event.level)

/-- Only a whole number can be too long to be written. -/
def Json.isShort (bound : Nat) : Json → Bool
  | .whole n => n.natAbs < bound
  | _ => true

private theorem Json.isShort_text? (bound : Nat) (text? : Option Text) :
    (Json.text? text?).isShort bound := by
  cases text? <;> rfl

private theorem Json.isShort_amount {bound : Nat} {amount? : Option Int}
    (h : ∀ amount ∈ amount?, amount.natAbs < bound) :
    (Json.ofOption .whole amount?).isShort bound := by
  cases amount? with
  | none => rfl
  | some amount => exact decide_eq_true (h amount rfl)

private theorem Event.isWritable_eq_all (event : Event) :
    event.isWritable = event.details.all (·.2.isShort (Nat.pow 10 digitLimit)) := by
  unfold isWritable Json.isShort
  rfl

theorem Event.isWritable_ofResult {result : Result} (h : result.instruction.Vetted)
    (requestId : RequestId) : (ofResult requestId result).isWritable := by
  have hamount : ∀ amount ∈ result.instruction.amount, amount.natAbs < Nat.pow 10 digitLimit := by
    intro amount hmem
    obtain ⟨n, rfl, _, hn⟩ := h.amount amount hmem
    exact hn
  rw [isWritable_eq_all]
  -- only that both sides name the same bound matters, and evaluating it takes too long
  generalize Nat.pow 10 digitLimit = bound at hamount ⊢
  simp only [ofResult, details, List.all_cons, List.all_nil, Bool.and_true, Bool.and_eq_true]
  exact ⟨rfl, rfl, rfl, rfl, Json.isShort_text? bound _, Json.isShort_amount hamount,
    Json.isShort_text? bound _, rfl⟩

private theorem Event.message_unexpected_ne (fault : Fault) :
    (unexpected fault).message ≠ "Instruction processed" := by
  have hlong : "Unexpected error while processing instruction: ".length = 47 := rfl
  have hshort : "Instruction processed".length = 21 := rfl
  have hne (detail : String) :
      "Unexpected error while processing instruction: " ++ detail ≠ "Instruction processed" := by
    intro heq
    have hlength := congrArg String.length heq
    rw [String.length_append, hlong, hshort] at hlength
    omega
  exact hne fault.message

namespace Response

variable {snapshot : Snapshot} {result : Result}

def told (result : Result) : Response :=
  json (if result.status = .failed then 400 else 200) (.object [
    ("message", .string result.reason), ("data", result.toJsonWith Balance.toFiniteJson)])

theorem ofResult_cases (h : result.Vetted snapshot)
    (hcurrencies : ∀ account ∈ snapshot, account.currency.IsEncodable) :
    let echoes := (∀ currency ∈ result.instruction.currency, currency.IsEncodable) ∧
      ∀ executeBy ∈ result.instruction.executeBy, executeBy.IsEncodable
    (echoes ∧ ofResult result = .ok (told result)) ∨
      (¬ echoes ∧ ∃ fault, ofResult result = .error fault) := by
  intro echoes
  have hiff : unencodable? (.object [("message", .string result.reason),
      ("data", result.toJsonWith Balance.toFiniteJson)]) = none ↔ echoes := by
    rw [unencodable?_eq_none_iff]
    simp [Text.isEncodable_ofString, Result.isEncodable_iff h hcurrencies, echoes]
  rw [← hiff]
  unfold ofResult
  simp only
  split
  · rename_i fault hfault
    exact .inr ⟨by simp [hfault], fault, rfl⟩
  · rename_i hnone
    exact .inl ⟨hnone, rfl⟩

end Response

theorem Event.filter_message_unexpected (fault? : Option Fault) (requestId : RequestId)
    (result : Result) :
    (fault?.toList.map unexpected ++ [ofResult requestId result]).filter
        (·.message == "Instruction processed") = [ofResult requestId result] := by
  have hprocessed : (ofResult requestId result).message == "Instruction processed" := rfl
  cases fault? with
  | none => simp [hprocessed]
  | some fault => simp [hprocessed, message_unexpected_ne fault]

namespace Service

theorem reports_told {result : Result} (h : result.instruction.Vetted) (fault? : Option Fault)
    (requestId : RequestId) :
    Answer.Reports
      { response := Response.told result
        events := fault?.toList.map .unexpected ++ [.ofResult requestId result] }
      requestId result where
  raised := rfl
  status := rfl
  envelope := rfl
  recorded := Event.filter_message_unexpected fault? requestId result
  written := ⟨Event.reaches_info _, Event.isWritable_ofResult h requestId⟩

/-- The result of an accepted payload is told, or there is an internal error if it cannot be. -/
theorem process_cases {payload : Payload} {result : Result} {fault? : Option Fault} {today : Date}
    (hcurrencies : ∀ account ∈ payload.accounts, account.currency.IsEncodable)
    (hprocess : Remittance.process payload.accounts payload.instruction today = (result, fault?))
    (requestId : RequestId) (metrics : Metrics) :
    let answer := (process payload requestId today metrics).1
    (result.IsAnswerable ∧ answer.Reports requestId result) ∨
      (¬ result.IsAnswerable ∧
        answer.response = Response.internalError ∧ answer.raised.isSome) := by
  have hresult : (Remittance.process payload.accounts payload.instruction today).1 = result :=
    congrArg Prod.fst hprocess
  have hvetted : result.Vetted payload.accounts := hresult ▸ process_vetted ..
  have hcounted := Metrics.recordResult_eq_none_iff (hresult ▸ process_executed) metrics
  simp only [process, hprocess]
  generalize metrics.recordResult result = counted at hcounted ⊢
  obtain ⟨recorded, raised?⟩ := counted
  cases raised? with
  | some raised =>
      have hpast : ¬ result.IsAnswerable := fun h => absurd (hcounted.mpr h.amount) (by simp)
      exact .inr ⟨hpast, rfl, rfl⟩
  | none =>
      have hamount := hcounted.mp rfl
      rcases Response.ofResult_cases hvetted hcurrencies with
        ⟨hechoes, hok⟩ | ⟨hechoes, fault, herror⟩
      · rw [hok]
        exact .inl ⟨⟨hamount, hechoes.1, hechoes.2⟩,
          reports_told hvetted.instruction fault? requestId⟩
      · rw [herror]
        exact .inr ⟨fun h => hechoes ⟨h.currency, h.executeBy⟩, rfl, rfl⟩

/-- The payload that a request posts to the instructions, if it is accepted. -/
def accepted? (request : Request) : Option Payload :=
  if request.method = "POST" ∧ Route.ofPath? request.path = some .instructions then
    (readPayload request).toOption
  else none

theorem accepted?_eq_some_iff {request : Request} {payload : Payload} :
    accepted? request = some payload ↔ request.method = "POST" ∧
      Route.ofPath? request.path = some .instructions ∧ readPayload request = .ok payload := by
  unfold accepted?
  split
  · rename_i hposted
    cases readPayload request <;> simp [Except.toOption, hposted]
  · rename_i hposted
    simp only [reduceCtorEq, false_iff]
    exact fun h => hposted ⟨h.1, h.2.1⟩

theorem dispatch_of_accepted {request : Request} {payload : Payload}
    (h : accepted? request = some payload) (settings : Settings) (today : Date)
    (metrics : Metrics) (requestId : RequestId) :
    dispatch settings today metrics request requestId =
      process payload requestId today metrics := by
  obtain ⟨hmethod, hpath, hpayload⟩ := accepted?_eq_some_iff.mp h
  have hserved : request.method ∈ Route.instructions.methods := List.mem_singleton.mpr hmethod
  rw [dispatch, hpath]
  simp only [if_pos hserved, serve, postInstruction, hpayload]

/-- A request with an accepted payload is answered by the result, with status 200 or 400 and one
record of it, exactly if the result is answerable; the server fails on the others. -/
theorem handle_reports_iff {request : Request} {payload : Payload}
    (hmethod : request.method = "POST")
    (hpath : Route.ofPath? request.path = some .instructions)
    (hpayload : readPayload request = .ok payload)
    (settings : Settings) (today : Date) (metrics : Metrics) :
    let result := (Remittance.process payload.accounts payload.instruction today).1
    let answer := (handle settings today metrics request).1
    (answer.Reports request.id result ↔ result.IsAnswerable) ∧
      (¬ result.IsAnswerable → answer.response.status = 500 ∧ answer.raised.isSome) := by
  intro result answer
  have hdispatch : dispatch settings today metrics request request.id =
      process payload request.id today metrics :=
    dispatch_of_accepted (accepted?_eq_some_iff.mpr ⟨hmethod, hpath, hpayload⟩) ..
  have hanswer : answer = (handle settings today metrics request).1 := rfl
  simp only [handle, respond, hdispatch] at hanswer
  rcases process_cases (isEncodable_of_readPayload hpayload) rfl request.id metrics with
    ⟨hanswerable, hreports⟩ | ⟨hunanswerable, hresponse, hraised⟩
  · rw [hreports.raised] at hanswer
    have htold : answer.Reports request.id result := by
      rw [hanswer]
      exact ⟨rfl, hreports.status, hreports.envelope, hreports.recorded, hreports.written⟩
    exact ⟨iff_of_true htold hanswerable, fun h => absurd hanswerable h⟩
  · obtain ⟨fault, hfault⟩ := Option.isSome_iff_exists.mp hraised
    rw [hfault] at hanswer
    have huntold : ¬ answer.Reports request.id result := fun h => by
      have hnone := h.raised
      rw [hanswer, hfault] at hnone
      cases hnone
    refine ⟨iff_of_false huntold hunanswerable, fun _ => ?_⟩
    rw [hanswer]
    exact ⟨congrArg Response.status hresponse, hraised⟩

/-- A request that posts ASCII letters as JSON. -/
def posted (body : List Char) : Request :=
  { method := "POST"
    path := "/payment-instructions"
    headers := [("Content-Type", "application/json"), ("X-Request-ID", "s")]
    body := body.map fun c => UInt8.ofNat c.toNat }

/-- All there is goes to an account in debt; the ids are trimmed on the way in. -/
theorem handle_reports_iff_overdrawn :
    let payload : Payload := ⟨[⟨"a", .whole 5, "NGN"⟩, ⟨"b", .whole (-3), "NGN"⟩],
      "DEBIT 5 ngn FROM ACCOUNT a FOR CREDIT TO ACCOUNT b"⟩
    let request := posted (
      "\x7b\"accounts\":[\x7b\"id\":\"a\",\"balance\":5,\"currency\":\"ngn\"\x7d,".toList ++
      "\x7b\"id\":\"b \",\"balance\":-3,\"currency\":\"NGN\"\x7d],".toList ++
      "\"instruction\":\"DEBIT 5 ngn FROM ACCOUNT a FOR CREDIT TO ACCOUNT b\"\x7d".toList)
    let result := (Remittance.process payload.accounts payload.instruction ⟨2025, 1, 31⟩).1
    result.code = .executed ∧
      (handle {} ⟨2025, 1, 31⟩ {} request).1.Reports request.id result := by
  intro payload request result
  have hpayload : readPayload request = .ok payload := by decide +kernel
  have hinstruction : result.instruction = .ofSecondId .debit none 5 "NGN" "a" "b" := by
    decide +kernel
  have hanswerable : result.IsAnswerable := by
    constructor
    · intro _ amount hamount
      obtain rfl : amount = 5 := by simpa [hinstruction, eq_comm] using hamount
      decide +kernel
    · intro currency hcurrency
      obtain rfl : currency = "NGN" := by simpa [hinstruction, eq_comm] using hcurrency
      exact Text.isEncodable_ofString _
    · intro executeBy hexecuteBy
      simp [hinstruction] at hexecuteBy
  refine ⟨by decide +kernel, ?_⟩
  exact (handle_reports_iff rfl rfl hpayload {} ⟨2025, 1, 31⟩ {}).1.mpr hanswerable

/-- A request to move 10³⁰⁹ between whole balances, which is past the binary numbers. -/
def vastRequest : Request :=
  let zeros := List.replicate 309 '0'
  posted ("\x7b\"accounts\":[\x7b\"id\":\"a\",\"balance\":1".toList ++ zeros ++
    ",\"currency\":\"NGN\"\x7d,\x7b\"id\":\"b\",\"balance\":0,\"currency\":\"NGN\"\x7d],".toList ++
    "\"instruction\":\"DEBIT 1".toList ++ zeros ++
    " NGN FROM ACCOUNT a FOR CREDIT TO ACCOUNT b\"\x7d".toList)

/-- The amount is moved, but it cannot be added up: the server fails and keeps no record. -/
theorem handle_vastRequest :
    (readPayload vastRequest).isOk ∧
      (handle {} ⟨2025, 1, 31⟩ {} vastRequest).1.response.status = 500 ∧
      (handle {} ⟨2025, 1, 31⟩ {} vastRequest).1.raised = some .beyondBinary64 ∧
      (handle {} ⟨2025, 1, 31⟩ {} vastRequest).1.events = [] := by
  decide +kernel

end Service

end Remittance
