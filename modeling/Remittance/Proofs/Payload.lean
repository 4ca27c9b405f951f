import Remittance.Proofs.Report

namespace Remittance

open Remittance.Text

inductive Shape
  | list
  | object
  | text
  | balance
  | currency
deriving Repr, DecidableEq

namespace Shape

def admits : Shape → Json → Bool
  | list, .array _ => true
  | object, .object _ => true
  | text, .string _ => true
  | balance, .whole _ => true
  | balance, .binary x => x.isFinite
  | currency, .string given =>
      let currency := upper (trim given)
      !currency.any CodePoint.isSurrogate && currency.length == 3
  | _, _ => false

def complaints : Shape → Json → List (List Place × Complaint)
  | list, _ => [([], .notList)]
  | object, _ => [([], .notObject)]
  | text, _ => [([], .notString)]
  | balance, .binary _ => [([.name "int"], .notWhole), ([.name "float"], .notFinite)]
  | balance, _ => [([.name "int"], .notWhole), ([.name "float"], .notNumber)]
  | currency, .string given =>
      let currency := upper (trim given)
      if currency.any CodePoint.isSurrogate then [([], .notUnicode)]
      else if currency.length < 3 then [([], .tooShort)]
      else [([], .tooLong)]
  | currency, _ => [([], .notString)]

private theorem complaints_spec (shape : Shape) (value : Json) :
    (shape.complaints value).length = (if shape = .balance then 2 else 1) ∧
      ∀ complaint ∈ shape.complaints value, complaint.1.length ≤ 1 := by
  cases shape with
  | list | object | text => simp [complaints]
  | balance => cases value <;> simp [complaints]
  | currency =>
      cases value with
      | string given =>
          simp only [complaints]
          split
          · simp
          · split <;> simp
      | _ => simp [complaints]

end Shape

/-- A place of a body with what is to stand there, and the value that does, if there is one. -/
structure Declared where
  shape : Shape
  place : List Place
  value? : Option Json

namespace Declared

def isOffending (declared : Declared) : Bool :=
  match declared.value? with
  | none => true
  | some value => !declared.shape.admits value

def report (declared : Declared) : List PayloadError :=
  match declared.value? with
  | none => [⟨declared.place, .missing⟩]
  | some value => (declared.shape.complaints value).map fun complaint =>
      ⟨declared.place ++ complaint.1, complaint.2⟩

def ofMember (members : List (Text × Json)) (place : List Place) (name : String) (shape : Shape) :
    Declared :=
  ⟨shape, place ++ [.name name], Json.member? members name⟩

def ofItem (place : List Place) (item : Json) : List Declared :=
  ⟨.object, place, some item⟩ ::
    match item with
    | .object members => [
        ofMember members place "id" .text,
        ofMember members place "balance" .balance,
        ofMember members place "currency" .currency]
    | _ => []

def ofItems (place : List Place) (start : Nat) (items : List Json) : List Declared :=
  (items.zipIdx start).flatMap fun (item, n) => ofItem (place ++ [.index n]) item

def ofList (place : List Place) : Option Json → List Declared
  | some (.array items) => ofItems place 0 items
  | _ => []

/-- All that is declared of a body, in that order. -/
def ofBody (value : Json) : List Declared :=
  ⟨.object, Payload.body, some value⟩ ::
    match value with
    | .object members =>
        let accounts := ofMember members Payload.body "accounts" .list
        accounts :: ofList accounts.place accounts.value? ++
          [ofMember members Payload.body "instruction" .text]
    | _ => []

/-- Every offending value is reported at its place or just below. -/
structure IsReported (declared : Declared) : Prop where
  length : declared.report.length =
    if declared.shape = .balance ∧ declared.value?.isSome then 2 else 1
  place : ∀ e ∈ declared.report, ∃ below, e.place = declared.place ++ below ∧ below.length ≤ 1

theorem isReported (declared : Declared) : declared.IsReported := by
  obtain ⟨shape, place, value?⟩ := declared
  cases value? with
  | none =>
      constructor
      · simp [report]
      · intro e he
        obtain rfl := List.mem_singleton.mp he
        exact ⟨[], (List.append_nil _).symm, Nat.zero_le 1⟩
  | some value =>
      obtain ⟨hlength, hbelow⟩ := shape.complaints_spec value
      constructor
      · simp [report, hlength]
      · intro e he
        obtain ⟨⟨below, complaint⟩, hmem, rfl⟩ := List.mem_map.mp he
        exact ⟨below, rfl, hbelow _ hmem⟩

/-- The errors about what is declared: those about one value are next to each other. -/
def reports (all : List Declared) : List PayloadError :=
  (all.filter isOffending).flatMap report

private theorem reports_eq_nil_iff {all : List Declared} :
    reports all = [] ↔ ∀ declared ∈ all, declared.isOffending = false := by
  have hreport (declared : Declared) : declared.report ≠ [] := by
    intro hnone
    have hlength := declared.isReported.length
    rw [hnone, List.length_nil] at hlength
    split at hlength <;> contradiction
  rw [reports, List.flatMap_eq_nil_iff]
  constructor
  · intro h declared hmem
    rw [Bool.eq_false_iff]
    intro hoffending
    exact hreport declared (h declared (List.mem_filter.mpr ⟨hmem, hoffending⟩))
  · intro h declared hmem
    obtain ⟨hall, hoffending⟩ := List.mem_filter.mp hmem
    rw [h declared hall] at hoffending
    contradiction

private theorem reports_append (left right : List Declared) :
    reports (left ++ right) = reports left ++ reports right := by
  rw [reports, List.filter_append, List.flatMap_append, reports, reports]

private theorem reports_cons_of_admits {shape : Shape} {value : Json} (h : shape.admits value)
    (place : List Place) (rest : List Declared) :
    reports (⟨shape, place, some value⟩ :: rest) = reports rest := by
  rw [reports, List.filter_cons_of_neg (by simp [isOffending, h]), reports]

private theorem reports_of_not_admits {shape : Shape} {value : Json}
    (h : shape.admits value = false)
    (place : List Place) :
    reports [⟨shape, place, some value⟩] =
      (shape.complaints value).map fun complaint => ⟨place ++ complaint.1, complaint.2⟩ := by
  rw [reports, List.filter_cons_of_pos (by simp [isOffending, h])]
  exact List.append_nil _

end Declared

/-- A check refuses with these errors, or accepts if there are none. -/
inductive Checked.Complains {α : Type} : Checked α → List PayloadError → Prop
  | accepted (a : α) : Complains (.ok a) []
  | refused (first : PayloadError) (rest : List PayloadError) :
      Complains (.error (first :: rest)) (first :: rest)

namespace Checked.Complains

variable {α β γ : Type}

theorem both {a : Checked α} {b : Checked β} {left right : List PayloadError}
    (join : α → β → γ) (ha : Complains a left) (hb : Complains b right) :
    Complains (Checked.both join a b) (left ++ right) := by
  cases ha with
  | accepted a =>
      cases hb with
      | accepted b => exact .accepted (join a b)
      | refused first rest => exact .refused first rest
  | refused first rest =>
      cases hb with
      | accepted b =>
          rw [List.append_nil]
          exact .refused first rest
      | refused other others => exact .refused first (rest ++ other :: others)

theorem cases {check : Checked α} {errors : List PayloadError} (h : Complains check errors) :
    (∃ a, check = .ok a) ∧ errors = [] ∨ check = .error errors ∧ errors ≠ [] := by
  cases h with
  | accepted a => exact .inl ⟨⟨a, rfl⟩, rfl⟩
  | refused first rest => exact .inr ⟨rfl, List.cons_ne_nil first rest⟩

end Checked.Complains

namespace Payload

open Checked Declared

private theorem complains_required {α : Type} {shape : Shape} {read : List Place → Json → Checked α}
    (members : List (Text × Json)) (place : List Place) (name : String)
    (h : ∀ there value, Complains (read there value) (reports [⟨shape, there, some value⟩])) :
    Complains (required members place name read) (reports [ofMember members place name shape]) := by
  unfold required ofMember
  cases Json.member? members name with
  | none => exact .refused _ []
  | some value => exact h _ value

theorem complains_complain {α : Type} {shape : Shape} {value : Json} {complaint : Complaint}
    (hadmits : shape.admits value = false) (h : shape.complaints value = [([], complaint)])
    (place : List Place) :
    Complains (complain place complaint : Checked α) (reports [⟨shape, place, some value⟩]) := by
  rw [reports_of_not_admits hadmits, h, List.map_singleton, List.append_nil]
  exact .refused ⟨place, complaint⟩ []

private theorem complains_readText (place : List Place) (value : Json) :
    Complains (readText place value) (reports [⟨.text, place, some value⟩]) := by
  cases value with
  | string text => exact .accepted (trim text)
  | _ => exact complains_complain rfl rfl place

private theorem complains_readBalance (place : List Place) (value : Json) :
    Complains (readBalance place value) (reports [⟨.balance, place, some value⟩]) := by
  cases value with
  | whole n => exact .accepted (Balance.whole n)
  | binary x =>
      have hadmits : Shape.balance.admits (.binary x) = x.isFinite := rfl
      cases hfinite : x.isFinite with
      | true =>
          rw [reports_cons_of_admits (hadmits.trans hfinite), readBalance, if_pos hfinite]
          exact .accepted (Balance.binary x)
      | false =>
          rw [reports_of_not_admits (hadmits.trans hfinite), readBalance,
            if_neg (by simp [hfinite])]
          exact .refused _ _
  | _ => exact .refused _ _

private theorem complains_readCurrency (place : List Place) (value : Json) :
    Complains (readCurrency place value) (reports [⟨.currency, place, some value⟩]) := by
  cases value with
  | string text =>
      have hadmits : Shape.currency.admits (.string text) ↔
          ¬ (upper (trim text)).any CodePoint.isSurrogate ∧ (upper (trim text)).length = 3 := by
        simp [Shape.admits]
      unfold readCurrency
      simp only
      split
      · rename_i hhalf
        have hoffending := Bool.eq_false_iff.mpr fun h => (hadmits.mp h).1 hhalf
        exact complains_complain hoffending (by simp [Shape.complaints, hhalf]) place
      · rename_i hwhole
        split
        · rename_i hshort
          have hoffending := Bool.eq_false_iff.mpr fun h =>
            absurd (hadmits.mp h).2 (Nat.ne_of_lt hshort)
          exact complains_complain hoffending (by simp [Shape.complaints, hwhole, hshort]) place
        · rename_i hlong
          split
          · rename_i hpast
            have hoffending := Bool.eq_false_iff.mpr fun h =>
              absurd (hadmits.mp h).2 (Nat.ne_of_gt hpast)
            exact complains_complain hoffending (by simp [Shape.complaints, hwhole, hlong]) place
          · rw [reports_cons_of_admits (hadmits.mpr ⟨hwhole, by omega⟩)]
            exact .accepted _
  | _ => exact complains_complain rfl rfl place

private theorem complains_readAccount (place : List Place) (item : Json) :
    Complains (readAccount place item) (reports (ofItem place item)) := by
  cases item with
  | object members =>
      have hid := complains_required members place "id" complains_readText
      have hbalance := complains_required members place "balance" complains_readBalance
      have hcurrency := complains_required members place "currency" complains_readCurrency
      have hmembers := hid.both (fun id (rest : Balance × Text) => Account.mk id rest.1 rest.2)
        (hbalance.both Prod.mk hcurrency)
      rw [← reports_append, ← reports_append] at hmembers
      rw [ofItem, reports_cons_of_admits rfl]
      exact hmembers
  | _ => exact complains_complain rfl rfl place

private theorem complains_readItems (place : List Place) (start : Nat) (items : List Json) :
    Complains (all (fun index => readAccount (place ++ [index])) start items)
      (reports (ofItems place start items)) := by
  induction items generalizing start with
  | nil => exact .accepted []
  | cons item items ih =>
      rw [ofItems, List.zipIdx_cons, List.flatMap_cons, reports_append]
      exact (complains_readAccount (place ++ [.index start]) item).both List.cons (ih (start + 1))

private theorem complains_readAccounts (place : List Place) (value : Json) :
    Complains (readAccounts place value)
      (reports (⟨.list, place, some value⟩ :: ofList place (some value))) := by
  cases value with
  | array items =>
      rw [reports_cons_of_admits rfl]
      exact complains_readItems place 0 items
  | _ => exact complains_complain rfl rfl place

/-- A body is refused with the errors about what is declared of it, and accepted if there are
none. -/
theorem complains_ofJson (value : Json) :
    Complains (ofJson value) (reports (ofBody value)) := by
  cases value with
  | object members =>
      have haccounts : Complains (required members body "accounts" readAccounts)
          (reports (ofMember members body "accounts" .list ::
            ofList (body ++ [.name "accounts"]) (Json.member? members "accounts"))) := by
        unfold required ofMember
        cases Json.member? members "accounts" with
        | none => exact .refused _ []
        | some value => exact complains_readAccounts _ value
      have hinstruction := complains_required members body "instruction" complains_readText
      have hmembers := haccounts.both Payload.mk hinstruction
      rw [← reports_append] at hmembers
      rw [ofBody, reports_cons_of_admits rfl]
      exact hmembers
  | _ => exact complains_complain rfl rfl body

end Payload

@[simp] theorem Account.normalized_normalized (account : Account) :
    account.normalized.normalized = account.normalized := by
  simp [normalized, trim_trim, trim_upper_trim, upper_upper]

@[simp] theorem Payload.normalized_normalized (payload : Payload) :
    payload.normalized.normalized = payload.normalized := by
  simp [normalized, trim_trim]

private theorem Account.isGivenBy_toJson (account : Account) : account.IsGivenBy account.toJson :=
  ⟨_, rfl, rfl, rfl, rfl⟩

def Payload.toJson (payload : Payload) : Json :=
  .object [
    ("accounts", .array (payload.accounts.map Account.toJson)),
    ("instruction", .string payload.instruction)]

namespace Payload

open Checked

private theorem isGivenBy_toJson (payload : Payload) : payload.IsGivenBy payload.toJson := by
  refine ⟨_, _, rfl, rfl, ?_, rfl⟩
  rw [List.forall₂_map_right_iff, List.forall₂_same]
  exact fun account _ => account.isGivenBy_toJson

/-- Such a payload is read from a body: one that is given there, normalized, with sound accounts. -/
structure IsReadFrom (payload : Payload) (body : Json) : Prop where
  given : ∃ given : Payload, given.IsGivenBy body ∧ given.normalized = payload
  sound : ∀ account ∈ payload.accounts, account.IsSound

private theorem readBalance_toJson {balance : Balance} (h : balance.isFinite) (place : List Place) :
    readBalance place balance.toJson = .ok balance := by
  cases balance with
  | whole n => rfl
  | binary x => exact if_pos h

private theorem readAccount_of_isGivenBy {given : Account} {item : Json}
    (hgiven : given.IsGivenBy item)
    (hsound : given.normalized.IsSound) (place : List Place) :
    readAccount place item = .ok given.normalized := by
  obtain ⟨members, rfl, hid, hbalance, hcurrency⟩ := hgiven
  refine readAccount_eq_ok_iff_required.mpr ⟨members, rfl, ?_, ?_, ?_⟩
  · exact required_eq_ok_iff.mpr ⟨_, hid, rfl⟩
  · exact required_eq_ok_iff.mpr ⟨_, hbalance, readBalance_toJson hsound.balance _⟩
  · refine required_eq_ok_iff.mpr ⟨_, hcurrency, readCurrency_eq_ok_iff.mpr ?_⟩
    exact ⟨given.currency, rfl, rfl, hsound.currency, hsound.encodable⟩

theorem all_of_forall₂ {read : Place → Json → Checked Account} {given : List Account}
    {items : List Json}
    (h : List.Forall₂ (fun account item => ∀ place, read place item = .ok account.normalized)
      given items) (start : Nat) :
    all read start items = .ok (given.map Account.normalized) := by
  induction h generalizing start with
  | nil => rfl
  | cons hfirst _ ih =>
      rw [all, hfirst, ih]
      rfl

theorem ofJson_eq_ok_iff {body : Json} {payload : Payload} :
    ofJson body = .ok payload ↔ payload.IsReadFrom body := by
  constructor
  · intro h
    exact ⟨exists_of_ofJson h, isSound_of_ofJson h⟩
  · rintro ⟨⟨given, ⟨members, items, rfl, haccounts, hitems, hinstruction⟩, rfl⟩, hsound⟩
    have hread : List.Forall₂ (fun account item =>
        ∀ index, readAccount (body ++ [.name "accounts"] ++ [index]) item =
          .ok account.normalized) given.accounts items := by
      have hsoundItems := (List.forall₂_and_left _ _).mpr
        ⟨List.forall_mem_map.mp hsound, hitems⟩
      refine hsoundItems.imp ?_
      rintro account item ⟨hsound, hgiven⟩ index
      exact readAccount_of_isGivenBy hgiven hsound _
    refine ofJson_eq_ok_iff_required.mpr ⟨members, rfl, ?_, ?_⟩
    · exact required_eq_ok_iff.mpr ⟨_, haccounts, all_of_forall₂ hread 0⟩
    · exact required_eq_ok_iff.mpr ⟨_, hinstruction, rfl⟩

/-- What was accepted is accepted again, and stays as it is. -/
theorem ofJson_toJson {body : Json} {payload : Payload} (h : payload.IsReadFrom body) :
    ofJson payload.toJson = .ok payload := by
  obtain ⟨given, _, rfl⟩ := h.given
  refine ofJson_eq_ok_iff.mpr ⟨⟨given.normalized, isGivenBy_toJson _, ?_⟩, h.sound⟩
  exact normalized_normalized given

end Payload

namespace Json

def under (names : List Text) (members : List (Text × Json)) : List (Text × Json) :=
  members.filter fun member => names.contains member.1

private theorem member?_under {names : List Text} {name : Text} (h : name ∈ names)
    (members : List (Text × Json)) : member? (under names members) name = member? members name := by
  rw [member?, under, ← List.filter_reverse, List.find?_filter, member?]
  congr 2
  funext member
  by_cases hname : member.1 = name <;> simp [hname, h]

private theorem member?_map (change : Text → Json → Json) (members : List (Text × Json))
    (name : Text) :
    member? (members.map fun member => (member.1, change member.1 member.2)) name =
      (member? members name).map (change name) := by
  rw [member?, ← List.map_reverse, List.find?_map, member?]
  change ((members.reverse.find? (·.1 == name)).map _).map _ = _
  cases hfound : members.reverse.find? (·.1 == name) with
  | none => rfl
  | some member =>
      have hname : member.1 = name := by simpa using List.find?_some hfound
      rw [← hname]
      rfl

end Json

namespace Payload

open Checked

def accountNames : List Text := ["id", "balance", "currency"]

def bodyNames : List Text := ["accounts", "instruction"]

def declaredItem : Json → Json
  | .object members => .object (Json.under accountNames members)
  | item => item

def declaredList : Json → Json
  | .array items => .array (items.map declaredItem)
  | value => value

def declaredMembers (members : List (Text × Json)) : List (Text × Json) :=
  (Json.under bodyNames members).map fun member =>
    (member.1, if member.1 = ("accounts" : Text) then declaredList member.2 else member.2)

/-- A body with its declared members only, and those of its accounts. -/
def declaredBody : Json → Json
  | .object members => .object (declaredMembers members)
  | value => value

private theorem required_under {α : Type} {names : List Text} {name : String}
    (h : Text.ofString name ∈ names) (members : List (Text × Json)) (place : List Place)
    (read : List Place → Json → Checked α) :
    required (Json.under names members) place name read = required members place name read := by
  rw [required, Json.member?_under h, required]

private theorem readAccount_declaredItem (place : List Place) (item : Json) :
    readAccount place (declaredItem item) = readAccount place item := by
  cases item with
  | object members =>
      have hid : Text.ofString "id" ∈ accountNames := by simp [accountNames]
      have hbalance : Text.ofString "balance" ∈ accountNames := by simp [accountNames]
      have hcurrency : Text.ofString "currency" ∈ accountNames := by simp [accountNames]
      rw [declaredItem, readAccount, required_under hid, required_under hbalance,
        required_under hcurrency, readAccount]
  | _ => rfl

private theorem all_map {α : Type} {read : Place → Json → Checked α} {change : Json → Json}
    (h : ∀ place item, read place (change item) = read place item) (start : Nat)
    (items : List Json) : all read start (items.map change) = all read start items := by
  induction items generalizing start with
  | nil => rfl
  | cons item items ih => rw [List.map_cons, all, all, h, ih]

private theorem readAccounts_declaredList (place : List Place) (value : Json) :
    readAccounts place (declaredList value) = readAccounts place value := by
  cases value with
  | array items => exact all_map (fun index => readAccount_declaredItem (place ++ [index])) 0 items
  | _ => rfl

private theorem member?_declaredMembers {name : Text} (h : name ∈ bodyNames)
    (members : List (Text × Json)) :
    Json.member? (declaredMembers members) name = (Json.member? members name).map
      fun value => if name = ("accounts" : Text) then declaredList value else value := by
  rw [declaredMembers, Json.member?_map (fun name value =>
    if name = ("accounts" : Text) then declaredList value else value), Json.member?_under h]

/-- A body is read by its declared members alone. -/
theorem ofJson_declaredBody (value : Json) : ofJson (declaredBody value) = ofJson value := by
  cases value with
  | object members =>
      have haccounts : required (declaredMembers members) body "accounts" readAccounts =
          required members body "accounts" readAccounts := by
        rw [required, required, member?_declaredMembers (by simp [bodyNames])]
        cases Json.member? members "accounts" with
        | none => rfl
        | some value => exact readAccounts_declaredList _ value
      have hinstruction : required (declaredMembers members) body "instruction" readText =
          required members body "instruction" readText := by
        rw [required, required, member?_declaredMembers (by simp [bodyNames])]
        cases Json.member? members "instruction" with
        | none => rfl
        | some value => rfl
      rw [declaredBody, ofJson, ofJson, haccounts, hinstruction]
  | _ => rfl

end Payload

/-- A request that posts a value to the instructions, declared as JSON. -/
structure Request.Posts (request : Request) (body : Json) : Prop where
  method : request.method = "POST"
  path : Route.ofPath? request.path = some .instructions
  declared : request.isJson
  body : Service.readJson request = .ok body

/-- An answer that refuses a payload with the errors about it. -/
structure Answer.Refuses (answer : Answer) (errors : List PayloadError) : Prop where
  raised : answer.raised = none
  status : answer.response.status = 400
  content : answer.response.content = .json (.object [
    ("message", .string "Invalid request payload"),
    ("errors", .array (errors.map PayloadError.toJson))])

namespace Service

variable {request : Request} {body : Json}

private theorem readPayload_of_posts (h : request.Posts body) :
    readPayload request = (Payload.ofJson body).mapError .rejected := by
  have hbytes : request.body.isEmpty = false := by
    cases hnone : request.body with
    | nil =>
        have hread := h.body
        rw [readJson, hnone] at hread
        cases hread
    | cons byte bytes => rfl
  rw [readPayload, if_neg (by simp [hbytes]), if_pos h.declared, h.body]
  rfl

theorem accepted?_of_posts (h : request.Posts body) :
    accepted? request = (Payload.ofJson body).toOption := by
  rw [accepted?, if_pos ⟨h.method, h.path⟩, readPayload_of_posts h]
  cases Payload.ofJson body <;> rfl

private theorem accepted?_eq_some_iff_of_posts (h : request.Posts body) {payload : Payload} :
    accepted? request = some payload ↔ payload.IsReadFrom body := by
  rw [accepted?_of_posts h, ← Payload.ofJson_eq_ok_iff]
  cases Payload.ofJson body <;> simp [Except.toOption]

private theorem accepted?_eq_none_iff_of_posts (h : request.Posts body) :
    accepted? request = none ↔ ∃ declared ∈ Declared.ofBody body, declared.isOffending := by
  have hreports : Declared.reports (Declared.ofBody body) = [] ↔
      ¬ ∃ declared ∈ Declared.ofBody body, declared.isOffending := by
    simp [Declared.reports_eq_nil_iff]
  rw [accepted?_of_posts h, ← not_iff_not, ← hreports]
  rcases (Payload.complains_ofJson body).cases with ⟨⟨payload, hok⟩, hnone⟩ | ⟨herror, hsome⟩
  · rw [hok]
    exact iff_of_true (Option.some_ne_none payload) hnone
  · rw [herror]
    exact iff_of_false (not_not_intro rfl) hsome

private theorem handle_of_rejected {errors : List PayloadError} (h : request.Posts body)
    (hrejected : Payload.ofJson body = .error errors) (settings : Settings) (today : Date)
    (metrics : Metrics) : (handle settings today metrics request).1.Refuses errors := by
  have hread : readPayload request = .error (.rejected errors) := by
    rw [readPayload_of_posts h, hrejected]
    rfl
  have hmethod : request.method ∈ Route.instructions.methods := List.mem_singleton.mpr h.method
  rw [handle, respond, dispatch, h.path]
  simp only [if_pos hmethod, serve, postInstruction, hread]
  exact ⟨rfl, rfl, rfl⟩

/-- A posted body is accepted if it gives sound accounts and a text, and the engine gets them
normalized, which is final; else each offending value is reported, in order. Members that are not
declared make no difference. -/
theorem validates_declared (h : request.Posts body) (settings : Settings) (today : Date)
    (metrics : Metrics) :
    (∀ payload, accepted? request = some payload ↔ payload.IsReadFrom body) ∧
      (∀ payload, accepted? request = some payload →
        (∀ requestId, dispatch settings today metrics request requestId =
          process payload requestId today metrics) ∧
          Payload.ofJson payload.toJson = .ok payload) ∧
      (accepted? request = none ↔ ∃ declared ∈ Declared.ofBody body, declared.isOffending) ∧
      (accepted? request = none →
        let offending := (Declared.ofBody body).filter Declared.isOffending
        let errors := offending.flatMap Declared.report
        (handle settings today metrics request).1.Refuses errors ∧ errors ≠ [] ∧
          ∀ declared ∈ offending, declared.IsReported) ∧
      Payload.ofJson (Payload.declaredBody body) = Payload.ofJson body := by
  refine ⟨fun _ => accepted?_eq_some_iff_of_posts h, ?_, accepted?_eq_none_iff_of_posts h, ?_,
    Payload.ofJson_declaredBody body⟩
  · intro payload hpayload
    have hread := (accepted?_eq_some_iff_of_posts h).mp hpayload
    exact ⟨dispatch_of_accepted hpayload settings today metrics, Payload.ofJson_toJson hread⟩
  · intro hnone offending errors
    rcases (Payload.complains_ofJson body).cases with ⟨⟨payload, hok⟩, _⟩ | ⟨herror, hsome⟩
    · rw [accepted?_of_posts h, hok] at hnone
      cases hnone
    · exact ⟨handle_of_rejected h herror settings today metrics, hsome,
        fun declared _ => declared.isReported⟩

private theorem exists_posts_of_map {α : Type} {tell : Json → α} {told : α}
    (hmethod : request.method = "POST") (hpath : Route.ofPath? request.path = some .instructions)
    (hdeclared : request.isJson) (htold : (readJson request).map tell = .ok told) :
    ∃ body, request.Posts body ∧ tell body = told := by
  cases hread : readJson request with
  | error unread =>
      rw [hread] at htold
      cases htold
  | ok body =>
      rw [hread] at htold
      exact ⟨body, ⟨hmethod, hpath, hdeclared, hread⟩, Except.ok.inj htold⟩

/-- Five are moved from a binary balance to a whole one. In the other body one account is fine, the
second is none, the third has a balance that is no number and a short currency, and there is no
instruction. -/
theorem validates_declared_mixed :
    let today : Date := ⟨2025, 1, 31⟩
    let sound := posted (
      "\x7b\"accounts\":[".toList ++
      "\x7b\"id\":\" a\",\"balance\":7.5,\"currency\":\"ngn\",\"n\":0\x7d,".toList ++
      "\x7b\"id\":\"b\",\"balance\":2,\"currency\":\" NGN\"\x7d],\"instruction\":".toList ++
      "\" DEBIT 5 NGN FROM ACCOUNT a FOR CREDIT TO ACCOUNT b\"\x7d".toList)
    let payload : Payload :=
      ⟨[⟨"a", .binary (.ofBits 0x401e000000000000), "NGN"⟩, ⟨"b", .whole 2, "NGN"⟩],
        "DEBIT 5 NGN FROM ACCOUNT a FOR CREDIT TO ACCOUNT b"⟩
    let faulty := posted (
      "\x7b\"accounts\":[".toList ++
      "\x7b\"id\":\" a\",\"balance\":1.5,\"currency\":\"ngn\",\"n\":0\x7d,".toList ++
      "3,\x7b\"id\":\"b\",\"balance\":true,\"currency\":\"NG\"\x7d]\x7d".toList)
    let accounts := Payload.body ++ [.name "accounts"]
    (accepted? sound = some payload ∧
      dispatch {} today {} sound sound.id = process payload sound.id today {} ∧
      (process payload sound.id today {}).1.response.status = 200 ∧
      Payload.ofJson payload.toJson = .ok payload) ∧
    (handle {} today {} faulty).1.Refuses [
      ⟨accounts ++ [.index 1], .notObject⟩,
      ⟨accounts ++ [.index 2, .name "balance", .name "int"], .notWhole⟩,
      ⟨accounts ++ [.index 2, .name "balance", .name "float"], .notNumber⟩,
      ⟨accounts ++ [.index 2, .name "currency"], .tooShort⟩,
      ⟨Payload.body ++ [.name "instruction"], .missing⟩] := by
  intro today sound payload faulty accounts
  constructor
  · have hsound : accepted? sound = some payload ∧ (readJson sound).map (fun _ => ()) = .ok () ∧
        sound.isJson ∧ (process payload sound.id today {}).1.response.status = 200 := by
      decide +kernel
    obtain ⟨haccepted, hread, hdeclared, hstatus⟩ := hsound
    obtain ⟨body, hposts, _⟩ := exists_posts_of_map rfl rfl hdeclared hread
    obtain ⟨_, hfinal, _⟩ := validates_declared hposts {} today {}
    obtain ⟨hdispatch, hagain⟩ := hfinal payload haccepted
    exact ⟨haccepted, hdispatch sound.id, hstatus, hagain⟩
  · have hfaulty : accepted? faulty = none ∧ faulty.isJson ∧
        (readJson faulty).map (fun body => Declared.reports (Declared.ofBody body)) = .ok [
          ⟨accounts ++ [.index 1], .notObject⟩,
          ⟨accounts ++ [.index 2, .name "balance", .name "int"], .notWhole⟩,
          ⟨accounts ++ [.index 2, .name "balance", .name "float"], .notNumber⟩,
          ⟨accounts ++ [.index 2, .name "currency"], .tooShort⟩,
          ⟨Payload.body ++ [.name "instruction"], .missing⟩] := by
      decide +kernel
    obtain ⟨hnone, hdeclared, hread⟩ := hfaulty
    obtain ⟨body, hposts, hreports⟩ := exists_posts_of_map rfl rfl hdeclared hread
    obtain ⟨_, _, _, hrefuses, _⟩ := validates_declared hposts {} today {}
    rw [← hreports]
    exact (hrefuses hnone).1

end Service

/-- A currency of three code points is refused if one of them is half a surrogate pair. -/
theorem Payload.ofJson_half_pair :
    let given : Payload :=
      ⟨[⟨"a", .whole 1, [.scalar 'A', .surrogate 0, .scalar 'B']⟩], "x"⟩
    given.IsGivenBy given.toJson ∧
      (∀ account ∈ given.accounts,
        account.balance.isFinite ∧ (upper (trim account.currency)).length = 3) ∧
      ofJson given.toJson = .error
        [⟨body ++ [.name "accounts", .index 0, .name "currency"], .notUnicode⟩] := by
  intro given
  exact ⟨isGivenBy_toJson given, by decide +kernel, by decide +kernel⟩

end Remittance
