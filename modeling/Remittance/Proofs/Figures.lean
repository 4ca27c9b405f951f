import Remittance.Proofs.Precedence
import Remittance.Proofs.Report
import Remittance.Proofs.Transfer

namespace Remittance

namespace Binary64

private theorem overflow_mul_unit {a b c : Nat} (ha : a = 1024) (hb : b = 970) (hc : c = 1074) :
    overflow * unit = Nat.pow 2 (a + c) - Nat.pow 2 (b + c) := by
  rw [overflow_eq ha hb, unit_eq hc, Nat.sub_mul, pow_two_add, pow_two_add]

private theorem isFinite_ofUnits_eq_false_iff {n : Int} :
    (ofUnits n).isFinite = false ↔ ∃ negative, ofUnits n = infinite negative := by
  unfold ofUnits ofRatio
  split <;> simp [isFinite]

private theorem isFinite_ofUnits_iff {n : Int} :
    (ofUnits n).isFinite ↔ n.natAbs < overflow * unit := by
  obtain ⟨a, ha⟩ : ∃ a, a = 1024 := ⟨_, rfl⟩
  obtain ⟨b, hb⟩ : ∃ b, b = 970 := ⟨_, rfl⟩
  obtain ⟨c, hc⟩ : ∃ c, c = 1074 := ⟨_, rfl⟩
  have hdouble (k : Nat) : Nat.pow 2 (k + c + 1) = Nat.pow 2 (k + c) * 2 := pow_two_add _ 1
  rw [← not_iff_not, Bool.not_eq_true, isFinite_ofUnits_eq_false_iff,
    ofUnits_eq_infinite_iff (show b + c + 1 = 2045 by omega),
    show b + c + 1 + 54 = a + c + 1 by omega, hdouble, hdouble, overflow_mul_unit ha hb hc]
  omega

private theorem natAbs_units_lt {x : Binary64} {units : Int} (h : x.units? = some units) :
    units.natAbs < overflow * unit := by
  cases x with
  | finite negative rank =>
      obtain rfl := Option.some.inj h
      have hlt := unitsOfRank_lt rank.isLt (Nat.le_refl overflow)
      cases negative with
      | false => exact hlt
      | true => rwa [signed, if_pos rfl, Int.natAbs_neg]
  | infinite negative => cases h
  | nan => cases h

private theorem units?_neg {x : Binary64} {units : Int} (h : x.units? = some units) :
    x.neg.units? = some (-units) := by
  cases x with
  | finite negative rank =>
      obtain rfl := Option.some.inj h
      cases negative <;> simp [neg, units?, signed]
  | infinite negative => cases h
  | nan => cases h

theorem isFinite_add_iff {x y : Binary64} {a b : Int} (hx : x.units? = some a)
    (hy : y.units? = some b) : (x.add y).isFinite ↔ (a + b).natAbs < overflow * unit := by
  cases x with
  | finite negative rank =>
      cases y with
      | finite other place =>
          obtain rfl := Option.some.inj hx
          obtain rfl := Option.some.inj hy
          simp only [add]
          split
          · rename_i hzero
            rw [hzero]
            exact iff_of_true rfl (Nat.zero_lt_of_lt (natAbs_units_lt hx))
          · exact isFinite_ofUnits_iff
      | infinite negative => cases hy
      | nan => cases hy
  | infinite negative => cases hx
  | nan => cases hx

theorem exists_units_of_ofInt? {n : Int} {x : Binary64} (hn : 0 ≤ n) (h : ofInt? n = some x) :
    ∃ units, x.units? = some units ∧ 0 ≤ units := by
  have hpos : decide (n * unit < 0) = false :=
    decide_eq_false (Int.not_lt.mpr (Int.mul_nonneg hn (Int.natCast_nonneg unit)))
  rw [ofInt?, ofUnits, hpos, ofRatio] at h
  split at h
  · cases h
    exact ⟨_, rfl, Int.natCast_nonneg _⟩
  · cases h

end Binary64

namespace Balance

/-- A binary balance and the number nearest to an amount add up to the threshold or more. -/
inductive Overfills : Balance → Int → Prop
  | intro {held moved : Binary64} {amount : Int} {a b : ℚ}
      (hmoved : Binary64.ofInt? amount = some moved) (ha : held.value? = some a)
      (hb : moved.value? = some b) (hpast : (Binary64.overflow : ℚ) ≤ a + b) :
      Overfills (.binary held) amount

variable {balance : Balance} {amount : Int}

private theorem binaryAmount_eq_ok_iff {x : Binary64} :
    binaryAmount amount = .ok x ↔ Binary64.ofInt? amount = some x := by
  rw [binaryAmount]
  cases Binary64.ofInt? amount <;> simp

private theorem isFinite_of_minus {paid : Balance} (hamount : 0 ≤ amount)
    (hfinite : balance.isFinite)
    (hcovered : balance.isBelow amount = false) (h : balance.minus amount = .ok paid) :
    paid.isFinite := by
  cases balance with
  | whole n =>
      cases h
      rfl
  | binary x =>
      obtain ⟨moved, hmoved, rfl⟩ := map_eq_ok_iff.mp h
      obtain ⟨units, hunits⟩ := (Binary64.isFinite_iff_units? x).mp hfinite
      obtain ⟨taken, htaken, hnonneg⟩ :=
        Binary64.exists_units_of_ofInt? hamount (binaryAmount_eq_ok_iff.mp hmoved)
      have hheld : amount * Binary64.unit ≤ units := by
        rw [← Int.not_lt, ← Binary64.isBelow_iff_of_units? hunits, Bool.not_eq_true]
        exact hcovered
      have hscaled : 0 ≤ amount * Binary64.unit :=
        Int.mul_nonneg hamount (Int.natCast_nonneg Binary64.unit)
      have hunitsLt := Binary64.natAbs_units_lt hunits
      have htakenLt := Binary64.natAbs_units_lt htaken
      refine (Binary64.isFinite_add_iff hunits (Binary64.units?_neg htaken)).mpr ?_
      generalize Binary64.overflow * Binary64.unit = bound at *
      omega

private theorem overfills_iff_of_units? {held moved : Binary64} {a b : Int}
    (hmoved : Binary64.ofInt? amount = some moved) (ha : held.units? = some a)
    (hb : moved.units? = some b) :
    (binary held).Overfills amount ↔ (Binary64.overflow * Binary64.unit : Nat) ≤ a + b := by
  have hpos : (0 : ℚ) < Binary64.unit := by exact_mod_cast Binary64.unit_pos
  have hscaled : (Binary64.overflow : ℚ) ≤ a / Binary64.unit + b / Binary64.unit ↔
      (Binary64.overflow * Binary64.unit : Nat) ≤ a + b := by
    rw [← add_div, le_div_iff₀ hpos]
    exact_mod_cast Iff.rfl
  rw [← hscaled]
  constructor
  · intro h
    cases h with
    | intro hrounded hheld hgiven hpast =>
        obtain rfl := Option.some.inj (hmoved.symm.trans hrounded)
        obtain ⟨_, hheldUnits, rfl⟩ := Binary64.value?_eq_some_iff.mp hheld
        obtain ⟨_, hgivenUnits, rfl⟩ := Binary64.value?_eq_some_iff.mp hgiven
        obtain rfl := Option.some.inj (ha.symm.trans hheldUnits)
        obtain rfl := Option.some.inj (hb.symm.trans hgivenUnits)
        exact hpast
  · intro h
    exact .intro hmoved (Binary64.value?_eq_some_iff.mpr ⟨a, ha, rfl⟩)
      (Binary64.value?_eq_some_iff.mpr ⟨b, hb, rfl⟩) h

theorem isFinite_plus_iff {received : Balance} (hamount : 0 ≤ amount) (hfinite : balance.isFinite)
    (h : balance.plus amount = .ok received) : received.isFinite ↔ ¬ balance.Overfills amount := by
  cases balance with
  | whole n =>
      cases h
      refine iff_of_true rfl ?_
      rintro ⟨⟩
  | binary x =>
      obtain ⟨moved, hmoved, rfl⟩ := map_eq_ok_iff.mp h
      have hmoved := binaryAmount_eq_ok_iff.mp hmoved
      obtain ⟨units, hunits⟩ := (Binary64.isFinite_iff_units? x).mp hfinite
      obtain ⟨added, hadded, hnonneg⟩ := Binary64.exists_units_of_ofInt? hamount hmoved
      have hunitsLt := Binary64.natAbs_units_lt hunits
      have hsum : (units + added).natAbs < Binary64.overflow * Binary64.unit ↔
          units + added < (Binary64.overflow * Binary64.unit : Nat) := by
        generalize Binary64.overflow * Binary64.unit = bound at *
        omega
      rw [isFinite, Binary64.isFinite_add_iff hunits hadded, hsum,
        overfills_iff_of_units? hmoved hunits hadded, Int.not_le]

end Balance

/-- An executed result whose amount overfills the first record of the payee. -/
structure Result.Overfills (result : Result) (snapshot : Snapshot) : Prop where
  executed : result.code = .executed
  credit : ∃ credit amount, snapshot.IsFirst result.instruction.creditAccount credit ∧
    result.instruction.amount = some amount ∧ credit.balance.Overfills amount

variable {snapshot : Snapshot} {text : Text} {today : Date} {instruction : Instruction}

private theorem Result.overfills_iff_of_cleared {debit credit : Account} {amount : Int}
    {ledger : Ledger}
    (hcleared : Cleared (.ofSnapshot instruction snapshot today) debit credit amount) :
    (Result.of instruction .executed snapshot ledger).Overfills snapshot ↔
      credit.balance.Overfills amount := by
  have hfirst : snapshot.IsFirst instruction.creditAccount credit :=
    Snapshot.lookup?_eq_some_iff.mp hcleared.credit_eq
  have hamount : instruction.amount = some amount := hcleared.amount_eq
  constructor
  · rintro ⟨_, other, moved, hother, hmoved, hpast⟩
    obtain rfl := hfirst.unique hother
    obtain rfl := Option.some.inj (hamount.symm.trans hmoved)
    exact hpast
  · intro hpast
    exact ⟨rfl, credit, amount, hfirst, hamount, hpast⟩

/-- The numbers that a result shows: what was there before is finite, and what is there after is
so exactly if nothing overfills. -/
structure Result.ShowsFinite (result : Result) (snapshot : Snapshot) : Prop where
  before : ∀ view ∈ result.views, view.balanceBefore.isFinite
  after_iff : (∀ view ∈ result.views, view.balance.isFinite) ↔ ¬ result.Overfills snapshot

private theorem Result.showsFinite_of_views {result : Result} (hcode : result.code ≠ .executed)
    (hfinite : ∀ account ∈ snapshot, account.balance.isFinite)
    (hviews : result.views = (snapshot.filter result.instruction.names).map View.unchanged) :
    result.ShowsFinite snapshot := by
  have hunchanged : ∀ view ∈ result.views, view.balanceBefore.isFinite ∧ view.balance.isFinite := by
    intro view hview
    rw [hviews] at hview
    obtain ⟨account, hmem, rfl⟩ := List.mem_map.mp hview
    have haccount := hfinite account (List.mem_filter.mp hmem).1
    exact ⟨haccount, haccount⟩
  exact ⟨fun view hview => (hunchanged view hview).1,
    iff_of_true (fun view hview => (hunchanged view hview).2) fun h => hcode h.executed⟩

private theorem Result.showsFinite_of_cleared {debit credit : Account} {amount : Int}
    {ledger : Ledger}
    (hfinite : ∀ account ∈ snapshot, account.balance.isFinite) (hamount : 0 ≤ amount)
    (hcleared : Cleared (.ofSnapshot instruction snapshot today) debit credit amount)
    (htransfer : Ledger.transfer debit credit amount = .ok ledger) :
    (Result.of instruction .executed snapshot ledger).ShowsFinite snapshot := by
  obtain ⟨_, _, hdebitMem⟩ := Snapshot.lookup?_of_account hcleared.debit_eq
  obtain ⟨hcreditId, _, hcreditMem⟩ := Snapshot.lookup?_of_account hcleared.credit_eq
  obtain ⟨paid, received, hpaid, hreceived, hdebitEntry, hcreditEntry⟩ :=
    Ledger.lookup?_of_transfer hcleared.id_ne htransfer
  have hpaidFinite :=
    Balance.isFinite_of_minus hamount (hfinite debit hdebitMem) hcleared.covered hpaid
  have hreceivedFinite := Balance.isFinite_plus_iff hamount (hfinite credit hcreditMem) hreceived
  constructor
  case before =>
    intro view hview
    rcases View.cases_of_cleared hcleared hdebitEntry hcreditEntry hview with
      ⟨_, hbefore, _⟩ | ⟨_, hbefore, _⟩
    · rw [hbefore]
      exact hfinite debit hdebitMem
    · rw [hbefore]
      exact hfinite credit hcreditMem
  case after_iff =>
    rw [overfills_iff_of_cleared hcleared, ← hreceivedFinite]
    constructor
    · intro hviews
      have hview : View.ofAccount ledger credit ∈
          (Result.of instruction .executed snapshot ledger).views :=
        View.mem_ofSnapshot_iff.mpr ⟨credit, hcreditMem, .inr hcreditId, rfl⟩
      have hafter : (View.ofAccount ledger credit).balance = received :=
        (View.ofAccount_of_lookup? hcreditEntry).1
      rw [← hafter]
      exact hviews _ hview
    · intro hreceivedFinite view hview
      rcases View.cases_of_cleared hcleared hdebitEntry hcreditEntry hview with
        ⟨_, _, hafter⟩ | ⟨_, _, hafter⟩
      · rw [hafter]
        exact hpaidFinite
      · rw [hafter]
        exact hreceivedFinite

theorem process_showsFinite (hfinite : ∀ account ∈ snapshot, account.balance.isFinite)
    (text : Text) (today : Date) : (process snapshot text today).1.ShowsFinite snapshot := by
  cases houtcome : outcome snapshot text today with
  | error fault =>
      rw [process_of_outcome_error houtcome]
      have hcode : Result.malformed.code ≠ .executed := by decide
      refine Result.showsFinite_of_views hcode hfinite ?_
      simp [Result.malformed, Instruction.empty, Instruction.names]
  | ok ended =>
      rw [process_of_outcome_ok houtcome]
      have hends := ends_of_outcome houtcome
      have hviews := hends.views_of_code_ne_executed
      cases hends with
      | refused hcode => exact Result.showsFinite_of_views hcode hfinite (hviews hcode)
      | executed hmatch hdate hcleared htransfer =>
          obtain ⟨whole, hwhole, hpos⟩ := (Match.complete_of_matched hmatch).amount
          obtain rfl := Option.some.inj (hcleared.amount_eq.symm.trans hwhole)
          exact Result.showsFinite_of_cleared hfinite (by omega) hcleared htransfer

def Json.HasNumber (item : Json) (name : Text) : Prop :=
  ∃ (members : List (Text × Json)) (balance : Balance), item = .object members ∧
    Json.member? members name = some balance.toJson ∧ balance.isFinite

private theorem Json.hasNumber_iff {members : List (Text × Json)} {name : Text} {value : Json}
    (h : member? members name = some value) :
    (object members).HasNumber name ↔ ∃ shown : Balance, value = shown.toJson ∧ shown.isFinite := by
  constructor
  · rintro ⟨_, shown, heq, hshown, hfinite⟩
    obtain rfl := Json.object.inj heq
    exact ⟨shown, Option.some.inj (h.symm.trans hshown), hfinite⟩
  · rintro ⟨shown, rfl, hfinite⟩
    exact ⟨members, shown, rfl, h, hfinite⟩

private theorem Balance.exists_toFiniteJson_eq_iff {balance : Balance} :
    (∃ shown : Balance, balance.toFiniteJson = shown.toJson ∧ shown.isFinite) ↔
      balance.isFinite := by
  constructor
  · rintro ⟨shown, hshown, _⟩
    by_contra hinfinite
    rw [toFiniteJson, if_neg hinfinite] at hshown
    cases shown with
    | whole n => cases hshown
    | binary x => cases hshown
  · intro hfinite
    exact ⟨balance, if_pos hfinite, hfinite⟩

private theorem View.hasNumber_balance_iff (view : View) :
    (view.toJsonWith Balance.toFiniteJson).HasNumber "balance" ↔ view.balance.isFinite :=
  (Json.hasNumber_iff rfl).trans Balance.exists_toFiniteJson_eq_iff

private theorem View.hasNumber_balanceBefore_iff (view : View) :
    (view.toJsonWith Balance.toFiniteJson).HasNumber "balance_before" ↔
      view.balanceBefore.isFinite :=
  (Json.hasNumber_iff rfl).trans Balance.exists_toFiniteJson_eq_iff

namespace Service

variable {settings : Settings} {metrics : Metrics} {request : Request} {payload : Payload}

private theorem content_of_answered (haccepted : accepted? request = some payload)
    (h : (handle settings today metrics request).1.raised = none) :
    ∃ message, (handle settings today metrics request).1.response.content = .json (.object [
      ("message", message),
      ("data", (Remittance.process payload.accounts payload.instruction today).1.toJsonWith
        Balance.toFiniteJson)]) :=
  ⟨_, congrArg (·.response.content) (handle_of_answered haccepted rfl h)⟩

theorem raised_of_content {value : Json} (haccepted : accepted? request = some payload)
    (h : (handle settings today metrics request).1.response.content = .json value) :
    (handle settings today metrics request).1.raised = none := by
  obtain ⟨_, _, hread⟩ := accepted?_eq_some_iff.mp haccepted
  simp only [handle, respond, dispatch_of_accepted haccepted] at h ⊢
  rcases process_cases (isEncodable_of_readPayload hread) rfl request.id metrics with
    ⟨_, hreports⟩ | ⟨_, hresponse, hraised⟩
  · rw [hreports.raised]
  · obtain ⟨fault, hfault⟩ := Option.isSome_iff_exists.mp hraised
    rw [hfault] at h
    have htext := h.symm.trans (congrArg Response.content hresponse)
    cases htext

/-- An answer to an accepted payload shows finite numbers before, and after exactly if the amount
does not overfill the payee's balance. -/
theorem handle_shows_numbers_iff {message data : Json}
    (haccepted : accepted? request = some payload)
    (hcontent : (handle settings today metrics request).1.response.content =
      .json (.object [("message", message), ("data", data)])) :
    let result := (Remittance.process payload.accounts payload.instruction today).1
    ∃ members items, data = .object members ∧
      Json.member? members "accounts" = some (.array items) ∧
      (∀ item ∈ items, item.HasNumber "balance_before") ∧
      ((∀ item ∈ items, item.HasNumber "balance") ↔ ¬ result.Overfills payload.accounts) := by
  intro result
  obtain ⟨_, _, hread⟩ := accepted?_eq_some_iff.mp haccepted
  have hfinite := fun account hmem => (isSound_of_readPayload hread account hmem).balance
  have hshows := process_showsFinite hfinite payload.instruction today
  obtain ⟨_, htold⟩ := content_of_answered haccepted (raised_of_content haccepted hcontent)
  cases hcontent.symm.trans htold
  refine ⟨_, _, rfl, rfl, ?_, ?_⟩
  · refine List.forall_mem_map.mpr fun view hview => ?_
    rw [view.hasNumber_balanceBefore_iff]
    exact hshows.before view hview
  · rw [List.forall_mem_map, ← hshows.after_iff]
    simp only [View.hasNumber_balance_iff]

/-- A binary balance pays a whole one, which nothing overfills. -/
theorem handle_shows_numbers_iff_whole :
    let request := posted (
      "\x7b\"accounts\":[\x7b\"id\":\"a\",\"balance\":7.5,\"currency\":\"NGN\"\x7d,".toList ++
      "\x7b\"id\":\"b\",\"balance\":-3,\"currency\":\"NGN\"\x7d],".toList ++
      "\"instruction\":\"DEBIT 5 NGN FROM ACCOUNT a FOR CREDIT TO ACCOUNT b\"\x7d".toList)
    let answer := (handle {} ⟨2025, 1, 31⟩ {} request).1
    answer.response.status = 200 ∧ ∃ message members items, answer.response.content =
        .json (.object [("message", message), ("data", .object members)]) ∧
      Json.member? members "accounts" = some (.array items) ∧
      (∀ item ∈ items, item.HasNumber "balance_before") ∧
      ∀ item ∈ items, item.HasNumber "balance" := by
  intro request
  have hanswer : (handle {} ⟨2025, 1, 31⟩ {} request).1.raised = none ∧
      (handle {} ⟨2025, 1, 31⟩ {} request).1.response.status = 200 := by
    decide +kernel
  have hread : ((accepted? request).map fun payload =>
      Snapshot.lookup? payload.accounts (Remittance.process payload.accounts payload.instruction
        ⟨2025, 1, 31⟩).1.instruction.creditAccount) = some (some ⟨"b", .whole (-3), "NGN"⟩) := by
    decide +kernel
  obtain ⟨payload, haccepted, hpayee⟩ := Option.map_eq_some_iff.mp hread
  have hroom : ¬ (Remittance.process payload.accounts payload.instruction
      ⟨2025, 1, 31⟩).1.Overfills payload.accounts := by
    rintro ⟨_, credit, amount, hfirst, _, hpast⟩
    obtain rfl := hfirst.unique (Snapshot.lookup?_eq_some_iff.mp hpayee)
    cases hpast
  obtain ⟨message, hcontent⟩ := content_of_answered haccepted hanswer.1
  obtain ⟨members, items, hdata, hitems, hbefore, hafter⟩ :=
    handle_shows_numbers_iff haccepted hcontent
  rw [hdata] at hcontent
  exact ⟨hanswer.2, message, members, items, hcontent, hitems, hbefore, hafter.mpr hroom⟩

/-- A request to move 10³⁰⁸ between two balances that are as large, which together are past the
binary numbers. -/
def brimmingRequest : Request :=
  posted ("\x7b\"accounts\":[\x7b\"id\":\"a\",\"balance\":1e308,\"currency\":\"NGN\"\x7d,".toList ++
    "\x7b\"id\":\"b\",\"balance\":1e308,\"currency\":\"NGN\"\x7d],".toList ++
    "\"instruction\":\"DEBIT 1".toList ++ List.replicate 308 '0' ++
    " NGN FROM ACCOUNT a FOR CREDIT TO ACCOUNT b\"\x7d".toList)

/-- The amount is moved, and the payee's balance is shown as null. -/
theorem handle_brimmingRequest :
    let answer := (handle {} ⟨2025, 1, 31⟩ {} brimmingRequest).1
    (accepted? brimmingRequest).isSome ∧ answer.response.status = 200 ∧
      ∃ message members items view, answer.response.content =
          .json (.object [("message", message), ("data", .object members)]) ∧
        Json.member? members "accounts" = some (.array items) ∧
        .object view ∈ items ∧ Json.member? view "balance" = some .null := by
  have hanswer : (handle {} ⟨2025, 1, 31⟩ {} brimmingRequest).1.raised = none ∧
      (handle {} ⟨2025, 1, 31⟩ {} brimmingRequest).1.response.status = 200 := by
    decide +kernel
  have hshown : ((accepted? brimmingRequest).map fun payload =>
      (Remittance.process payload.accounts payload.instruction ⟨2025, 1, 31⟩).1.views.map
        View.balance) = some [.binary (.zero false), .binary (.infinite false)] := by
    decide +kernel
  obtain ⟨payload, haccepted, hviews⟩ := Option.map_eq_some_iff.mp hshown
  have hpast : Balance.binary (.infinite false) ∈ (Remittance.process payload.accounts
      payload.instruction ⟨2025, 1, 31⟩).1.views.map View.balance := by
    rw [hviews]
    exact List.mem_cons_of_mem _ List.mem_cons_self
  obtain ⟨view, hview, hbalance⟩ := List.mem_map.mp hpast
  obtain ⟨message, hcontent⟩ := content_of_answered haccepted hanswer.1
  have hisSome : (accepted? brimmingRequest).isSome := by
    rw [haccepted]
    rfl
  refine ⟨hisSome, hanswer.2, message, _, _, _, hcontent, rfl,
    List.mem_map.mpr ⟨view, hview, rfl⟩, ?_⟩
  change some view.balance.toFiniteJson = some .null
  rw [hbalance]
  rfl

end Service

end Remittance
