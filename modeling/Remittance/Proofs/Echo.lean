import Remittance.Proofs.Matcher.Visits
import Remittance.Proofs.Outcome
import Remittance.Service.Response

namespace Remittance

open Remittance.Text

structure Instruction.Vetted (instruction : Instruction) : Prop where
  kind : ∀ kind ∈ instruction.kind, ∃ verb : Verb, kind = verb.keyword
  amount : ∀ amount ∈ instruction.amount,
    ∃ n : Nat, amount = n ∧ 1 ≤ n ∧ n < Nat.pow 10 digitLimit
  account : ∀ verb, ∀ id ∈ instruction.accountOf verb, Token.isAccountId id

theorem Instruction.vetted_empty : Instruction.empty.Vetted where
  kind := by simp [empty]
  amount := by simp [empty]
  account := by
    intro verb
    cases verb <;> simp [empty, accountOf]

theorem Match.vetted {tokens : Tokens} {executeBy : Option Text} {found : Match}
    (h : Match.ofTokens tokens executeBy = .ok found) : found.instruction.Vetted := by
  obtain ⟨ran, matcher, hvisits, _, rfl⟩ := Matcher.ofTokens_eq_ok_iff_visits.mp h
  have hconsistent := hvisits.consistent
  by_cases hverb : Role.verb ∈ ran ∧ ∃ verb : Verb, tokens.capitals.head? = some verb.keyword
  · obtain ⟨hran, verb, hhead⟩ := hverb
    have hkind := (hconsistent.recognized hran verb hhead).1
    obtain ⟨hfirst, hsecond⟩ := hconsistent.ids verb hkind
    refine ⟨?_, ?_, ?_⟩
    · intro kind hmem
      exact ⟨verb, Option.some.inj (hmem.symm.trans hkind)⟩
    · intro amount hmem
      obtain ⟨hpos, token, _, hnumeral, hlength, rfl⟩ := hconsistent.amount_eq amount hmem
      have hmono {a b : Nat} (h : a ≤ b) : Nat.pow 10 a ≤ Nat.pow 10 b :=
        Nat.pow_le_pow_right (by decide) h
      exact ⟨_, rfl, by omega, Nat.lt_of_lt_of_le (Numeral.value_lt hnumeral) (hmono hlength)⟩
    · intro account id hmem
      have hside : account = verb ∨ account = verb.counter := by
        cases verb <;> cases account <;> decide
      rcases hside with rfl | rfl
      · exact (hfirst.id_eq id hmem).1
      · exact (hsecond.id_eq id hmem).1
  · have hempty : matcher.instruction = Instruction.empty :=
      hconsistent.unrecognized fun hran verb hhead => hverb ⟨hran, verb, hhead⟩
    simp only [hempty]
    exact Instruction.vetted_empty

variable {snapshot : Snapshot} {text : Text} {today : Date} {result : Result}

theorem exists_match_of_outcome (h : outcome snapshot text today = .ok result) :
    ∃ found code ledger,
      Match.ofTokens (Reading.ofText text).tokens (Reading.ofText text).clause.executeBy =
        .ok found ∧ result = .of found.instruction code snapshot ledger := by
  rw [outcome_eq] at h
  obtain ⟨⟨instruction, failure⟩, hmatch, h⟩ := bind_eq_ok_iff.mp h
  cases failure with
  | some code =>
      cases h
      exact ⟨_, code, [], hmatch, rfl⟩
  | none =>
      simp only at h
      split at h
      · obtain ⟨code, ledger, _, rfl⟩ := exists_of_settle h
        exact ⟨_, code, ledger, hmatch, rfl⟩
      · cases h
        exact ⟨_, .invalidDate, [], hmatch, rfl⟩

/-- A view shows a record of the snapshot, under an id that was checked. -/
structure View.Shows (view : View) (snapshot : Snapshot) : Prop where
  record : ∃ account ∈ snapshot, view.id = account.id ∧ view.currency = upper account.currency
  id : Token.isAccountId view.id

structure Result.Vetted (result : Result) (snapshot : Snapshot) : Prop where
  instruction : result.instruction.Vetted
  views : ∀ view ∈ result.views, view.Shows snapshot

theorem Result.vetted_of {instruction : Instruction} (h : instruction.Vetted) (code : Code)
    (snapshot : Snapshot) (ledger : Ledger) :
    (Result.of instruction code snapshot ledger).Vetted snapshot := by
  refine ⟨h, fun view hview => ?_⟩
  obtain ⟨account, hmem, hnamed, rfl⟩ := View.mem_ofSnapshot_iff.mp hview
  refine ⟨⟨account, hmem, rfl, rfl⟩, ?_⟩
  rcases hnamed with hdebit | hcredit
  · exact h.account .debit account.id hdebit
  · exact h.account .credit account.id hcredit

theorem process_vetted (snapshot : Snapshot) (text : Text) (today : Date) :
    (process snapshot text today).1.Vetted snapshot := by
  rw [process]
  cases houtcome : outcome snapshot text today with
  | error fault => exact ⟨Instruction.vetted_empty, by simp [Result.malformed]⟩
  | ok result =>
      obtain ⟨found, code, ledger, hmatch, rfl⟩ := exists_match_of_outcome houtcome
      exact Result.vetted_of (Match.vetted hmatch) code snapshot ledger

theorem process_executed {snapshot : Snapshot} {text : Text} {today : Date}
    (h : (process snapshot text today).1.code = .executed) :
    (process snapshot text today).1.instruction.Complete := by
  rw [process] at h ⊢
  cases houtcome : outcome snapshot text today with
  | error fault =>
      rw [houtcome] at h
      cases h
  | ok result =>
      rw [houtcome] at h
      cases ends_of_outcome houtcome with
      | refused hcode => exact absurd h hcode
      | executed hmatch => exact Match.complete_of_matched hmatch

def Text.IsEncodable (text : Text) : Prop :=
  ∀ c ∈ text, c.isSurrogate = false

namespace Text

theorem isEncodable_ofString (string : String) : (ofString string).IsEncodable :=
  fun _ => isSurrogate_of_mem_ofString

theorem IsEncodable.upper {text : Text} (h : text.IsEncodable) : (upper text).IsEncodable := by
  intro d hd
  obtain ⟨c, hc, hcapital⟩ := List.mem_flatMap.mp hd
  cases c with
  | surrogate k => cases h _ hc
  | scalar c =>
      rw [capitals_scalar] at hcapital
      obtain ⟨letter, _, rfl⟩ := List.mem_map.mp hcapital
      rfl

private theorem isEncodable_of_isAccountId {id : Text} (h : Token.isAccountId id) :
    id.IsEncodable := by
  intro c hc
  have hletters : id.all Token.isIdLetter = true := (Bool.and_eq_true_iff.mp h).2
  cases c with
  | scalar c => rfl
  | surrogate k => cases List.all_eq_true.mp hletters _ hc

private theorem isEncodable_keyword (verb : Verb) : verb.keyword.IsEncodable := by
  cases verb <;> exact isEncodable_ofString _

end Text

namespace Json

def IsEncodable (value : Json) : Prop :=
  ∀ text ∈ value.texts, text.IsEncodable

variable {α : Type}

@[simp] theorem isEncodable_string {text : Text} :
    (string text).IsEncodable ↔ text.IsEncodable := by
  simp [IsEncodable, texts]

@[simp] theorem isEncodable_null : null.IsEncodable := by
  simp [IsEncodable, texts]

@[simp] theorem isEncodable_whole (n : Int) : (whole n).IsEncodable := by
  simp [IsEncodable, texts]

@[simp] theorem isEncodable_binary (x : Binary64) : (binary x).IsEncodable := by
  simp [IsEncodable, texts]

@[simp] theorem isEncodable_object_nil : (object []).IsEncodable := by
  simp [IsEncodable, texts, textsOfMembers]

@[simp] theorem isEncodable_object_cons {name : Text} {value : Json}
    {members : List (Text × Json)} :
    (object ((name, value) :: members)).IsEncodable ↔
      name.IsEncodable ∧ value.IsEncodable ∧ (object members).IsEncodable := by
  simp [IsEncodable, texts, textsOfMembers, or_imp, forall_and]

@[simp] theorem isEncodable_array {items : List Json} :
    (array items).IsEncodable ↔ ∀ item ∈ items, item.IsEncodable := by
  unfold IsEncodable
  rw [texts]
  induction items with
  | nil => simp [textsOfItems]
  | cons item items ih => simp [textsOfItems, or_imp, forall_and, ih]

@[simp] theorem isEncodable_ofOption {write : α → Json} {value? : Option α} :
    (ofOption write value?).IsEncodable ↔ ∀ value ∈ value?, (write value).IsEncodable := by
  cases value? <;> simp [ofOption]

end Json

theorem Response.unencodable?_eq_none_iff {value : Json} :
    unencodable? value = none ↔ value.IsEncodable := by
  simp [unencodable?, Json.IsEncodable, List.findSome?_eq_none_iff, Text.surrogateRun?_eq_none_iff,
    Text.IsEncodable]

private theorem Balance.isEncodable_toFiniteJson (balance : Balance) :
    balance.toFiniteJson.IsEncodable := by
  unfold toFiniteJson
  split
  · cases balance <;> simp [toJson]
  · exact Json.isEncodable_null

private theorem View.isEncodable_toJsonWith {view : View} (h : view.Shows snapshot)
    (hcurrencies : ∀ account ∈ snapshot, account.currency.IsEncodable) :
    (view.toJsonWith Balance.toFiniteJson).IsEncodable := by
  obtain ⟨account, hmem, _, hcurrency⟩ := h.record
  simp [toJsonWith, Text.isEncodable_ofString, Text.isEncodable_of_isAccountId h.id,
    Balance.isEncodable_toFiniteJson, hcurrency, (hcurrencies account hmem).upper]

theorem Result.isEncodable_iff (h : result.Vetted snapshot)
    (hcurrencies : ∀ account ∈ snapshot, account.currency.IsEncodable) :
    (result.toJsonWith Balance.toFiniteJson).IsEncodable ↔
      (∀ currency ∈ result.instruction.currency, currency.IsEncodable) ∧
        ∀ executeBy ∈ result.instruction.executeBy, executeBy.IsEncodable := by
  have hkind : ∀ kind ∈ result.instruction.kind, kind.IsEncodable := by
    intro kind hmem
    obtain ⟨verb, rfl⟩ := h.instruction.kind kind hmem
    exact Text.isEncodable_keyword verb
  have hdebit : ∀ id ∈ result.instruction.debitAccount, id.IsEncodable :=
    fun id hmem => Text.isEncodable_of_isAccountId (h.instruction.account .debit id hmem)
  have hcredit : ∀ id ∈ result.instruction.creditAccount, id.IsEncodable :=
    fun id hmem => Text.isEncodable_of_isAccountId (h.instruction.account .credit id hmem)
  have hviews : ∀ view ∈ result.views, (view.toJsonWith Balance.toFiniteJson).IsEncodable :=
    fun view hmem => View.isEncodable_toJsonWith (h.views view hmem) hcurrencies
  simp only [toJsonWith, Instruction.members, membersWith, Json.text?, Code.toJson,
    List.cons_append, List.nil_append, Json.isEncodable_object_cons, Json.isEncodable_object_nil,
    Json.isEncodable_ofOption, Json.isEncodable_string, Json.isEncodable_whole,
    Json.isEncodable_array, List.forall_mem_map, Text.isEncodable_ofString, true_and, and_true]
  constructor
  · intro hparts
    obtain ⟨_, _, hcurrency, _, _, hexecuteBy, _⟩ := hparts
    exact ⟨hcurrency, hexecuteBy⟩
  · intro hparts
    obtain ⟨hcurrency, hexecuteBy⟩ := hparts
    exact ⟨hkind, fun _ _ => trivial, hcurrency, hdebit, hcredit, hexecuteBy, hviews⟩

end Remittance
