import Remittance.Proofs.Matcher.Stages
import Remittance.Proofs.Token

namespace Remittance

open Remittance.Text

namespace Role

def all : List Role :=
  [verb, amount, currency, separators, firstKeyword, firstId, counterparty, secondId]

def before (role : Role) : List Role :=
  all.takeWhile (· != role)

def refusals : Role → List Code
  | verb => [.malformed, .missingKeyword]
  | amount => [.invalidAmount]
  | currency => [.unsupportedCurrency]
  | separators => [.missingKeyword]
  | firstKeyword => [.keywordOrder]
  | firstId => [.invalidAccountId]
  | counterparty => [.keywordOrder]
  | secondId => [.invalidAccountId]

private theorem before_append_isPrefix (role : Role) : role.before ++ [role] <+: all := by
  cases role <;> decide

end Role

/-- The roles before a stage; all of them come before the end. -/
def Stage.before (stage : Stage) : List Role :=
  match stage.role? with
  | some role => role.before
  | none => Role.all

private theorem Stage.Follows.before_eq {stage next : Stage} {role : Role} (h : Follows stage next)
    (hrole : stage.role? = some role) (hnext : next.failure? = none) :
    next.before = role.before ++ [role] := by
  cases h with
  | failed => cases hnext
  | amount | currency | separators | firstKeyword | firstId | counterparty | secondId | done =>
      cases hrole
      rfl

private theorem Stage.isFinal_eq_false_iff {stage : Stage} :
    stage.isFinal = false ↔ ∃ role, stage.role? = some role := by
  cases stage <;> simp [isFinal, role?]

namespace Matcher

/-- The matchers that stepping from the start comes by, with the roles of the stages that ran. -/
inductive Visits (tokens : Tokens) (executeBy : Option Text) : List Role → Matcher → Prop
  | start : Visits tokens executeBy [] .start
  | step {ran : List Role} {matcher next : Matcher} {role : Role}
      (h : Visits tokens executeBy ran matcher) (hrole : matcher.stage.role? = some role)
      (hstep : matcher.step tokens executeBy = .ok next) :
      Visits tokens executeBy (ran ++ [role]) next

/-- The roles of the stages that ran and let the matcher pass. -/
def passed (ran : List Role) (matcher : Matcher) : List Role :=
  if matcher.stage.failure?.isSome then ran.dropLast else ran

variable {tokens : Tokens} {executeBy : Option Text} {ran : List Role} {matcher : Matcher}

theorem Visits.justified (h : Visits tokens executeBy ran matcher) :
    Justified tokens executeBy matcher := by
  induction h with
  | start => exact justified_start
  | step _ _ hstep ih => exact ih.step hstep

theorem Visits.cases (h : Visits tokens executeBy ran matcher) :
    (matcher.stage.failure? = none ∧ ran = matcher.stage.before) ∨
      ∃ role, Refused tokens executeBy role matcher ∧ ran = role.before ++ [role] := by
  induction h with
  | start => exact .inl ⟨rfl, rfl⟩
  | @step ran matcher next role h hrole hstep ih =>
      have hran : ran = role.before := by
        rcases ih with ⟨_, hran⟩ | ⟨_, hrefused, _⟩
        · simpa only [Stage.before, hrole] using hran
        · cases hrefused <;> cases hrole
      rw [hran]
      rcases h.justified.step_cases hrole hstep with ⟨_, hpassed⟩ | hrefused
      · have hrunning := Stage.isFinal_eq_false_iff.mpr ⟨role, hrole⟩
        exact .inl ⟨hpassed, ((follows_step hrunning hstep).before_eq hrole hpassed).symm⟩
      · exact .inr ⟨role, hrefused, rfl⟩

/-- The stages run in their order, and the one that is next has the role that is next. -/
theorem Visits.isPrefix (h : Visits tokens executeBy ran matcher) :
    ran ++ matcher.stage.role?.toList <+: Role.all := by
  rcases h.cases with ⟨_, rfl⟩ | ⟨role, hrefused, rfl⟩
  · cases hrole : matcher.stage.role? with
    | none => simp [Stage.before, hrole]
    | some role => simpa [Stage.before, hrole] using role.before_append_isPrefix
  · have hnone : matcher.stage.role? = none := by
      cases hrefused <;> rfl
    simpa [hnone] using role.before_append_isPrefix

theorem Visits.refused {code : Code} (h : Visits tokens executeBy ran matcher)
    (hfailed : matcher.stage = .failed code) :
    ∃ role : Role, ran = role.before ++ [role] ∧ code ∈ role.refusals := by
  rcases h.cases with ⟨hnone, _⟩ | ⟨role, hrefused, hran⟩
  · rw [hfailed] at hnone
    cases hnone
  · refine ⟨role, hran, ?_⟩
    cases hrefused <;> cases hfailed <;> decide

end Matcher

/-- A token stands at a place, and nowhere before it. -/
def FirstAt (tokens : List Text) (token : Text) (place : Nat) : Prop :=
  tokens[place]? = some token ∧ ∀ earlier < place, tokens[earlier]? ≠ some token

private theorem firstAt_of_idxOf? {tokens : List Text} {token : Text} {place : Nat}
    (h : tokens.idxOf? token = some place) : FirstAt tokens token place := by
  obtain ⟨hplace, hhere, hearlier⟩ := List.idxOf?_eq_some_iff.mp h
  refine ⟨List.getElem?_eq_some_iff.mpr ⟨hplace, hhere⟩, fun earlier hlt heq => ?_⟩
  obtain ⟨_, htoken⟩ := List.getElem?_eq_some_iff.mp heq
  exact hearlier earlier hlt htoken

namespace Matcher

structure VerbFields (tokens : Tokens) (executeBy : Option Text) (ran : List Role)
    (matcher : Matcher) : Prop where
  recognized : Role.verb ∈ ran → ∀ verb : Verb, tokens.capitals.head? = some verb.keyword →
    matcher.instruction.kind = some verb.keyword ∧ matcher.instruction.executeBy = executeBy
  unrecognized : (Role.verb ∈ ran → ∀ verb : Verb, tokens.capitals.head? ≠ some verb.keyword) →
    matcher.instruction = {}

structure AmountField (tokens : Tokens) (passed : List Role) (matcher : Matcher) : Prop where
  amount_iff : matcher.instruction.amount.isSome ↔ Role.amount ∈ passed
  amount_eq : ∀ amount, matcher.instruction.amount = some amount → 1 ≤ amount ∧
    ∃ token, tokens.written[1]? = some token ∧ Numeral.isNumeral token ∧
      token.length ≤ digitLimit ∧ amount = Numeral.value token

structure CurrencyField (tokens : Tokens) (ran : List Role) (matcher : Matcher) : Prop where
  currency_iff : matcher.instruction.currency.isSome ↔ Role.currency ∈ ran
  currency_eq : ∀ currency, matcher.instruction.currency = some currency →
    tokens.written[2]?.map upper = some currency ∧
      (currency ∉ Token.supportedCurrencies ↔ matcher.stage = .failed .unsupportedCurrency)

structure PlaceFields (tokens : Tokens) (ran passed : List Role) (matcher : Matcher) : Prop where
  unsought : Role.separators ∉ ran → matcher.separatorAt = none ∧ matcher.forAt = none
  placed : Role.separators ∈ passed → ∃ (verb : Verb) (s f : Nat),
    matcher.instruction.kind = some verb.keyword ∧
    matcher.separatorAt = some s ∧ matcher.forAt = some f ∧
    FirstAt tokens.capitals verb.separator s ∧ FirstAt tokens.capitals forKeyword f ∧
    2 < s ∧ s < f ∧ f < tokens.capitals.length

/-- The account of a verb is read by the stage of a role, some tokens after a keyword. -/
structure IdField (tokens : Tokens) (passed : List Role) (matcher : Matcher) (verb : Verb)
    (role : Role) (keywordAt : Option Nat) (distance : Nat) : Prop where
  id_iff : (matcher.instruction.accountOf verb).isSome ↔ role ∈ passed
  id_eq : ∀ id, matcher.instruction.accountOf verb = some id → Token.isAccountId id ∧
    ∃ place, keywordAt = some place ∧ tokens.written[place + distance]? = some id

structure Consistent (tokens : Tokens) (executeBy : Option Text) (ran passed : List Role)
    (matcher : Matcher) : Prop
    extends VerbFields tokens executeBy ran matcher, AmountField tokens passed matcher,
      CurrencyField tokens ran matcher, PlaceFields tokens ran passed matcher where
  failure_iff : matcher.stage.failure?.isSome ↔ matcher.stage.isFinal ∧ matcher.stage ≠ .done
  ids : ∀ verb : Verb, matcher.instruction.kind = some verb.keyword →
    IdField tokens passed matcher verb .firstId matcher.separatorAt 2 ∧
      IdField tokens passed matcher verb.counter .secondId matcher.forAt 4

variable {tokens : Tokens} {executeBy : Option Text} {ran passed : List Role}
  {matcher : Matcher} {verb : Verb} {amount : Nat} {currency firstId secondId : Text} {s f : Nat}

private theorem VerbFields.of_head (hhead : tokens.capitals.head? = some verb.keyword)
    (hran : Role.verb ∈ ran) (hkind : matcher.instruction.kind = some verb.keyword)
    (hexecuteBy : matcher.instruction.executeBy = executeBy) :
    VerbFields tokens executeBy ran matcher where
  recognized := by
    intro _ other hother
    exact ⟨by rw [hkind, ← hhead, hother], hexecuteBy⟩
  unrecognized := fun hunknown => absurd hhead (hunknown hran verb)

private theorem AmountField.of_none (hamount : matcher.instruction.amount = none)
    (hpassed : Role.amount ∉ passed) : AmountField tokens passed matcher where
  amount_iff := by simp [hamount, hpassed]
  amount_eq := by simp [hamount]

private theorem AmountField.of_reads (hreads : ReadsAmount tokens verb amount)
    (hamount : matcher.instruction.amount = some (amount : Int)) (hpassed : Role.amount ∈ passed) :
    AmountField tokens passed matcher where
  amount_iff := by simp [hamount, hpassed]
  amount_eq := by
    intro n hn
    obtain rfl := Option.some.inj (hamount.symm.trans hn)
    obtain ⟨token, htoken, hread⟩ := hreads.amountToken
    obtain ⟨hnumeral, hlength, hpos, rfl⟩ := Token.readAmount_eq_some_iff.mp hread
    exact ⟨by exact_mod_cast hpos, token, htoken, hnumeral, hlength, rfl⟩

private theorem CurrencyField.of_none (hcurrency : matcher.instruction.currency = none)
    (hran : Role.currency ∉ ran) : CurrencyField tokens ran matcher where
  currency_iff := by simp [hcurrency, hran]
  currency_eq := by simp [hcurrency]

private theorem CurrencyField.of_token {token : Text} (htoken : tokens.written[2]? = some token)
    (hcurrency : matcher.instruction.currency = some (upper token)) (hran : Role.currency ∈ ran)
    (hsupported : Token.isCurrency (upper token) = false ↔
      matcher.stage = .failed .unsupportedCurrency) :
    CurrencyField tokens ran matcher where
  currency_iff := by simp [hcurrency, hran]
  currency_eq := by
    intro found hfound
    obtain rfl := Option.some.inj (hcurrency.symm.trans hfound)
    refine ⟨by rw [htoken]; rfl, ?_⟩
    rw [← hsupported, Bool.eq_false_iff, ne_eq, Token.isCurrency_upper]

private theorem CurrencyField.of_reads (hreads : ReadsCurrency tokens verb amount currency)
    (hcurrency : matcher.instruction.currency = some currency) (hran : Role.currency ∈ ran)
    (hstage : matcher.stage ≠ .failed .unsupportedCurrency) :
    CurrencyField tokens ran matcher := by
  obtain ⟨token, htoken, rfl⟩ := hreads.currencyToken
  refine .of_token htoken hcurrency hran ?_
  simp [hreads.supported, hstage]

private theorem PlaceFields.of_none (hseparator : matcher.separatorAt = none)
    (hfor : matcher.forAt = none)
    (hpassed : Role.separators ∉ passed) : PlaceFields tokens ran passed matcher where
  unsought := fun _ => ⟨hseparator, hfor⟩
  placed := fun h => absurd h hpassed

private theorem PlaceFields.of_places (hplaces : PlacesKeywords tokens verb amount currency s f)
    (hkind : matcher.instruction.kind = some verb.keyword) (hseparator : matcher.separatorAt = s)
    (hfor : matcher.forAt = f) (hran : Role.separators ∈ ran) :
    PlaceFields tokens ran passed matcher where
  unsought := fun h => absurd hran h
  placed := by
    intro _
    have hlast := firstAt_of_idxOf? hplaces.forWord
    exact ⟨verb, s, f, hkind, hseparator, hfor, firstAt_of_idxOf? hplaces.separator, hlast,
      hplaces.late, hplaces.ordered, (List.getElem?_eq_some_iff.mp hlast.1).1⟩

private theorem IdField.of_none {role : Role} {keywordAt : Option Nat} {distance : Nat}
    (hid : matcher.instruction.accountOf verb = none) (hpassed : role ∉ passed) :
    IdField tokens passed matcher verb role keywordAt distance where
  id_iff := by simp [hid, hpassed]
  id_eq := by simp [hid]

private theorem IdField.of_token {role : Role} {place distance : Nat} {id : Text}
    (htoken : tokens.written[place + distance]? = some id) (hvalid : Token.isAccountId id)
    (hid : matcher.instruction.accountOf verb = some id) (hpassed : role ∈ passed) :
    IdField tokens passed matcher verb role (some place) distance where
  id_iff := by simp [hid, hpassed]
  id_eq := by
    intro found hfound
    obtain rfl := Option.some.inj (hid.symm.trans hfound)
    exact ⟨hvalid, place, rfl, htoken⟩

end Matcher

private theorem Stage.failure?_isSome_iff {stage : Stage} :
    stage.failure?.isSome ↔ stage.isFinal ∧ stage ≠ .done := by
  cases stage <;> simp [failure?, isFinal]

private theorem Verb.keyword_injective {verb other : Verb} (h : verb.keyword = other.keyword) :
    verb = other := by
  have := congrArg ofKeyword? h
  simpa using this

namespace Matcher

variable {tokens : Tokens} {executeBy : Option Text} {ran passed : List Role}
  {matcher : Matcher} {verb : Verb} {amount : Nat} {currency firstId secondId : Text} {s f : Nat}
  {stage : Stage}

private theorem consistent_blank
    (hverb : Role.verb ∈ ran → ∀ verb : Verb, tokens.capitals.head? ≠ some verb.keyword)
    (hroles : Role.amount ∉ passed ∧ Role.currency ∉ ran ∧ Role.separators ∉ passed) :
    Consistent tokens executeBy ran passed ⟨stage, {}, none, none⟩ where
  recognized := fun hran verb hhead => absurd hhead (hverb hran verb)
  unrecognized := fun _ => rfl
  toAmountField := .of_none rfl hroles.1
  toCurrencyField := .of_none rfl hroles.2.1
  toPlaceFields := .of_none rfl rfl hroles.2.2
  failure_iff := Stage.failure?_isSome_iff
  ids := by
    intro verb hkind
    cases hkind

private theorem consistent_ofVerb (hhead : tokens.capitals.head? = some verb.keyword)
    (hroles : Role.verb ∈ ran ∧ Role.amount ∉ passed ∧ Role.currency ∉ ran ∧
      Role.separators ∉ passed ∧ Role.firstId ∉ passed ∧ Role.secondId ∉ passed) :
    Consistent tokens executeBy ran passed ⟨stage, .ofVerb verb executeBy, none, none⟩ where
  toVerbFields := .of_head hhead hroles.1 rfl rfl
  toAmountField := .of_none rfl hroles.2.1
  toCurrencyField := .of_none rfl hroles.2.2.1
  toPlaceFields := .of_none rfl rfl hroles.2.2.2.1
  failure_iff := Stage.failure?_isSome_iff
  ids := by
    intro other hkind
    obtain ⟨hfirst, hsecond⟩ := hroles.2.2.2.2
    exact ⟨.of_none (by cases other <;> rfl) hfirst, .of_none (by cases other <;> rfl) hsecond⟩

private theorem consistent_ofAmount (hreads : ReadsAmount tokens verb amount)
    (hroles : Role.verb ∈ ran ∧ Role.amount ∈ passed ∧ Role.currency ∉ ran ∧
      Role.separators ∉ passed ∧ Role.firstId ∉ passed ∧ Role.secondId ∉ passed) :
    Consistent tokens executeBy ran passed
      ⟨stage, .ofAmount verb executeBy amount, none, none⟩ where
  toVerbFields := .of_head hreads.keyword hroles.1 rfl rfl
  toAmountField := .of_reads hreads rfl hroles.2.1
  toCurrencyField := .of_none rfl hroles.2.2.1
  toPlaceFields := .of_none rfl rfl hroles.2.2.2.1
  failure_iff := Stage.failure?_isSome_iff
  ids := by
    intro other hkind
    obtain ⟨hfirst, hsecond⟩ := hroles.2.2.2.2
    exact ⟨.of_none (by cases other <;> rfl) hfirst, .of_none (by cases other <;> rfl) hsecond⟩

theorem consistent_ofCurrency {separatorAt forAt : Option Nat}
    (hreads : ReadsAmount tokens verb amount)
    (hcurrency : CurrencyField tokens ran
      ⟨stage, .ofCurrency verb executeBy amount currency, separatorAt, forAt⟩)
    (hplaces : PlaceFields tokens ran passed
      ⟨stage, .ofCurrency verb executeBy amount currency, separatorAt, forAt⟩)
    (hroles : Role.verb ∈ ran ∧ Role.amount ∈ passed ∧ Role.firstId ∉ passed ∧
      Role.secondId ∉ passed) :
    Consistent tokens executeBy ran passed
      ⟨stage, .ofCurrency verb executeBy amount currency, separatorAt, forAt⟩ where
  toVerbFields := .of_head hreads.keyword hroles.1 rfl rfl
  toAmountField := .of_reads hreads rfl hroles.2.1
  toCurrencyField := hcurrency
  toPlaceFields := hplaces
  failure_iff := Stage.failure?_isSome_iff
  ids := by
    intro other hkind
    obtain ⟨hfirst, hsecond⟩ := hroles.2.2
    exact ⟨.of_none (by cases other <;> rfl) hfirst, .of_none (by cases other <;> rfl) hsecond⟩

private theorem consistent_placed (hplaces : PlacesKeywords tokens verb amount currency s f)
    (hstage : stage ≠ .failed .unsupportedCurrency)
    (hroles : Role.verb ∈ ran ∧ Role.amount ∈ passed ∧ Role.currency ∈ ran ∧
      Role.separators ∈ ran ∧ Role.firstId ∉ passed ∧ Role.secondId ∉ passed) :
    Consistent tokens executeBy ran passed
      ⟨stage, .ofCurrency verb executeBy amount currency, s, f⟩ :=
  consistent_ofCurrency hplaces.toReadsAmount
    (.of_reads hplaces.toReadsCurrency rfl hroles.2.2.1 hstage)
    (.of_places hplaces rfl rfl rfl hroles.2.2.2.1) ⟨hroles.1, hroles.2.1, hroles.2.2.2.2⟩

private theorem consistent_ofFirstId (hreads : ReadsFirstId tokens verb amount currency s f firstId)
    (hstage : stage ≠ .failed .unsupportedCurrency)
    (hroles : Role.verb ∈ ran ∧ Role.amount ∈ passed ∧ Role.currency ∈ ran ∧
      Role.separators ∈ ran ∧ Role.firstId ∈ passed ∧ Role.secondId ∉ passed) :
    Consistent tokens executeBy ran passed
      ⟨stage, .ofFirstId verb executeBy amount currency firstId, s, f⟩ := by
  have hkind : (Instruction.ofFirstId verb executeBy amount currency firstId).kind =
      some verb.keyword := by cases verb <;> rfl
  exact {
    toVerbFields := .of_head hreads.keyword hroles.1 hkind (by cases verb <;> rfl)
    toAmountField := .of_reads hreads.toReadsAmount (by cases verb <;> rfl) hroles.2.1
    toCurrencyField :=
      .of_reads hreads.toReadsCurrency (by cases verb <;> rfl) hroles.2.2.1 hstage
    toPlaceFields := .of_places hreads.toPlacesKeywords hkind rfl rfl hroles.2.2.2.1
    failure_iff := Stage.failure?_isSome_iff
    ids := by
      intro other hother
      obtain rfl := Verb.keyword_injective (Option.some.inj (hkind.symm.trans hother))
      obtain ⟨hfirst, hsecond⟩ := hroles.2.2.2.2
      exact ⟨.of_token hreads.firstToken hreads.firstValid (by cases verb <;> rfl) hfirst,
        .of_none (by cases verb <;> rfl) hsecond⟩ }

private theorem consistent_ofSecondId
    (hreads : ReadsSecondId tokens verb amount currency s f firstId secondId) :
    Consistent tokens executeBy Role.all Role.all
      ⟨.done, .ofSecondId verb executeBy amount currency firstId secondId, s, f⟩ where
  toVerbFields := .of_head hreads.keyword (by decide) (Instruction.kind_ofSecondId ..)
    (Instruction.executeBy_ofSecondId ..)
  toAmountField := .of_reads hreads.toReadsAmount (Instruction.amount_ofSecondId ..) (by decide)
  toCurrencyField := .of_reads hreads.toReadsCurrency (Instruction.currency_ofSecondId ..)
    (by decide) (by simp)
  toPlaceFields := .of_places hreads.toPlacesKeywords (Instruction.kind_ofSecondId ..) rfl rfl
    (by decide)
  failure_iff := Stage.failure?_isSome_iff
  ids := by
    intro other hother
    rw [Instruction.kind_ofSecondId] at hother
    obtain rfl := Verb.keyword_injective (Option.some.inj hother)
    exact ⟨.of_token hreads.firstToken hreads.firstValid (Instruction.accountOf_ofSecondId ..)
        (by decide),
      .of_token hreads.secondToken hreads.secondValid
        (Instruction.accountOf_counter_ofSecondId ..) (by decide)⟩

theorem Justified.consistent (h : Justified tokens executeBy matcher)
    (hpassed : matcher.stage.failure? = none) :
    Consistent tokens executeBy matcher.stage.before matcher.stage.before matcher := by
  unfold Justified at h
  split at h <;> rename_i hstage <;> rw [hstage]
  · subst h
    exact consistent_blank (fun h => absurd h (by decide)) (by decide)
  · obtain ⟨hreads, rfl⟩ := h
    change Consistent tokens executeBy (Role.before .amount) (Role.before .amount) _
    exact consistent_ofVerb hreads.keyword (by decide)
  · obtain ⟨amount, hreads, rfl⟩ := h
    change Consistent tokens executeBy (Role.before .currency) (Role.before .currency) _
    exact consistent_ofAmount hreads (by decide)
  · obtain ⟨amount, currency, hreads, rfl⟩ := h
    change Consistent tokens executeBy (Role.before .separators) (Role.before .separators) _
    exact consistent_ofCurrency hreads.toReadsAmount
      (.of_reads hreads rfl (by decide) (by simp)) (.of_none rfl rfl (by decide)) (by decide)
  · obtain ⟨amount, currency, hplaces, rfl⟩ := h
    change Consistent tokens executeBy (Role.before .firstKeyword) (Role.before .firstKeyword) _
    exact consistent_placed hplaces (by simp) (by decide)
  · obtain ⟨amount, currency, hreads, rfl⟩ := h
    change Consistent tokens executeBy (Role.before .firstId) (Role.before .firstId) _
    exact consistent_placed hreads.toPlacesKeywords (by simp) (by decide)
  · obtain ⟨amount, currency, s, firstId, hreads, rfl⟩ := h
    change Consistent tokens executeBy (Role.before .counterparty) (Role.before .counterparty) _
    exact consistent_ofFirstId hreads (by simp) (by decide)
  · obtain ⟨amount, currency, s, firstId, hreads, rfl⟩ := h
    change Consistent tokens executeBy (Role.before .secondId) (Role.before .secondId) _
    exact consistent_ofFirstId hreads.toReadsFirstId (by simp) (by decide)
  · obtain ⟨verb, amount, currency, s, f, firstId, secondId, hreads, rfl⟩ := h
    exact consistent_ofSecondId hreads
  · simp [hstage, Stage.failure?] at hpassed

theorem Refused.consistent {role : Role} (h : Refused tokens executeBy role matcher) :
    Consistent tokens executeBy (role.before ++ [role]) role.before matcher := by
  cases h with
  | unknownVerb hunknown => exact consistent_blank (fun _ => hunknown) (by decide)
  | tooShort hverb hshort => exact consistent_ofVerb hverb (by decide)
  | amount hreads hnone => exact consistent_ofVerb hreads.keyword (by decide)
  | currency hreads htoken hunsupported =>
      exact consistent_ofCurrency hreads (.of_token htoken rfl (by decide) (by simp [hunsupported]))
        (.of_none rfl rfl (by decide)) (by decide)
  | separators hreads hplaces =>
      exact consistent_ofCurrency hreads.toReadsAmount
        (.of_reads hreads rfl (by decide) (by simp))
        ⟨fun h => absurd h (by decide), fun h => absurd h (by decide)⟩ (by decide)
  | firstKeyword hplaces hword => exact consistent_placed hplaces (by simp) (by decide)
  | firstId hreads hinvalid =>
      exact consistent_placed hreads.toPlacesKeywords (by simp) (by decide)
  | counterparty hreads hblock => exact consistent_ofFirstId hreads (by simp) (by decide)
  | secondId hreads hinvalid =>
      exact consistent_ofFirstId hreads.toReadsFirstId (by simp) (by decide)

private theorem Refused.failure?_isSome {role : Role} (h : Refused tokens executeBy role matcher) :
    matcher.stage.failure?.isSome := by
  cases h <;> rfl

theorem Visits.consistent (h : Visits tokens executeBy ran matcher) :
    Consistent tokens executeBy ran (matcher.passed ran) matcher := by
  rcases h.cases with ⟨hpassed, hran⟩ | ⟨role, hrefused, hran⟩
  · have hall : matcher.passed ran = ran := by simp [passed, hpassed]
    rw [hall, hran]
    exact h.justified.consistent hpassed
  · have hbut : matcher.passed ran = role.before := by
      simp [passed, hrefused.failure?_isSome, hran]
    rw [hbut, hran]
    exact hrefused.consistent

theorem run_of_isFinal (h : matcher.stage.isFinal) (steps : Nat) :
    run tokens executeBy steps matcher = .ok matcher := by
  cases steps <;> simp [run, h]

theorem Visits.length_le (h : Visits tokens executeBy ran matcher) :
    ran.length + matcher.stage.role?.toList.length ≤ stepLimit := by
  have hlength := h.isPrefix.length_le
  rw [List.length_append] at hlength
  exact hlength

private theorem Visits.finish_eq (h : Visits tokens executeBy ran matcher) :
    finish tokens executeBy = run tokens executeBy (stepLimit - ran.length) matcher := by
  induction h with
  | start => rfl
  | @step ran matcher next role h hrole hstep ih =>
      have hlength := h.length_le
      rw [hrole, Option.toList_some, List.length_singleton] at hlength
      have hrunning := Stage.isFinal_eq_false_iff.mpr ⟨role, hrole⟩
      rw [ih, List.length_append, List.length_singleton,
        show stepLimit - ran.length = stepLimit - (ran.length + 1) + 1 by omega]
      exact run_succ _ hrunning hstep

theorem Visits.of_run {steps : Nat} {last : Matcher} (h : Visits tokens executeBy ran matcher)
    (hrun : run tokens executeBy steps matcher = .ok last) :
    ∃ ran, Visits tokens executeBy ran last := by
  induction steps generalizing ran matcher with
  | zero =>
      cases hrun
      exact ⟨ran, h⟩
  | succ steps ih =>
      rw [run] at hrun
      split at hrun
      · cases hrun
        exact ⟨ran, h⟩
      · rename_i hrunning
        obtain ⟨role, hrole⟩ := Stage.isFinal_eq_false_iff.mp (Bool.eq_false_iff.mpr hrunning)
        obtain ⟨next, hstep, hrun⟩ := bind_eq_ok_iff.mp hrun
        exact ih (h.step hrole hstep) hrun

theorem Visits.of_run_error {steps : Nat} {fault : Fault} (h : Visits tokens executeBy ran matcher)
    (hrun : run tokens executeBy steps matcher = .error fault) :
    ∃ ran last, Visits tokens executeBy ran last ∧ last.stage.isFinal = false ∧
      last.step tokens executeBy = .error fault := by
  induction steps generalizing ran matcher with
  | zero => cases hrun
  | succ steps ih =>
      rw [run] at hrun
      split at hrun
      · cases hrun
      · rename_i hrunning
        obtain ⟨role, hrole⟩ := Stage.isFinal_eq_false_iff.mp (Bool.eq_false_iff.mpr hrunning)
        rcases bind_eq_error_iff.mp hrun with hstep | ⟨next, hstep, hrun⟩
        · exact ⟨ran, matcher, h, Bool.eq_false_iff.mpr hrunning, hstep⟩
        · exact ih (h.step hrole hstep) hrun

private theorem Visits.of_visited {steps : Nat} {list : List Matcher}
    (h : Visits tokens executeBy ran matcher)
    (hvisited : visited tokens executeBy steps matcher = .ok list) :
    ∀ other ∈ list, ∃ ran, Visits tokens executeBy ran other := by
  induction steps generalizing ran matcher list with
  | zero =>
      cases hvisited
      simp
  | succ steps ih =>
      rw [visited] at hvisited
      split at hvisited
      · cases hvisited
        simp
      · rename_i hrunning
        obtain ⟨role, hrole⟩ := Stage.isFinal_eq_false_iff.mp (Bool.eq_false_iff.mpr hrunning)
        obtain ⟨next, hstep, hvisited⟩ := bind_eq_ok_iff.mp hvisited
        obtain ⟨rest, hrest, hlist⟩ := bind_eq_ok_iff.mp hvisited
        cases hlist
        exact List.forall_mem_cons.mpr ⟨⟨_, h.step hrole hstep⟩, ih (h.step hrole hstep) hrest⟩

theorem ofTokens_eq_ok_iff_visits {found : Match} :
    Match.ofTokens tokens executeBy = .ok found ↔
      ∃ ran matcher, Visits tokens executeBy ran matcher ∧ matcher.stage.isFinal ∧
        found = ⟨matcher.instruction, matcher.stage.failure?⟩ := by
  constructor
  · intro hmatch
    obtain ⟨matcher, hfinish, rfl⟩ := map_eq_ok_iff.mp hmatch
    obtain ⟨ran, hvisits⟩ := Visits.start.of_run hfinish
    exact ⟨ran, matcher, hvisits, isFinal_finish hfinish, rfl⟩
  · intro hparts
    obtain ⟨ran, matcher, hvisits, hfinal, rfl⟩ := hparts
    rw [Match.ofTokens, hvisits.finish_eq, run_of_isFinal hfinal]
    rfl

theorem ofTokens_eq_error_iff_visits {fault : Fault} :
    Match.ofTokens tokens executeBy = .error fault ↔
      ∃ ran matcher, Visits tokens executeBy ran matcher ∧ matcher.stage.isFinal = false ∧
        matcher.step tokens executeBy = .error fault := by
  rw [Match.ofTokens, map_eq_error_iff]
  constructor
  · exact Visits.start.of_run_error
  · intro hparts
    obtain ⟨ran, matcher, hvisits, hrunning, hstep⟩ := hparts
    obtain ⟨role, hrole⟩ := Stage.isFinal_eq_false_iff.mp hrunning
    have hlength := hvisits.length_le
    rw [hrole, Option.toList_some, List.length_singleton] at hlength
    rw [hvisits.finish_eq, show stepLimit - ran.length = stepLimit - (ran.length + 1) + 1 by omega,
      run, hrunning, hstep]
    rfl

/-- Stepping takes the roles in their order, fills the fields in on the way, and ends, or faults,
as matching does. It fails with a code of the role that ran last. -/
theorem stepping_in_order (tokens : Tokens) (executeBy : Option Text) :
    (∀ ran matcher, Visits tokens executeBy ran matcher →
      ran ++ matcher.stage.role?.toList <+: Role.all ∧ ran.length ≤ 8 ∧
      Consistent tokens executeBy ran (matcher.passed ran) matcher ∧
      (∀ next, matcher.stage.isFinal = false → matcher.step tokens executeBy = .ok next →
        Stage.Follows matcher.stage next.stage) ∧
      ∀ code, matcher.stage = .failed code →
        ∃ role : Role, ran = role.before ++ [role] ∧ code ∈ role.refusals) ∧
    (∀ list, trace tokens executeBy = .ok list →
      ∀ matcher ∈ list, ∃ ran, Visits tokens executeBy ran matcher) ∧
    (∀ found, Match.ofTokens tokens executeBy = .ok found ↔
      ∃ ran matcher, Visits tokens executeBy ran matcher ∧ matcher.stage.isFinal ∧
        found = ⟨matcher.instruction, matcher.stage.failure?⟩) ∧
    (∀ fault, Match.ofTokens tokens executeBy = .error fault ↔
      ∃ ran matcher, Visits tokens executeBy ran matcher ∧ matcher.stage.isFinal = false ∧
        matcher.step tokens executeBy = .error fault) := by
  refine ⟨?_, ?_, fun _ => ofTokens_eq_ok_iff_visits, fun _ => ofTokens_eq_error_iff_visits⟩
  · intro ran matcher h
    have hlength := h.length_le
    exact ⟨h.isPrefix, Nat.le_trans (Nat.le_add_right _ _) hlength, h.consistent,
      fun next hrunning hstep => follows_step hrunning hstep, fun _ hfailed => h.refused hfailed⟩
  · intro list hlist
    exact Visits.start.of_visited hlist

/-- Without FOR the run ends at the separators: by then the place of FROM is known, but no account
is. -/
theorem stepping_in_order_without_for :
    let tokens := Tokens.ofWritten ["debit", "007", "ngn", "FROM", "ACCOUNT", "A1"]
    let ran : List Role := [.verb, .amount, .currency, .separators]
    let last : Matcher :=
      ⟨.failed .missingKeyword, .ofCurrency .debit (some "soon") 7 "NGN", some 3, none⟩
    Visits tokens (some "soon") ran last ∧
      Consistent tokens (some "soon") ran [.verb, .amount, .currency] last := by
  intro tokens ran last
  have hvisits : Visits tokens (some "soon") ran last := by
    have hverb : Visits tokens (some "soon") [.verb]
        ⟨.amount .debit, .ofVerb .debit (some "soon"), none, none⟩ := .step .start rfl (by decide)
    have hamount : Visits tokens (some "soon") [.verb, .amount]
        ⟨.currency .debit, .ofAmount .debit (some "soon") 7, none, none⟩ :=
      .step hverb rfl (by decide +kernel)
    have hcurrency : Visits tokens (some "soon") [.verb, .amount, .currency]
        ⟨.separators .debit, .ofCurrency .debit (some "soon") 7 "NGN", none, none⟩ :=
      .step hamount rfl (by decide +kernel)
    exact .step hcurrency rfl (by decide +kernel)
  exact ⟨hvisits, ((stepping_in_order tokens (some "soon")).1 ran last hvisits).2.2.1⟩

end Matcher

end Remittance
