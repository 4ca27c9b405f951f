import Remittance.Matcher

namespace Remittance

theorem bind_eq_ok_iff {ε α β : Type} {x : Except ε α} {f : α → Except ε β} {b : β} :
    (x >>= f) = .ok b ↔ ∃ a, x = .ok a ∧ f a = .ok b := by
  cases x with
  | error fault => simp [bind, Except.bind]
  | ok a => simp [bind, Except.bind]

theorem map_eq_ok_iff {ε α β : Type} {x : Except ε α} {f : α → β} {b : β} :
    x.map f = .ok b ↔ ∃ a, x = .ok a ∧ f a = b := by
  cases x with
  | error fault => simp [Except.map]
  | ok a => simp [Except.map]

theorem bind_eq_error_iff {ε α β : Type} {x : Except ε α} {f : α → Except ε β} {e : ε} :
    (x >>= f) = .error e ↔ x = .error e ∨ ∃ a, x = .ok a ∧ f a = .error e := by
  cases x with
  | error fault => simp [bind, Except.bind]
  | ok a => simp [bind, Except.bind]

theorem map_eq_error_iff {ε α β : Type} {x : Except ε α} {f : α → β} {e : ε} :
    x.map f = .error e ↔ x = .error e := by
  cases x with
  | error fault => simp [Except.map]
  | ok a => simp [Except.map]

/-! What the tokens must be for each stage to let the matcher pass. Each stage adds to what the
stages before it found. -/

structure ReadsVerb (tokens : Tokens) (verb : Verb) : Prop where
  keyword : tokens.capitals.head? = some verb.keyword
  enough : 3 ≤ tokens.capitals.length

structure ReadsAmount (tokens : Tokens) (verb : Verb) (amount : Nat) : Prop
    extends ReadsVerb tokens verb where
  amountToken : ∃ token, tokens.written[1]? = some token ∧
    Token.readAmount token = .ok (some amount)

structure ReadsCurrency (tokens : Tokens) (verb : Verb) (amount : Nat) (currency : Text) : Prop
    extends ReadsAmount tokens verb amount where
  currencyToken : ∃ token, tokens.written[2]? = some token ∧ token.upper = currency
  supported : Token.isCurrency currency

structure PlacesKeywords (tokens : Tokens) (verb : Verb) (amount : Nat) (currency : Text)
    (s f : Nat) : Prop extends ReadsCurrency tokens verb amount currency where
  separator : tokens.capitals.idxOf? verb.separator = some s
  forWord : tokens.capitals.idxOf? forKeyword = some f
  late : 2 < s
  ordered : s < f

structure ReadsAccountWord (tokens : Tokens) (verb : Verb) (amount : Nat) (currency : Text)
    (s f : Nat) : Prop extends PlacesKeywords tokens verb amount currency s f where
  accountWord : tokens.capitals[s + 1]? = some accountKeyword

structure ReadsFirstId (tokens : Tokens) (verb : Verb) (amount : Nat) (currency : Text)
    (s f : Nat) (firstId : Text) : Prop
    extends ReadsAccountWord tokens verb amount currency s f where
  firstToken : tokens.written[s + 2]? = some firstId
  firstValid : Token.isAccountId firstId

structure ReadsCounterparty (tokens : Tokens) (verb : Verb) (amount : Nat) (currency : Text)
    (s f : Nat) (firstId : Text) : Prop
    extends ReadsFirstId tokens verb amount currency s f firstId where
  block : verb.counterpartyBlock <+: tokens.capitals.drop (f + 1)

structure ReadsSecondId (tokens : Tokens) (verb : Verb) (amount : Nat) (currency : Text)
    (s f : Nat) (firstId secondId : Text) : Prop
    extends ReadsCounterparty tokens verb amount currency s f firstId where
  secondToken : tokens.written[f + 4]? = some secondId
  secondValid : Token.isAccountId secondId

namespace Instruction

def ofVerb (verb : Verb) (executeBy : Option Text) : Instruction :=
  { kind := some verb.keyword, executeBy }

def ofAmount (verb : Verb) (executeBy : Option Text) (amount : Nat) : Instruction :=
  { ofVerb verb executeBy with amount := some amount }

def ofCurrency (verb : Verb) (executeBy : Option Text) (amount : Nat) (currency : Text) :
    Instruction :=
  { ofAmount verb executeBy amount with currency := some currency }

def ofFirstId (verb : Verb) (executeBy : Option Text) (amount : Nat) (currency firstId : Text) :
    Instruction :=
  (ofCurrency verb executeBy amount currency).withAccount verb firstId

def ofSecondId (verb : Verb) (executeBy : Option Text) (amount : Nat)
    (currency firstId secondId : Text) : Instruction :=
  (ofFirstId verb executeBy amount currency firstId).withAccount verb.counter secondId

section

variable (verb : Verb) (executeBy : Option Text) (amount : Nat) (currency firstId secondId : Text)

@[simp] theorem kind_ofSecondId :
    (ofSecondId verb executeBy amount currency firstId secondId).kind = some verb.keyword := by
  cases verb <;> rfl

@[simp] theorem executeBy_ofSecondId :
    (ofSecondId verb executeBy amount currency firstId secondId).executeBy = executeBy := by
  cases verb <;> rfl

@[simp] theorem amount_ofSecondId :
    (ofSecondId verb executeBy amount currency firstId secondId).amount = some (amount : Int) := by
  cases verb <;> rfl

@[simp] theorem currency_ofSecondId :
    (ofSecondId verb executeBy amount currency firstId secondId).currency = some currency := by
  cases verb <;> rfl

@[simp] theorem accountOf_ofSecondId :
    (ofSecondId verb executeBy amount currency firstId secondId).accountOf verb =
      some firstId := by
  cases verb <;> rfl

@[simp] theorem accountOf_counter_ofSecondId :
    (ofSecondId verb executeBy amount currency firstId secondId).accountOf verb.counter =
      some secondId := by
  cases verb <;> rfl

end

end Instruction

/-- The codes with which a matcher refuses. -/
def Code.refusals : List Code :=
  [.missingKeyword, .keywordOrder, .malformed, .invalidAmount, .unsupportedCurrency,
    .invalidAccountId]

/-- What a running stage looks for. -/
inductive Role
  | verb
  | amount
  | currency
  | separators
  | firstKeyword
  | firstId
  | counterparty
  | secondId
deriving Repr, DecidableEq

def Stage.role? : Stage → Option Role
  | verb => some .verb
  | amount _ => some .amount
  | currency _ => some .currency
  | separators _ => some .separators
  | firstKeyword _ _ _ => some .firstKeyword
  | firstId _ _ _ => some .firstId
  | counterparty _ _ => some .counterparty
  | secondId _ _ => some .secondId
  | done => none
  | failed _ => none

namespace Matcher

variable {tokens : Tokens} {executeBy : Option Text}

/-- A matcher is justified when it holds what its stage and the stages before it found, and no
more. -/
def Justified (tokens : Tokens) (executeBy : Option Text) (matcher : Matcher) : Prop :=
  match matcher.stage with
  | .verb => matcher = start
  | .amount verb =>
      ReadsVerb tokens verb ∧ matcher = ⟨.amount verb, .ofVerb verb executeBy, none, none⟩
  | .currency verb =>
      ∃ amount, ReadsAmount tokens verb amount ∧
        matcher = ⟨.currency verb, .ofAmount verb executeBy amount, none, none⟩
  | .separators verb =>
      ∃ amount currency, ReadsCurrency tokens verb amount currency ∧
        matcher = ⟨.separators verb, .ofCurrency verb executeBy amount currency, none, none⟩
  | .firstKeyword verb s f =>
      ∃ amount currency, PlacesKeywords tokens verb amount currency s f ∧
        matcher = ⟨.firstKeyword verb s f, .ofCurrency verb executeBy amount currency, s, f⟩
  | .firstId verb s f =>
      ∃ amount currency, ReadsAccountWord tokens verb amount currency s f ∧
        matcher = ⟨.firstId verb s f, .ofCurrency verb executeBy amount currency, s, f⟩
  | .counterparty verb f =>
      ∃ amount currency s firstId, ReadsFirstId tokens verb amount currency s f firstId ∧
        matcher = ⟨.counterparty verb f,
          .ofFirstId verb executeBy amount currency firstId, s, f⟩
  | .secondId verb f =>
      ∃ amount currency s firstId, ReadsCounterparty tokens verb amount currency s f firstId ∧
        matcher = ⟨.secondId verb f, .ofFirstId verb executeBy amount currency firstId, s, f⟩
  | .done =>
      ∃ verb amount currency s f firstId secondId,
        ReadsSecondId tokens verb amount currency s f firstId secondId ∧
          matcher = ⟨.done, .ofSecondId verb executeBy amount currency firstId secondId, s, f⟩
  | .failed code => code ∈ Code.refusals

theorem justified_start : Justified tokens executeBy start := rfl

/-- How a matcher is left by the stage that does not let it pass: with what the stages before it
found, and with a currency or places that would not do. -/
inductive Refused (tokens : Tokens) (executeBy : Option Text) : Role → Matcher → Prop
  | unknownVerb (hunknown : ∀ verb : Verb, tokens.capitals.head? ≠ some verb.keyword) :
      Refused tokens executeBy .verb ⟨.failed .malformed, {}, none, none⟩
  | tooShort {verb : Verb} (hverb : tokens.capitals.head? = some verb.keyword)
      (hshort : tokens.capitals.length < 3) :
      Refused tokens executeBy .verb
        ⟨.failed .missingKeyword, .ofVerb verb executeBy, none, none⟩
  | amount {verb : Verb} (hreads : ReadsVerb tokens verb)
      (hnone : ∀ token, tokens.written[1]? = some token → Token.readAmount token = .ok none) :
      Refused tokens executeBy .amount
        ⟨.failed .invalidAmount, .ofVerb verb executeBy, none, none⟩
  | currency {verb : Verb} {amount : Nat} {token : Text} (hreads : ReadsAmount tokens verb amount)
      (htoken : tokens.written[2]? = some token)
      (hunsupported : Token.isCurrency token.upper = false) :
      Refused tokens executeBy .currency
        ⟨.failed .unsupportedCurrency, .ofCurrency verb executeBy amount token.upper, none, none⟩
  | separators {verb : Verb} {amount : Nat} {currency : Text}
      (hreads : ReadsCurrency tokens verb amount currency)
      (hplaces : ∀ s f, tokens.capitals.idxOf? verb.separator = some s →
        tokens.capitals.idxOf? forKeyword = some f → ¬ (2 < s ∧ s < f)) :
      Refused tokens executeBy .separators
        ⟨.failed .missingKeyword, .ofCurrency verb executeBy amount currency,
          tokens.capitals.idxOf? verb.separator, tokens.capitals.idxOf? forKeyword⟩
  | firstKeyword {verb : Verb} {amount : Nat} {currency : Text} {s f : Nat}
      (hplaces : PlacesKeywords tokens verb amount currency s f)
      (hword : tokens.capitals[s + 1]? ≠ some accountKeyword) :
      Refused tokens executeBy .firstKeyword
        ⟨.failed .keywordOrder, .ofCurrency verb executeBy amount currency, s, f⟩
  | firstId {verb : Verb} {amount : Nat} {currency : Text} {s f : Nat}
      (hreads : ReadsAccountWord tokens verb amount currency s f)
      (hinvalid : ∀ id, tokens.written[s + 2]? = some id → Token.isAccountId id = false) :
      Refused tokens executeBy .firstId
        ⟨.failed .invalidAccountId, .ofCurrency verb executeBy amount currency, s, f⟩
  | counterparty {verb : Verb} {amount : Nat} {currency : Text} {s f : Nat} {firstId : Text}
      (hreads : ReadsFirstId tokens verb amount currency s f firstId)
      (hblock : ¬ verb.counterpartyBlock <+: tokens.capitals.drop (f + 1)) :
      Refused tokens executeBy .counterparty
        ⟨.failed .keywordOrder, .ofFirstId verb executeBy amount currency firstId, s, f⟩
  | secondId {verb : Verb} {amount : Nat} {currency : Text} {s f : Nat} {firstId : Text}
      (hreads : ReadsCounterparty tokens verb amount currency s f firstId)
      (hinvalid : ∀ id, tokens.written[f + 4]? = some id → Token.isAccountId id = false) :
      Refused tokens executeBy .secondId
        ⟨.failed .invalidAccountId, .ofFirstId verb executeBy amount currency firstId, s, f⟩

theorem Refused.justified {role : Role} {matcher : Matcher}
    (h : Refused tokens executeBy role matcher) : Justified tokens executeBy matcher := by
  cases h <;> simp [Justified, Code.refusals]

theorem readVerb_cases (tokens : Tokens) (executeBy : Option Text) :
    (∃ verb, ReadsVerb tokens verb ∧ start.readVerb tokens executeBy =
      ⟨.amount verb, .ofVerb verb executeBy, none, none⟩) ∨
    Refused tokens executeBy .verb (start.readVerb tokens executeBy) := by
  unfold readVerb
  split
  · rename_i hnone
    refine .inr (.unknownVerb fun verb hverb => ?_)
    simp [hverb] at hnone
  · rename_i verb hverb
    obtain ⟨token, hhead, hkeyword⟩ := Option.bind_eq_some_iff.mp hverb
    rw [← Verb.keyword_of_ofKeyword? hkeyword] at hhead
    split
    · rename_i hshort
      exact .inr (.tooShort hhead hshort)
    · rename_i henough
      exact .inl ⟨verb, ⟨hhead, by omega⟩, rfl⟩

theorem readAmount_cases {verb : Verb} (hverb : ReadsVerb tokens verb) {next : Matcher}
    (hstep : readAmount tokens verb ⟨.amount verb, .ofVerb verb executeBy, none, none⟩ = .ok next) :
    (∃ amount, ReadsAmount tokens verb amount ∧
      next = ⟨.currency verb, .ofAmount verb executeBy amount, none, none⟩) ∨
    Refused tokens executeBy .amount next := by
  unfold readAmount at hstep
  split at hstep
  · rename_i hnone
    cases hstep
    exact .inr (.amount hverb fun token htoken => by simp [hnone] at htoken)
  · rename_i token htoken
    split at hstep
    · cases hstep
    · rename_i hread
      cases hstep
      refine .inr (.amount hverb fun other hother => ?_)
      obtain rfl := Option.some.inj (htoken.symm.trans hother)
      exact hread
    · rename_i amount hread
      cases hstep
      exact .inl ⟨amount, { hverb with amountToken := ⟨token, htoken, hread⟩ }, rfl⟩

theorem readCurrency_cases {verb : Verb} {amount : Nat} (hamount : ReadsAmount tokens verb amount)
    {next : Matcher}
    (hstep : readCurrency tokens verb
      ⟨.currency verb, .ofAmount verb executeBy amount, none, none⟩ = .ok next) :
    (∃ currency, ReadsCurrency tokens verb amount currency ∧
      next = ⟨.separators verb, .ofCurrency verb executeBy amount currency, none, none⟩) ∨
    Refused tokens executeBy .currency next := by
  unfold readCurrency at hstep
  split at hstep
  · cases hstep
  · rename_i token htoken
    cases hstep
    split
    · rename_i hsupported
      exact .inl ⟨token.upper,
        { hamount with currencyToken := ⟨token, htoken, rfl⟩, supported := hsupported }, rfl⟩
    · rename_i hunsupported
      exact .inr (.currency hamount htoken (by simpa using hunsupported))

theorem findSeparators_cases (executeBy : Option Text) {verb : Verb} {amount : Nat}
    {currency : Text}
    (hcurrency : ReadsCurrency tokens verb amount currency) :
    let next := findSeparators tokens verb
      ⟨.separators verb, .ofCurrency verb executeBy amount currency, none, none⟩
    (∃ s f, PlacesKeywords tokens verb amount currency s f ∧
      next = ⟨.firstKeyword verb s f, .ofCurrency verb executeBy amount currency, s, f⟩) ∨
    Refused tokens executeBy .separators next := by
  intro next
  simp only [next, findSeparators]
  split
  · rename_i s f hseparator hfor
    split
    · rename_i hplaces
      rw [hseparator, hfor]
      exact .inl ⟨s, f, { hcurrency with
        separator := hseparator, forWord := hfor, late := hplaces.1, ordered := hplaces.2 }, rfl⟩
    · rename_i hplaces
      refine .inr (.separators hcurrency fun s' f' hs hf => ?_)
      obtain rfl := Option.some.inj (hseparator.symm.trans hs)
      obtain rfl := Option.some.inj (hfor.symm.trans hf)
      exact hplaces
  · rename_i hmissing
    exact .inr (.separators hcurrency fun s f hs hf => absurd hf (hmissing s f hs))

theorem readFirstKeyword_cases (executeBy : Option Text) {verb : Verb} {amount : Nat}
    {currency : Text} {s f : Nat}
    (hplaces : PlacesKeywords tokens verb amount currency s f) :
    let next := readFirstKeyword tokens verb s f
      ⟨.firstKeyword verb s f, .ofCurrency verb executeBy amount currency, s, f⟩
    (ReadsAccountWord tokens verb amount currency s f ∧
      next = ⟨.firstId verb s f, .ofCurrency verb executeBy amount currency, s, f⟩) ∨
    Refused tokens executeBy .firstKeyword next := by
  intro next
  simp only [next, readFirstKeyword]
  split
  · rename_i haccount
    exact .inl ⟨{ hplaces with accountWord := haccount }, rfl⟩
  · rename_i hword
    exact .inr (.firstKeyword hplaces hword)

theorem readId_cases (tokens : Tokens) (verb : Verb) (place : Nat) (next : Stage)
    (matcher : Matcher) :
    (∃ id, tokens.written[place]? = some id ∧ Token.isAccountId id ∧
      readId tokens verb place next matcher =
        { matcher with stage := next, instruction := matcher.instruction.withAccount verb id }) ∨
    ((∀ id, tokens.written[place]? = some id → Token.isAccountId id = false) ∧
      readId tokens verb place next matcher = matcher.fail .invalidAccountId) := by
  unfold readId
  split
  · rename_i hnone
    exact .inr ⟨fun id hid => by simp [hnone] at hid, rfl⟩
  · rename_i id hid
    split
    · rename_i hvalid
      exact .inl ⟨id, hid, hvalid, rfl⟩
    · rename_i hinvalid
      refine .inr ⟨fun other hother => ?_, rfl⟩
      obtain rfl := Option.some.inj (hid.symm.trans hother)
      simpa using hinvalid

theorem readFirstId_cases (executeBy : Option Text) {verb : Verb} {amount : Nat}
    {currency : Text} {s f : Nat}
    (haccount : ReadsAccountWord tokens verb amount currency s f) :
    let next := readId tokens verb (s + 2) (.counterparty verb f)
      ⟨.firstId verb s f, .ofCurrency verb executeBy amount currency, s, f⟩
    (∃ firstId, ReadsFirstId tokens verb amount currency s f firstId ∧
      next = ⟨.counterparty verb f, .ofFirstId verb executeBy amount currency firstId, s, f⟩) ∨
    Refused tokens executeBy .firstId next := by
  intro next
  rcases readId_cases tokens verb (s + 2) (.counterparty verb f)
      ⟨.firstId verb s f, .ofCurrency verb executeBy amount currency, s, f⟩ with
    ⟨firstId, hfirst, hvalid, heq⟩ | ⟨hinvalid, heq⟩
  · exact .inl ⟨firstId, { haccount with firstToken := hfirst, firstValid := hvalid }, heq⟩
  · refine .inr ?_
    rw [show next = _ from heq]
    exact .firstId haccount hinvalid

theorem readCounterparty_cases (executeBy : Option Text) {verb : Verb} {amount : Nat}
    {currency : Text} {s f : Nat} {firstId : Text}
    (hfirst : ReadsFirstId tokens verb amount currency s f firstId) :
    let next := readCounterparty tokens verb f
      ⟨.counterparty verb f, .ofFirstId verb executeBy amount currency firstId, s, f⟩
    (ReadsCounterparty tokens verb amount currency s f firstId ∧
      next = ⟨.secondId verb f, .ofFirstId verb executeBy amount currency firstId, s, f⟩) ∨
    Refused tokens executeBy .counterparty next := by
  intro next
  simp only [next, readCounterparty]
  split
  · rename_i hblock
    exact .inl ⟨{ hfirst with block := List.isPrefixOf_iff_prefix.mp hblock }, rfl⟩
  · rename_i hblock
    exact .inr (.counterparty hfirst fun h => hblock (List.isPrefixOf_iff_prefix.mpr h))

theorem readSecondId_cases (executeBy : Option Text) {verb : Verb} {amount : Nat}
    {currency : Text} {s f : Nat} {firstId : Text}
    (hblock : ReadsCounterparty tokens verb amount currency s f firstId) :
    let next := readId tokens verb.counter (f + 4) .done
      ⟨.secondId verb f, .ofFirstId verb executeBy amount currency firstId, s, f⟩
    (∃ secondId, ReadsSecondId tokens verb amount currency s f firstId secondId ∧
      next = ⟨.done, .ofSecondId verb executeBy amount currency firstId secondId, s, f⟩) ∨
    Refused tokens executeBy .secondId next := by
  intro next
  rcases readId_cases tokens verb.counter (f + 4) .done
      ⟨.secondId verb f, .ofFirstId verb executeBy amount currency firstId, s, f⟩ with
    ⟨secondId, hsecond, hvalid, heq⟩ | ⟨hinvalid, heq⟩
  · exact .inl ⟨secondId, { hblock with secondToken := hsecond, secondValid := hvalid }, heq⟩
  · refine .inr ?_
    rw [show next = _ from heq]
    exact .secondId hblock hinvalid

theorem Justified.step_cases {matcher next : Matcher} {role : Role}
    (h : Justified tokens executeBy matcher) (hrole : matcher.stage.role? = some role)
    (hstep : matcher.step tokens executeBy = .ok next) :
    (Justified tokens executeBy next ∧ next.stage.failure? = none) ∨
      Refused tokens executeBy role next := by
  unfold Matcher.step at hstep
  unfold Justified at h
  split at h <;> rename_i hstage <;> simp only [hstage, Except.ok.injEq] at hstep <;>
    simp only [hstage, Stage.role?, Option.some.injEq, reduceCtorEq] at hrole <;> subst hrole
  · subst h hstep
    rcases readVerb_cases tokens executeBy with
      ⟨verb, hread, heq⟩ | hrefused
    · exact .inl (heq ▸ ⟨⟨hread, rfl⟩, rfl⟩)
    · exact .inr hrefused
  · obtain ⟨hread, rfl⟩ := h
    rcases readAmount_cases hread hstep with ⟨amount, hamount, rfl⟩ | hrefused
    · exact .inl ⟨⟨amount, hamount, rfl⟩, rfl⟩
    · exact .inr hrefused
  · obtain ⟨amount, hread, rfl⟩ := h
    rcases readCurrency_cases hread hstep with ⟨currency, hcurrency, rfl⟩ | hrefused
    · exact .inl ⟨⟨amount, currency, hcurrency, rfl⟩, rfl⟩
    · exact .inr hrefused
  · obtain ⟨amount, currency, hread, rfl⟩ := h
    subst hstep
    rcases findSeparators_cases executeBy hread with
      ⟨s, f, hplaces, heq⟩ | hrefused
    · exact .inl (heq ▸ ⟨⟨amount, currency, hplaces, rfl⟩, rfl⟩)
    · exact .inr hrefused
  · obtain ⟨amount, currency, hread, rfl⟩ := h
    subst hstep
    rcases readFirstKeyword_cases executeBy hread with ⟨haccount, heq⟩ | hrefused
    · exact .inl (heq ▸ ⟨⟨amount, currency, haccount, rfl⟩, rfl⟩)
    · exact .inr hrefused
  · obtain ⟨amount, currency, hread, rfl⟩ := h
    subst hstep
    rcases readFirstId_cases executeBy hread with ⟨firstId, hfirst, heq⟩ | hrefused
    · exact .inl (heq ▸ ⟨⟨amount, currency, _, firstId, hfirst, rfl⟩, rfl⟩)
    · exact .inr hrefused
  · obtain ⟨amount, currency, s, firstId, hread, rfl⟩ := h
    subst hstep
    rcases readCounterparty_cases executeBy hread with ⟨hblock, heq⟩ | hrefused
    · exact .inl (heq ▸ ⟨⟨amount, currency, s, firstId, hblock, rfl⟩, rfl⟩)
    · exact .inr hrefused
  · obtain ⟨amount, currency, s, firstId, hread, rfl⟩ := h
    subst hstep
    rcases readSecondId_cases executeBy hread with
      ⟨secondId, hsecond, heq⟩ | hrefused
    · exact .inl (heq ▸ ⟨⟨_, amount, currency, s, _, firstId, secondId, hsecond, rfl⟩, rfl⟩)
    · exact .inr hrefused

private theorem step_of_role?_eq_none {matcher : Matcher} (h : matcher.stage.role? = none) :
    matcher.step tokens executeBy = .ok matcher := by
  unfold Matcher.step
  cases hstage : matcher.stage <;> simp [hstage, Stage.role?] at h ⊢

theorem Justified.step {matcher next : Matcher} (h : Justified tokens executeBy matcher)
    (hstep : matcher.step tokens executeBy = .ok next) : Justified tokens executeBy next := by
  cases hrole : matcher.stage.role? with
  | none =>
      rw [step_of_role?_eq_none hrole] at hstep
      exact Except.ok.inj hstep ▸ h
  | some role =>
      rcases h.step_cases hrole hstep with ⟨hnext, _⟩ | hrefused
      · exact hnext
      · exact hrefused.justified

theorem Justified.run {steps : Nat} {matcher last : Matcher}
    (h : Justified tokens executeBy matcher)
    (hrun : run tokens executeBy steps matcher = .ok last) : Justified tokens executeBy last := by
  induction steps generalizing matcher with
  | zero =>
      cases hrun
      exact h
  | succ steps ih =>
      rw [Matcher.run] at hrun
      split at hrun
      · cases hrun
        exact h
      · obtain ⟨next, hstep, hrun⟩ := bind_eq_ok_iff.mp hrun
        exact ih (h.step hstep) hrun

private theorem justified_finish {matcher : Matcher} (h : finish tokens executeBy = .ok matcher) :
    Justified tokens executeBy matcher :=
  justified_start.run h

end Matcher

namespace Stage

inductive Follows : Stage → Stage → Prop
  | amount {verb : Verb} : Follows .verb (.amount verb)
  | currency {verb : Verb} : Follows (.amount verb) (.currency verb)
  | separators {verb : Verb} : Follows (.currency verb) (.separators verb)
  | firstKeyword {verb : Verb} {s f : Nat} :
      Follows (.separators verb) (.firstKeyword verb s f)
  | firstId {verb : Verb} {s f : Nat} : Follows (.firstKeyword verb s f) (.firstId verb s f)
  | counterparty {verb : Verb} {s f : Nat} : Follows (.firstId verb s f) (.counterparty verb f)
  | secondId {verb : Verb} {f : Nat} : Follows (.counterparty verb f) (.secondId verb f)
  | done {verb : Verb} {f : Nat} : Follows (.secondId verb f) .done
  | failed {stage : Stage} {code : Code} (running : stage.isFinal = false) :
      Follows stage (.failed code)

/-- How many stages come before the end at most. -/
def remaining : Stage → Nat
  | verb => 8
  | amount _ => 7
  | currency _ => 6
  | separators _ => 5
  | firstKeyword _ _ _ => 4
  | firstId _ _ _ => 3
  | counterparty _ _ => 2
  | secondId _ _ => 1
  | done => 0
  | failed _ => 0

theorem isFinal_iff_remaining {stage : Stage} : stage.isFinal ↔ stage.remaining = 0 := by
  cases stage <;> simp [isFinal, remaining]

theorem Follows.remaining_lt {stage next : Stage} (h : Follows stage next) :
    next.remaining < stage.remaining := by
  cases h with
  | failed running =>
      have : stage.remaining ≠ 0 := fun hzero => by
        rw [isFinal_iff_remaining.mpr hzero] at running
        contradiction
      exact Nat.pos_of_ne_zero this
  | amount | currency | separators | firstKeyword | firstId | counterparty | secondId | done =>
      simp [remaining]

end Stage

namespace Matcher

variable {tokens : Tokens} {executeBy : Option Text} {matcher : Matcher}

theorem follows_readVerb :
    Stage.Follows .verb (matcher.readVerb tokens executeBy).stage := by
  unfold readVerb
  split
  · exact .failed rfl
  · split
    · exact .failed rfl
    · exact .amount

private theorem follows_readAmount {verb : Verb} {next : Matcher}
    (hstep : matcher.readAmount tokens verb = .ok next) :
    Stage.Follows (.amount verb) next.stage := by
  unfold readAmount at hstep
  split at hstep
  · cases hstep
    exact .failed rfl
  · split at hstep
    · cases hstep
    · cases hstep
      exact .failed rfl
    · cases hstep
      exact .currency

private theorem follows_readCurrency {verb : Verb} {next : Matcher}
    (hstep : matcher.readCurrency tokens verb = .ok next) :
    Stage.Follows (.currency verb) next.stage := by
  unfold readCurrency at hstep
  split at hstep
  · cases hstep
  · cases hstep
    split
    · exact .separators
    · exact .failed rfl

private theorem follows_findSeparators {verb : Verb} :
    Stage.Follows (.separators verb) (matcher.findSeparators tokens verb).stage := by
  unfold findSeparators
  simp only []
  split
  · split
    · exact .firstKeyword
    · exact .failed rfl
  · exact .failed rfl

private theorem follows_readFirstKeyword {verb : Verb} {s f : Nat} :
    Stage.Follows (.firstKeyword verb s f) (matcher.readFirstKeyword tokens verb s f).stage := by
  unfold readFirstKeyword
  split
  · exact .firstId
  · exact .failed rfl

private theorem follows_readId {stage next : Stage} (hrunning : stage.isFinal = false)
    (hnext : Stage.Follows stage next) {verb : Verb} {place : Nat} :
    Stage.Follows stage (matcher.readId tokens verb place next).stage := by
  unfold readId
  split
  · exact .failed hrunning
  · split
    · exact hnext
    · exact .failed hrunning

private theorem follows_readCounterparty {verb : Verb} {f : Nat} :
    Stage.Follows (.counterparty verb f) (matcher.readCounterparty tokens verb f).stage := by
  unfold readCounterparty
  split
  · exact .secondId
  · exact .failed rfl

theorem follows_step {next : Matcher} (hrunning : matcher.stage.isFinal = false)
    (hstep : matcher.step tokens executeBy = .ok next) :
    Stage.Follows matcher.stage next.stage := by
  unfold Matcher.step at hstep
  cases hstage : matcher.stage with
  | verb =>
      simp only [hstage, Except.ok.injEq] at hstep
      exact hstep ▸ follows_readVerb
  | amount verb =>
      simp only [hstage] at hstep
      exact follows_readAmount hstep
  | currency verb =>
      simp only [hstage] at hstep
      exact follows_readCurrency hstep
  | separators verb =>
      simp only [hstage, Except.ok.injEq] at hstep
      exact hstep ▸ follows_findSeparators
  | firstKeyword verb s f =>
      simp only [hstage, Except.ok.injEq] at hstep
      exact hstep ▸ follows_readFirstKeyword
  | firstId verb s f =>
      simp only [hstage, Except.ok.injEq] at hstep
      exact hstep ▸ follows_readId rfl .counterparty
  | counterparty verb f =>
      simp only [hstage, Except.ok.injEq] at hstep
      exact hstep ▸ follows_readCounterparty
  | secondId verb f =>
      simp only [hstage, Except.ok.injEq] at hstep
      exact hstep ▸ follows_readId rfl .done
  | done | failed => simp [hstage, Stage.isFinal] at hrunning

theorem isFinal_run {steps : Nat} {last : Matcher} (henough : matcher.stage.remaining ≤ steps)
    (hrun : run tokens executeBy steps matcher = .ok last) : last.stage.isFinal := by
  induction steps generalizing matcher with
  | zero =>
      cases hrun
      exact Stage.isFinal_iff_remaining.mpr (by omega)
  | succ steps ih =>
      rw [Matcher.run] at hrun
      split at hrun
      · cases hrun
        assumption
      · rename_i hrunning
        obtain ⟨next, hstep, hrun⟩ := bind_eq_ok_iff.mp hrun
        have := (follows_step (by simpa using hrunning) hstep).remaining_lt
        exact ih (by omega) hrun

theorem isFinal_finish {last : Matcher} (h : finish tokens executeBy = .ok last) :
    last.stage.isFinal :=
  isFinal_run (Nat.le_refl 8) h

theorem readVerb_of_reads {verb : Verb} (h : ReadsVerb tokens verb) :
    start.readVerb tokens executeBy = ⟨.amount verb, .ofVerb verb executeBy, none, none⟩ := by
  have hshort : ¬ tokens.capitals.length < 3 := Nat.not_lt.mpr h.enough
  simp only [readVerb, h.keyword, Option.bind_some, Verb.ofKeyword?_keyword, if_neg hshort]
  rfl

theorem readAmount_of_reads {verb : Verb} {amount : Nat} (h : ReadsAmount tokens verb amount) :
    readAmount tokens verb ⟨.amount verb, .ofVerb verb executeBy, none, none⟩ =
      .ok ⟨.currency verb, .ofAmount verb executeBy amount, none, none⟩ := by
  obtain ⟨token, htoken, hread⟩ := h.amountToken
  simp only [readAmount, htoken, hread]
  rfl

private theorem readCurrency_of_reads {verb : Verb} {amount : Nat} {currency : Text}
    (h : ReadsCurrency tokens verb amount currency) :
    readCurrency tokens verb ⟨.currency verb, .ofAmount verb executeBy amount, none, none⟩ =
      .ok ⟨.separators verb, .ofCurrency verb executeBy amount currency, none, none⟩ := by
  obtain ⟨token, htoken, rfl⟩ := h.currencyToken
  simp only [readCurrency, htoken, if_pos h.supported]
  rfl

private theorem findSeparators_of_places {verb : Verb} {amount : Nat} {currency : Text} {s f : Nat}
    (h : PlacesKeywords tokens verb amount currency s f) (instruction : Instruction) :
    findSeparators tokens verb ⟨.separators verb, instruction, none, none⟩ =
      ⟨.firstKeyword verb s f, instruction, s, f⟩ := by
  have hplaces : 2 < s ∧ s < f := ⟨h.late, h.ordered⟩
  simp only [findSeparators, h.separator, h.forWord, if_pos hplaces]
  rfl

private theorem readFirstKeyword_of_reads {verb : Verb} {amount : Nat} {currency : Text} {s f : Nat}
    (h : ReadsAccountWord tokens verb amount currency s f) (instruction : Instruction) :
    readFirstKeyword tokens verb s f ⟨.firstKeyword verb s f, instruction, s, f⟩ =
      ⟨.firstId verb s f, instruction, s, f⟩ := by
  simp only [readFirstKeyword, if_pos h.accountWord]
  rfl

private theorem readId_of_getElem? {verb : Verb} {place : Nat} {id : Text}
    (htoken : tokens.written[place]? = some id) (hvalid : Token.isAccountId id) (next : Stage)
    (matcher : Matcher) :
    readId tokens verb place next matcher =
      { matcher with stage := next, instruction := matcher.instruction.withAccount verb id } := by
  simp only [readId, htoken, if_pos hvalid]

private theorem readCounterparty_of_reads {verb : Verb} {amount : Nat} {currency : Text} {s f : Nat}
    {firstId : Text} (h : ReadsCounterparty tokens verb amount currency s f firstId)
    (instruction : Instruction) :
    readCounterparty tokens verb f ⟨.counterparty verb f, instruction, s, f⟩ =
      ⟨.secondId verb f, instruction, s, f⟩ := by
  simp only [readCounterparty, if_pos (List.isPrefixOf_iff_prefix.mpr h.block)]
  rfl

theorem run_succ {next : Matcher} (steps : Nat) (hrunning : matcher.stage.isFinal = false)
    (hstep : matcher.step tokens executeBy = .ok next) :
    run tokens executeBy (steps + 1) matcher = run tokens executeBy steps next := by
  rw [Matcher.run, hrunning, hstep]
  rfl

private theorem finish_of_readsSecondId {verb : Verb} {amount : Nat} {currency : Text} {s f : Nat}
    {firstId secondId : Text}
    (h : ReadsSecondId tokens verb amount currency s f firstId secondId) :
    finish tokens executeBy =
      .ok ⟨.done, .ofSecondId verb executeBy amount currency firstId secondId, s, f⟩ := by
  calc
    finish tokens executeBy = run tokens executeBy 8 start := rfl
    _ = run tokens executeBy 7 ⟨.amount verb, .ofVerb verb executeBy, none, none⟩ :=
      run_succ 7 rfl (congrArg Except.ok (readVerb_of_reads h.toReadsVerb))
    _ = run tokens executeBy 6 ⟨.currency verb, .ofAmount verb executeBy amount, none, none⟩ :=
      run_succ 6 rfl (readAmount_of_reads h.toReadsAmount)
    _ = run tokens executeBy 5
          ⟨.separators verb, .ofCurrency verb executeBy amount currency, none, none⟩ :=
      run_succ 5 rfl (readCurrency_of_reads h.toReadsCurrency)
    _ = run tokens executeBy 4
          ⟨.firstKeyword verb s f, .ofCurrency verb executeBy amount currency, s, f⟩ :=
      run_succ 4 rfl (congrArg Except.ok (findSeparators_of_places h.toPlacesKeywords _))
    _ = run tokens executeBy 3
          ⟨.firstId verb s f, .ofCurrency verb executeBy amount currency, s, f⟩ :=
      run_succ 3 rfl (congrArg Except.ok (readFirstKeyword_of_reads h.toReadsAccountWord _))
    _ = run tokens executeBy 2
          ⟨.counterparty verb f, .ofFirstId verb executeBy amount currency firstId, s, f⟩ :=
      run_succ 2 rfl (congrArg Except.ok (readId_of_getElem? h.firstToken h.firstValid _ _))
    _ = run tokens executeBy 1
          ⟨.secondId verb f, .ofFirstId verb executeBy amount currency firstId, s, f⟩ :=
      run_succ 1 rfl (congrArg Except.ok (readCounterparty_of_reads h.toReadsCounterparty _))
    _ = run tokens executeBy 0
          ⟨.done, .ofSecondId verb executeBy amount currency firstId secondId, s, f⟩ :=
      run_succ 0 rfl (congrArg Except.ok (readId_of_getElem? h.secondToken h.secondValid _ _))

end Matcher

theorem Match.ofTokens_eq_matched_iff {tokens : Tokens} {executeBy : Option Text}
    {instruction : Instruction} :
    Match.ofTokens tokens executeBy = .ok ⟨instruction, none⟩ ↔
      ∃ verb amount currency s f firstId secondId,
        ReadsSecondId tokens verb amount currency s f firstId secondId ∧
          instruction = .ofSecondId verb executeBy amount currency firstId secondId := by
  constructor
  · intro hmatch
    obtain ⟨matcher, hfinish, heq⟩ := map_eq_ok_iff.mp hmatch
    obtain ⟨rfl, hfailure⟩ := Match.mk.inj heq
    have hjustified := Matcher.justified_finish hfinish
    have hfinal := Matcher.isFinal_finish hfinish
    unfold Matcher.Justified at hjustified
    cases hstage : matcher.stage with
    | done =>
        rw [hstage] at hjustified
        obtain ⟨verb, amount, currency, s, f, firstId, secondId, hread, rfl⟩ := hjustified
        exact ⟨verb, amount, currency, s, f, firstId, secondId, hread, rfl⟩
    | failed code => simp [hstage, Stage.failure?] at hfailure
    | _ => simp [hstage, Stage.isFinal] at hfinal
  · intro hparts
    obtain ⟨verb, amount, currency, s, f, firstId, secondId, hread, rfl⟩ := hparts
    rw [Match.ofTokens, Matcher.finish_of_readsSecondId hread]
    rfl

theorem Match.failure_mem_refusals {tokens : Tokens} {executeBy : Option Text} {found : Match}
    {code : Code} (hmatch : Match.ofTokens tokens executeBy = .ok found)
    (hfailure : found.failure = some code) : code ∈ Code.refusals := by
  obtain ⟨matcher, hfinish, rfl⟩ := map_eq_ok_iff.mp hmatch
  have hjustified := Matcher.justified_finish hfinish
  unfold Matcher.Justified at hjustified
  cases hstage : matcher.stage with
  | failed code =>
      simp only [hstage, Stage.failure?, Option.some.injEq] at hfailure hjustified
      exact hfailure ▸ hjustified
  | _ => simp [hstage, Stage.failure?] at hfailure

end Remittance
