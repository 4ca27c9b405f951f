import Mathlib.Tactic.MkIffOfInductiveProp
import Remittance.Proofs.Matcher.Stages
import Remittance.Proofs.Token

namespace Remittance

open Remittance.Text

structure Sentence where
  verb : Verb
  verbWord : Text
  amount : Text
  currency : Text
  filler : List Text
  separator : Text
  firstAccountWord : Text
  firstId : Text
  secondFiller : List Text
  forWord : Text
  counterWord : Text
  counterSeparator : Text
  secondAccountWord : Text
  secondId : Text
  tail : List Text

namespace Sentence

def heading (sentence : Sentence) : List Text :=
  sentence.verbWord :: sentence.amount :: sentence.currency :: sentence.filler

def opening (sentence : Sentence) : List Text :=
  sentence.heading ++ [sentence.separator, sentence.firstAccountWord]

def closing (sentence : Sentence) : List Text :=
  sentence.forWord :: sentence.counterWord :: sentence.counterSeparator ::
    sentence.secondAccountWord :: sentence.secondId :: sentence.tail

def words (sentence : Sentence) : List Text :=
  sentence.opening ++ (sentence.firstId :: sentence.secondFiller) ++ sentence.closing

/-- The keywords, the amount and the currency stand in their places. -/
@[mk_iff] structure Fits (sentence : Sentence) : Prop where
  verbWord : upper sentence.verbWord = sentence.verb.keyword
  amount_isNumeral : Numeral.isNumeral sentence.amount
  amount_pos : 1 ≤ Numeral.value sentence.amount
  currency : upper sentence.currency ∈ Token.supportedCurrencies
  separator : upper sentence.separator = sentence.verb.separator
  firstAccountWord : upper sentence.firstAccountWord = accountKeyword
  forWord : upper sentence.forWord = forKeyword
  counterWord : upper sentence.counterWord = sentence.verb.counter.keyword
  counterSeparator : upper sentence.counterSeparator = sentence.verb.counter.separator
  secondAccountWord : upper sentence.secondAccountWord = accountKeyword

/-- The amount and the ids can be read, and the fillers hold no keyword that is searched for. -/
@[mk_iff] structure WellFormed (sentence : Sentence) : Prop extends Fits sentence where
  amount_length : sentence.amount.length ≤ digitLimit
  filler_ne_separator : ∀ word ∈ sentence.filler, upper word ≠ sentence.verb.separator
  filler_ne_for : ∀ word ∈ sentence.filler, upper word ≠ forKeyword
  firstId : Token.isAccountId sentence.firstId
  secondFiller_ne_for : ∀ word ∈ sentence.secondFiller, upper word ≠ forKeyword
  secondId : Token.isAccountId sentence.secondId

instance (sentence : Sentence) : Decidable sentence.Fits :=
  decidable_of_iff' _ sentence.fits_iff

instance (sentence : Sentence) : Decidable sentence.WellFormed :=
  decidable_of_iff' _ sentence.wellFormed_iff

def instruction (sentence : Sentence) (executeBy : Option Text) : Instruction :=
  .ofSecondId sentence.verb executeBy (Numeral.value sentence.amount) (upper sentence.currency)
    sentence.firstId sentence.secondId

/-- Whether the words from FOR to the second id occur once more after the counterparty block. -/
def RepeatsClosing (sentence : Sentence) : Prop :=
  ∃ block, block.map upper = forKeyword :: sentence.verb.counterpartyBlock ∧
    block ++ [sentence.secondId] <:+: sentence.secondId :: sentence.tail

end Sentence

theorem idxOf?_map_upper_eq_some_iff {pieces : List Text} {keyword : Text} {i : Nat} :
    (pieces.map upper).idxOf? keyword = some i ↔
      ∃ before word after, pieces = before ++ word :: after ∧ before.length = i ∧
        upper word = keyword ∧ ∀ other ∈ before, upper other ≠ keyword := by
  rw [List.idxOf?_eq_some_iff]
  constructor
  · intro hparts
    obtain ⟨hi, hword, hbefore⟩ := hparts
    rw [List.length_map] at hi
    refine ⟨pieces.take i, pieces[i], pieces.drop (i + 1), ?_, ?_, by simpa using hword, ?_⟩
    · rw [← List.drop_eq_getElem_cons, List.take_append_drop]
    · rw [List.length_take]
      omega
    · intro other hother
      obtain ⟨j, hj, rfl⟩ := List.mem_take_iff_getElem.mp hother
      simpa using hbefore j (by omega)
  · intro hparts
    obtain ⟨before, word, after, rfl, rfl, hword, hbefore⟩ := hparts
    refine ⟨by simp, by simpa using hword, ?_⟩
    intro j hj
    rw [List.getElem_map, List.getElem_append_left hj]
    exact hbefore _ (List.getElem_mem hj)

theorem PlacesKeywords.exists_pieces {written : List Text} {verb : Verb} {amount : Nat}
    {currency : Text} {s f : Nat}
    (h : PlacesKeywords (Tokens.ofWritten written) verb amount currency s f) :
    ∃ verbWord amountWord currencyWord filler separator middle forWord after,
      written = (verbWord :: amountWord :: currencyWord :: filler) ++ separator ::
        (middle ++ forWord :: after) ∧
      (verbWord :: amountWord :: currencyWord :: filler).length = s ∧ s + middle.length + 1 = f ∧
      upper separator = verb.separator ∧ upper forWord = forKeyword ∧
      (∀ word ∈ filler, upper word ≠ verb.separator ∧ upper word ≠ forKeyword) ∧
      ∀ word ∈ middle, upper word ≠ forKeyword := by
  obtain ⟨before, separator, afterSeparator, hseparator, rfl, hupper, hbefore⟩ :=
    idxOf?_map_upper_eq_some_iff.mp h.separator
  obtain ⟨beforeFor, forWord, after, hfor, rfl, hupperFor, hbeforeFor⟩ :=
    idxOf?_map_upper_eq_some_iff.mp h.forWord
  have hlate := h.late
  have hordered := h.ordered
  obtain ⟨middle, rfl, hmiddle⟩ : ∃ middle, beforeFor = before ++ separator :: middle ∧
      afterSeparator = middle ++ forWord :: after := by
    rw [hseparator] at hfor
    rcases List.append_eq_append_iff.mp hfor with ⟨gap, rfl, hgap⟩ | ⟨gap, rfl, _⟩
    · cases gap with
      | nil => simp at hordered
      | cons first gap =>
          obtain ⟨rfl, rfl⟩ := List.cons.inj hgap
          exact ⟨gap, rfl, rfl⟩
    · rw [List.length_append] at hordered
      omega
  match before, hlate, hseparator, hbefore, hbeforeFor with
  | verbWord :: amountWord :: currencyWord :: filler, _, hseparator, hbefore, hbeforeFor =>
      refine ⟨verbWord, amountWord, currencyWord, filler, separator, middle, forWord, after, ?_,
        rfl, ?_, hupper, hupperFor, ?_, ?_⟩
      · rw [← hmiddle]
        exact hseparator
      · simp
        omega
      · intro word hword
        exact ⟨hbefore word (by simp [hword]), hbeforeFor word (by simp [hword])⟩
      · intro word hword
        exact hbeforeFor word (by simp [hword])

private theorem exists_counterparty {verb : Verb} {after : List Text} {secondId : Text}
    (hblock : verb.counterpartyBlock <+: after.map upper) (hsecond : after[3]? = some secondId) :
    ∃ counterWord counterSeparator accountWord tail,
      after = counterWord :: counterSeparator :: accountWord :: secondId :: tail ∧
        upper counterWord = verb.counter.keyword ∧
        upper counterSeparator = verb.counter.separator ∧ upper accountWord = accountKeyword := by
  match after, hblock, hsecond with
  | counterWord :: counterSeparator :: accountWord :: id :: tail, hblock, hsecond =>
      obtain rfl : id = secondId := by simpa using hsecond
      refine ⟨counterWord, counterSeparator, accountWord, tail, rfl, ?_⟩
      simp only [Verb.counterpartyBlock, List.map_cons, List.cons_prefix_cons] at hblock
      exact ⟨hblock.1.symm, hblock.2.1.symm, hblock.2.2.1.symm⟩

theorem ReadsCurrency.heading {verbWord amountWord currencyWord : Text} {rest : List Text}
    {verb : Verb} {amount : Nat} {currency : Text}
    (h : ReadsCurrency (Tokens.ofWritten (verbWord :: amountWord :: currencyWord :: rest)) verb
      amount currency) :
    upper verbWord = verb.keyword ∧
      (Numeral.isNumeral amountWord ∧ amountWord.length ≤ digitLimit ∧ 1 ≤ amount ∧
        Numeral.value amountWord = amount) ∧
      upper currencyWord = currency ∧ currency ∈ Token.supportedCurrencies := by
  obtain ⟨amountToken, hamount, hread⟩ := h.amountToken
  obtain rfl : amountWord = amountToken := by simpa using hamount
  obtain ⟨currencyToken, hcurrency, rfl⟩ := h.currencyToken
  obtain rfl : currencyWord = currencyToken := by simpa using hcurrency
  exact ⟨by simpa using h.keyword, Token.readAmount_eq_some_iff.mp hread, rfl,
    Token.isCurrency_upper.mp h.supported⟩

private theorem drop_after_for {before middle after : List Text} {separator forWord : Text} :
    (before ++ separator :: (middle ++ forWord :: after)).drop
      (before.length + middle.length + 1 + 1) = after := by
  have hpieces : before ++ separator :: (middle ++ forWord :: after) =
      (before ++ separator :: (middle ++ [forWord])) ++ after := by
    simp
  rw [hpieces]
  apply List.drop_left'
  simp
  omega

private theorem getElem?_after_separator {before after : List Text} {separator : Text} (i : Nat) :
    (before ++ separator :: after)[before.length + 1 + i]? = after[i]? := by
  rw [List.getElem?_append_right (by omega), Nat.add_assoc, Nat.add_sub_cancel_left,
    Nat.add_comm 1 i, List.getElem?_cons_succ]

theorem first_id_cases {middle after : List Text} {forWord firstId : Text}
    (hfor : upper forWord = forKeyword)
    (haccount : (middle ++ forWord :: after)[0]?.map upper = some accountKeyword)
    (hfirst : (middle ++ forWord :: after)[1]? = some firstId) :
    (∃ accountWord secondFiller, middle = accountWord :: firstId :: secondFiller ∧
      upper accountWord = accountKeyword) ∨
    ∃ accountWord, middle = [accountWord] ∧ upper accountWord = accountKeyword ∧
      firstId = forWord := by
  match middle, haccount, hfirst with
  | [], haccount, _ =>
      rw [List.nil_append, List.getElem?_cons_zero, Option.map_some, hfor] at haccount
      exact absurd (Option.some.inj haccount) (by decide)
  | [accountWord], haccount, hfirst =>
      exact .inr ⟨accountWord, rfl, by simpa using haccount, by simpa using hfirst.symm⟩
  | accountWord :: id :: secondFiller, haccount, hfirst =>
      obtain rfl : id = firstId := by simpa using hfirst
      exact .inl ⟨accountWord, secondFiller, rfl, by simpa using haccount⟩

theorem ReadsSecondId.exists_sentence {written : List Text} {verb : Verb} {amount : Nat}
    {currency : Text} {s f : Nat} {firstId secondId : Text}
    (h : ReadsSecondId (Tokens.ofWritten written) verb amount currency s f firstId secondId)
    (executeBy : Option Text) :
    ∃ sentence : Sentence, sentence.WellFormed ∧
      sentence.instruction executeBy =
        .ofSecondId verb executeBy amount currency firstId secondId ∧
      ((upper sentence.firstId ≠ forKeyword ∧ written = sentence.words) ∨
        (sentence.firstId = sentence.forWord ∧ written = sentence.opening ++ sentence.closing)) := by
  obtain ⟨verbWord, amountWord, currencyWord, filler, separator, middle, forWord, after, rfl, rfl,
    rfl, hseparator, hfor, hfiller, hmiddle⟩ := h.toPlacesKeywords.exists_pieces
  obtain ⟨hverb, ⟨hnumeral, hlength, hpos, rfl⟩, rfl, hcurrency⟩ := h.toReadsCurrency.heading
  obtain ⟨counterWord, counterSeparator, secondAccountWord, tail, rfl, hcounter, hcounterSeparator,
      hsecondAccount⟩ : ∃ counterWord counterSeparator accountWord tail,
        after = counterWord :: counterSeparator :: accountWord :: secondId :: tail ∧
          upper counterWord = verb.counter.keyword ∧
          upper counterSeparator = verb.counter.separator ∧
          upper accountWord = accountKeyword := by
    apply exists_counterparty
    · have hblock := h.block
      rwa [Tokens.capitals_ofWritten, ← List.map_drop, drop_after_for] at hblock
    · have hdrop := @drop_after_for (verbWord :: amountWord :: currencyWord :: filler) middle after
        separator forWord
      rw [← hdrop, List.getElem?_drop]
      exact h.secondToken
  have hwell : ∀ firstAccountWord id secondFiller, upper firstAccountWord = accountKeyword →
      Token.isAccountId id → (∀ word ∈ secondFiller, upper word ≠ forKeyword) →
      Sentence.WellFormed
        { verb, verbWord, amount := amountWord, currency := currencyWord, filler, separator,
          firstAccountWord, firstId := id, secondFiller, forWord, counterWord, counterSeparator,
          secondAccountWord, secondId, tail } := by
    intro firstAccountWord id secondFiller haccount hid hsecondFiller
    exact {
      verbWord := hverb
      amount_isNumeral := hnumeral
      amount_length := hlength
      amount_pos := hpos
      currency := hcurrency
      filler_ne_separator := fun word hword => (hfiller word hword).1
      filler_ne_for := fun word hword => (hfiller word hword).2
      separator := hseparator
      firstAccountWord := haccount
      firstId := hid
      secondFiller_ne_for := hsecondFiller
      forWord := hfor
      counterWord := hcounter
      counterSeparator := hcounterSeparator
      secondAccountWord := hsecondAccount
      secondId := h.secondValid }
  have haccount := h.accountWord
  have hfirst := h.firstToken
  rw [Tokens.capitals_ofWritten, List.getElem?_map, ← Nat.add_zero (_ + 1),
    getElem?_after_separator] at haccount
  rw [Tokens.written_ofWritten, ← Nat.add_assoc _ 1 1, getElem?_after_separator] at hfirst
  rcases first_id_cases hfor haccount hfirst with
    ⟨firstAccountWord, secondFiller, rfl, hword⟩ | ⟨firstAccountWord, rfl, hword, rfl⟩
  · refine ⟨_, hwell firstAccountWord firstId secondFiller hword h.firstValid
      fun word hword => hmiddle word (by simp [hword]), rfl, .inl ⟨hmiddle firstId (by simp), ?_⟩⟩
    simp [Sentence.words, Sentence.opening, Sentence.heading, Sentence.closing]
  · refine ⟨_, hwell firstAccountWord firstId [] hword h.firstValid (by simp), rfl,
      .inr ⟨rfl, ?_⟩⟩
    simp [Sentence.opening, Sentence.heading, Sentence.closing]

private theorem Instruction.ofSecondId_inj {verb verb' : Verb} {executeBy executeBy' : Option Text}
    {amount amount' : Nat} {currency currency' firstId firstId' secondId secondId' : Text}
    (h : ofSecondId verb executeBy amount currency firstId secondId =
      ofSecondId verb' executeBy' amount' currency' firstId' secondId') :
    verb = verb' ∧ firstId = firstId' ∧ secondId = secondId' := by
  obtain rfl : verb = verb' := by
    have hkind := congrArg Instruction.kind h
    rw [kind_ofSecondId, kind_ofSecondId] at hkind
    simpa using congrArg Verb.ofKeyword? (Option.some.inj hkind)
  have hfirst := congrArg (Instruction.accountOf · verb) h
  have hsecond := congrArg (Instruction.accountOf · verb.counter) h
  simp only [accountOf_ofSecondId, accountOf_counter_ofSecondId, Option.some.injEq]
    at hfirst hsecond
  exact ⟨rfl, hfirst, hsecond⟩

private theorem Sentence.WellFormed.closing_after_separator {found sentence : Sentence}
    (hfound : found.WellFormed) (hfits : sentence.Fits) (hverb : found.verb = sentence.verb)
    (hwords : found.opening ++ found.closing = sentence.words) :
    ∃ gap, found.separator :: found.firstAccountWord :: found.closing =
      gap ++ sentence.separator :: sentence.firstAccountWord :: sentence.firstId ::
        (sentence.secondFiller ++ sentence.closing) := by
  simp only [opening, heading, words, List.cons_append, List.append_assoc, List.cons.injEq,
    List.nil_append] at hwords
  obtain ⟨_, _, _, hwords⟩ := hwords
  rcases List.append_eq_append_iff.mp hwords with ⟨gap, _, hgap⟩ | ⟨gap, hfiller, hgap⟩
  · exact ⟨gap, hgap⟩
  · cases gap with
    | nil => exact ⟨[], hgap.symm⟩
    | cons word gap =>
        obtain ⟨rfl, _⟩ := List.cons.inj hgap
        refine absurd ?_ (hfound.filler_ne_separator sentence.separator (by simp [hfiller]))
        rw [hverb]
        exact hfits.separator

private theorem Verb.keyword_ne_for (verb : Verb) : verb.keyword ≠ forKeyword := by
  cases verb <;> decide

theorem Verb.separator_ne_for (verb : Verb) : verb.separator ≠ forKeyword := by
  cases verb <;> decide

private theorem Sentence.Fits.closing_after_block {found sentence : Sentence} (hfound : found.Fits)
    (hfits : sentence.Fits) (before : List Text) (hbefore : 3 ≤ before.length)
    (hwords : found.separator :: found.firstAccountWord :: found.closing =
      before ++ sentence.closing) :
    sentence.closing <:+ found.secondId :: found.tail := by
  have hne : ∀ {word keyword : Text}, upper word = keyword → keyword ≠ forKeyword →
      word ≠ sentence.forWord := by
    intro word keyword hupper hkeyword heq
    apply hkeyword
    rw [← hupper, heq, hfits.forWord]
  unfold closing at hwords ⊢
  -- A shorter gap would put the second FOR on a word of the counterparty block.
  match before, hbefore, hwords with
  | [_, _, _], _, hwords =>
      simp only [List.cons_append, List.nil_append, List.cons.injEq] at hwords
      exact absurd hwords.2.2.2.1 (hne hfound.counterWord found.verb.counter.keyword_ne_for)
  | [_, _, _, _], _, hwords =>
      simp only [List.cons_append, List.nil_append, List.cons.injEq] at hwords
      exact absurd hwords.2.2.2.2.1
        (hne hfound.counterSeparator found.verb.counter.separator_ne_for)
  | [_, _, _, _, _], _, hwords =>
      simp only [List.cons_append, List.nil_append, List.cons.injEq] at hwords
      exact absurd hwords.2.2.2.2.2.1 (hne hfound.secondAccountWord (by decide))
  | _ :: _ :: _ :: _ :: _ :: _ :: before, _, hwords =>
      simp only [List.cons_append, List.cons.injEq] at hwords
      exact ⟨before, hwords.2.2.2.2.2.2.symm⟩

private theorem Sentence.WellFormed.repeatsClosing_of_fits {found sentence : Sentence}
    (hfound : found.WellFormed) (hfits : sentence.Fits) (hverb : found.verb = sentence.verb)
    (hsecond : found.secondId = sentence.secondId)
    (hwords : found.opening ++ found.closing = sentence.words) : found.RepeatsClosing := by
  obtain ⟨gap, hgap⟩ := hfound.closing_after_separator hfits hverb hwords
  have hsuffix : sentence.closing <:+ found.secondId :: found.tail := by
    apply hfound.toFits.closing_after_block hfits (gap ++ sentence.separator ::
      sentence.firstAccountWord :: sentence.firstId :: sentence.secondFiller)
    · simp
      omega
    · rw [hgap]
      simp
  refine ⟨[sentence.forWord, sentence.counterWord, sentence.counterSeparator,
    sentence.secondAccountWord], ?_, ?_⟩
  · rw [hverb]
    simp [hfits.forWord, hfits.counterWord, hfits.counterSeparator, hfits.secondAccountWord,
      Verb.counterpartyBlock]
  · rw [hsecond] at hsuffix ⊢
    refine List.IsInfix.trans ?_ hsuffix.isInfix
    exact ⟨[], sentence.tail, rfl⟩

private theorem Sentence.Fits.exists_fits_of_repeatsClosing {found : Sentence} (hfound : found.Fits)
    (hfirst : found.firstId = found.forWord) (hrepeats : found.RepeatsClosing)
    (executeBy : Option Text) :
    ∃ sentence : Sentence, sentence.Fits ∧
      sentence.instruction executeBy = found.instruction executeBy ∧
      sentence.words = found.opening ++ found.closing := by
  obtain ⟨block, hblock, before, after, hinfix⟩ := hrepeats
  simp only [Verb.counterpartyBlock, List.map_eq_cons_iff, List.map_eq_nil_iff] at hblock
  obtain ⟨forWord, _, rfl, hfor, counterWord, _, rfl, hcounter, counterSeparator, _, rfl,
    hseparator, accountWord, _, rfl, haccount, rfl⟩ := hblock
  refine ⟨{ found with
    secondFiller := found.counterWord :: found.counterSeparator :: found.secondAccountWord :: before
    forWord, counterWord, counterSeparator, secondAccountWord := accountWord, tail := after },
    { hfound with
      forWord := hfor, counterWord := hcounter, counterSeparator := hseparator
      secondAccountWord := haccount }, rfl, ?_⟩
  simp only [words, opening, heading, closing, hfirst, ← hinfix]
  simp

/-- A match fits the layout unless FOR was taken for the first id; then it fits only if the words
from FOR to the second id are repeated. -/
theorem Match.matched_fits_iff {written : List Text} {executeBy : Option Text}
    {instruction : Instruction}
    (hmatch : Match.ofTokens (.ofWritten written) executeBy = .ok ⟨instruction, none⟩) :
    ∃ found : Sentence, found.WellFormed ∧ instruction = found.instruction executeBy ∧
      ((upper found.firstId ≠ forKeyword ∧ written = found.words) ∨
        (found.firstId = found.forWord ∧ written = found.opening ++ found.closing)) ∧
      ((∃ sentence : Sentence, sentence.Fits ∧ instruction = sentence.instruction executeBy ∧
          written = sentence.words) ↔
        upper found.firstId ≠ forKeyword ∨ found.RepeatsClosing) := by
  obtain ⟨verb, amount, currency, s, f, firstId, secondId, hreads, rfl⟩ :=
    Match.ofTokens_eq_matched_iff.mp hmatch
  obtain ⟨found, hfound, hinstruction, hwritten⟩ := hreads.exists_sentence executeBy
  refine ⟨found, hfound, hinstruction.symm, hwritten, ?_⟩
  rw [← hinstruction]
  rcases hwritten with ⟨hfirst, rfl⟩ | ⟨hfirst, rfl⟩
  · constructor
    · intro _
      exact .inl hfirst
    · intro _
      exact ⟨found, hfound.toFits, rfl, rfl⟩
  · constructor
    · intro hparts
      obtain ⟨sentence, hfits, heq, hwords⟩ := hparts
      obtain ⟨hverb, _, hsecond⟩ := Instruction.ofSecondId_inj heq
      exact .inr (hfound.repeatsClosing_of_fits hfits hverb hsecond hwords)
    · intro hcases
      rcases hcases with hne | hrepeats
      · rw [hfirst] at hne
        exact absurd hfound.forWord hne
      · obtain ⟨sentence, hfits, heq, hwords⟩ :=
          hfound.exists_fits_of_repeatsClosing hfirst hrepeats executeBy
        exact ⟨sentence, hfits, heq.symm, hwords.symm⟩

theorem Match.matched_fits_credit :
    Match.ofTokens (.ofWritten ["credit", "007", "usd", "kindly", "TO", "ACCOUNT", "a-1", "now",
        "FOR", "DEBIT", "from", "Account", "b.2", "thanks"]) none =
      .ok ⟨.ofSecondId .credit none 7 "USD" "a-1" "b.2", none⟩ ∧
    ∃ sentence : Sentence, sentence.Fits ∧
      .ofSecondId .credit none 7 "USD" "a-1" "b.2" = sentence.instruction none ∧
      (["credit", "007", "usd", "kindly", "TO", "ACCOUNT", "a-1", "now", "FOR", "DEBIT", "from",
        "Account", "b.2", "thanks"] : List Text) = sentence.words := by
  have hmatch : Match.ofTokens (.ofWritten ["credit", "007", "usd", "kindly", "TO", "ACCOUNT",
      "a-1", "now", "FOR", "DEBIT", "from", "Account", "b.2", "thanks"]) none =
        .ok ⟨.ofSecondId .credit none 7 "USD" "a-1" "b.2", none⟩ :=
    rfl
  obtain ⟨found, _, hinstruction, _, hfits⟩ := Match.matched_fits_iff hmatch
  obtain ⟨_, hfirst, _⟩ := Instruction.ofSecondId_inj hinstruction
  refine ⟨hmatch, hfits.mpr (.inl ?_)⟩
  rw [← hfirst]
  decide

/-- An instruction without a first id is matched: FOR is taken for the id. -/
theorem Match.matched_without_first_id :
    Match.ofTokens (.ofWritten ["DEBIT", "100", "NGN", "FROM", "ACCOUNT", "FOR", "CREDIT", "TO",
        "ACCOUNT", "A2"]) none =
      .ok ⟨.ofSecondId .debit none 100 "NGN" "FOR" "A2", none⟩ ∧
    ¬ ∃ sentence : Sentence, sentence.Fits ∧
      .ofSecondId .debit none 100 "NGN" "FOR" "A2" = sentence.instruction none ∧
      (["DEBIT", "100", "NGN", "FROM", "ACCOUNT", "FOR", "CREDIT", "TO", "ACCOUNT", "A2"] :
        List Text) = sentence.words := by
  refine ⟨rfl, ?_⟩
  intro hparts
  obtain ⟨sentence, _, _, hwords⟩ := hparts
  have hlength := congrArg List.length hwords
  simp [Sentence.words, Sentence.opening, Sentence.heading, Sentence.closing] at hlength
  omega

end Remittance
