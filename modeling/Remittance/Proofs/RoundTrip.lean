import Remittance.Proofs.DateClause
import Remittance.Proofs.Sentence

namespace Remittance

open Remittance.Text

namespace Sentence

variable {sentence : Sentence}

private theorem words_eq_separator (sentence : Sentence) :
    sentence.words = sentence.heading ++ sentence.separator :: (sentence.firstAccountWord ::
      sentence.firstId :: (sentence.secondFiller ++ sentence.closing)) := by
  simp [words, opening]

private theorem words_eq_for (sentence : Sentence) :
    sentence.words = sentence.heading ++ sentence.separator :: ((sentence.firstAccountWord ::
      sentence.firstId :: sentence.secondFiller) ++ sentence.closing) := by
  simp [words, opening]

private theorem two_lt_length_heading (sentence : Sentence) : 2 < sentence.heading.length := by
  simp only [heading, List.length_cons]
  omega

private theorem WellFormed.heading_ne (h : sentence.WellFormed) {word : Text}
    (hword : word ∈ sentence.heading) :
    upper word ≠ sentence.verb.separator ∧ upper word ≠ forKeyword := by
  have hcurrencies : ∀ currency ∈ Token.supportedCurrencies,
      currency ≠ sentence.verb.separator ∧ currency ≠ forKeyword := by
    cases sentence.verb <;> decide
  simp only [heading, List.mem_cons] at hword
  rcases hword with rfl | rfl | rfl | hfiller
  · rw [h.verbWord]
    cases sentence.verb <;> decide
  · have hseparator : Numeral.isNumeral sentence.verb.separator = false := by
      cases sentence.verb <;> decide
    exact ⟨Numeral.upper_ne_of_isNumeral h.amount_isNumeral hseparator,
      Numeral.upper_ne_of_isNumeral h.amount_isNumeral (by decide)⟩
  · exact hcurrencies _ h.currency
  · exact ⟨h.filler_ne_separator word hfiller, h.filler_ne_for word hfiller⟩

private theorem WellFormed.idxOf?_separator (h : sentence.WellFormed) :
    (sentence.words.map upper).idxOf? sentence.verb.separator =
      some sentence.heading.length := by
  apply idxOf?_map_upper_eq_some_iff.mpr
  exact ⟨_, _, _, sentence.words_eq_separator, rfl, h.separator,
    fun word hword => (h.heading_ne hword).1⟩

private theorem WellFormed.idxOf?_for (h : sentence.WellFormed)
    (hfirst : upper sentence.firstId ≠ forKeyword) :
    (sentence.words.map upper).idxOf? forKeyword =
      some (sentence.heading.length + 3 + sentence.secondFiller.length) := by
  apply idxOf?_map_upper_eq_some_iff.mpr
  refine ⟨sentence.heading ++ sentence.separator :: sentence.firstAccountWord ::
    sentence.firstId :: sentence.secondFiller, sentence.forWord, sentence.closing.tail, ?_, ?_,
    h.forWord, ?_⟩
  · rw [words_eq_for, List.append_assoc]
    rfl
  · simp
    omega
  · intro word hword
    simp only [List.mem_append, List.mem_cons] at hword
    rcases hword with hheading | rfl | rfl | rfl | hfiller
    · exact (h.heading_ne hheading).2
    · rw [h.separator]
      exact sentence.verb.separator_ne_for
    · rw [h.firstAccountWord]
      decide
    · exact hfirst
    · exact h.secondFiller_ne_for word hfiller

private theorem drop_heading (sentence : Sentence) :
    sentence.words.drop sentence.heading.length = sentence.separator ::
      (sentence.firstAccountWord :: sentence.firstId ::
        (sentence.secondFiller ++ sentence.closing)) := by
  rw [words_eq_separator]
  exact List.drop_left

private theorem drop_words_before_for (sentence : Sentence) :
    sentence.words.drop (sentence.heading.length + 3 + sentence.secondFiller.length) =
      sentence.closing := by
  rw [words_eq_for, ← List.cons_append, ← List.append_assoc]
  apply List.drop_left'
  simp
  omega

private theorem WellFormed.readsSecondId (h : sentence.WellFormed)
    (hfirst : upper sentence.firstId ≠ forKeyword) :
    ReadsSecondId (.ofWritten sentence.words) sentence.verb (Numeral.value sentence.amount)
      (upper sentence.currency) sentence.heading.length
      (sentence.heading.length + 3 + sentence.secondFiller.length) sentence.firstId
      sentence.secondId where
  keyword := by simp [words, opening, heading, h.verbWord]
  enough := by simp [words, opening, heading]
  amountToken := by
    refine ⟨sentence.amount, by simp [words, opening, heading], ?_⟩
    exact Token.readAmount_eq_some_iff.mpr ⟨h.amount_isNumeral, h.amount_length, h.amount_pos, rfl⟩
  currencyToken := ⟨sentence.currency, by simp [words, opening, heading], rfl⟩
  supported := Token.isCurrency_upper.mpr h.currency
  separator := h.idxOf?_separator
  forWord := h.idxOf?_for hfirst
  late := sentence.two_lt_length_heading
  ordered := by omega
  accountWord := by
    rw [Tokens.capitals_ofWritten, List.getElem?_map, ← List.getElem?_drop, drop_heading]
    exact congrArg some h.firstAccountWord
  firstToken := by
    rw [Tokens.written_ofWritten, ← List.getElem?_drop, drop_heading]
    rfl
  firstValid := h.firstId
  block := by
    rw [Tokens.capitals_ofWritten, ← List.drop_drop, ← List.map_drop, drop_words_before_for]
    simp [closing, Verb.counterpartyBlock, h.counterWord, h.counterSeparator,
      h.secondAccountWord]
  secondToken := by
    rw [Tokens.written_ofWritten, ← List.getElem?_drop, drop_words_before_for]
    rfl
  secondValid := h.secondId

end Sentence

inductive DateClause : List Text → Option Text → Prop
  | absent : DateClause [] none
  | present {on date : Text} {after : List Text} (hon : upper on = onKeyword) :
      DateClause (on :: date :: after) (some date)

private theorem not_opensDate_of_forall {pieces : List Text} {place : Nat}
    (hon : ∀ word ∈ (pieces.take (place + 1)).tail, upper word ≠ onKeyword) :
    ¬ OpensDate pieces place := by
  intro hparts
  obtain ⟨hpos, hlength, hword⟩ := hparts
  obtain ⟨word, hget, hupper⟩ := Option.map_eq_some_iff.mp hword
  have htail : (pieces.take (place + 1)).tail[place - 1]? = some word := by
    rw [List.getElem?_tail, List.getElem?_take_of_lt (by omega), Nat.sub_add_cancel hpos, hget]
  exact hon word (List.mem_of_getElem? htail) hupper

private theorem firstOpens_of_forall {main after : List Text} {on date : Text} (hmain : main ≠ [])
    (hmainOn : ∀ word ∈ main.tail, upper word ≠ onKeyword) (hon : upper on = onKeyword) :
    FirstOpens (main ++ on :: date :: after) main.length where
  opens := by
    refine ⟨List.length_pos_iff.mpr hmain, by simp, ?_⟩
    simpa using hon
  first := by
    intro earlier hearlier
    apply not_opensDate_of_forall
    rw [List.take_append_of_le_length hearlier]
    intro word hword
    exact hmainOn word ((List.take_sublist _ main).tail.subset hword)

private theorem growth_join {pieces : List Text}
    (h : ∀ piece ∈ pieces, ∀ c ∈ piece, (capitals c).length = 1) : growth (join pieces) = 0 := by
  have hlength : (upper (join pieces)).length = (join pieces).length := by
    apply length_upper_of_forall_length
    intro c hc
    rcases mem_join hc with rfl | ⟨piece, hpiece, hmem⟩
    · rw [capitals_of_isBlank isBlank_space]
      rfl
    · exact h piece hpiece c hmem
  rw [growth, hlength, Nat.sub_self]

theorem DateClause.ofText_of_tail {main clause : List Text} {executeBy : Option Text} {text : Text}
    (h : DateClause clause executeBy) (hmain : main ≠ [])
    (hon : ∀ word ∈ main.tail, upper word ≠ onKeyword)
    (hcapitals : ∀ word ∈ main, ∀ c ∈ word, (capitals c).length = 1)
    (hwords : words text = main ++ clause) :
    (Reading.ofText text).tokens = .ofWritten main ∧
      (Reading.ofText text).clause.executeBy = executeBy := by
  have htokens : (Reading.ofText text).tokens =
      .ofWritten (Reading.ofText text).tokens.written := rfl
  cases h with
  | absent =>
      rw [List.append_nil] at hwords
      have hnone : ∀ place, ¬ OpensDate (words text) place := by
        intro place
        apply not_opensDate_of_forall
        rw [hwords]
        exact fun word hword => hon word ((List.take_sublist _ main).tail.subset hword)
      obtain ⟨hwritten, hdate⟩ := Reading.ofText_whole hnone
      rw [htokens, hwritten, hwords]
      exact ⟨rfl, hdate⟩
  | @present on date after hdateOn =>
      have hfirst : FirstOpens (words text) main.length := by
        rw [hwords]
        exact firstOpens_of_forall hmain hon hdateOn
      have hcuts : CutsInPlace (words text) := by
        apply hfirst.cutsInPlace_iff.mpr
        rw [hwords, List.take_left]
        exact .inl (growth_join hcapitals)
      obtain ⟨hwritten, hdate⟩ :=
        hfirst.cutAtWord_iff.mp ((Reading.cutAtWord_iff_of_firstOpens hfirst).mpr hcuts)
      rw [htokens, hwritten, hdate, hwords, List.take_left]
      exact ⟨rfl, by simp⟩

theorem DateClause.ofText {main clause : List Text} {executeBy : Option Text} {text : Text}
    (h : DateClause clause executeBy) (hmain : main ≠ [])
    (hon : ∀ word ∈ main, upper word ≠ onKeyword)
    (hcapitals : ∀ word ∈ main, ∀ c ∈ word, (capitals c).length = 1)
    (hwords : words text = main ++ clause) :
    (Reading.ofText text).tokens = .ofWritten main ∧
      (Reading.ofText text).clause.executeBy = executeBy :=
  h.ofText_of_tail hmain (fun word hword => hon word (List.mem_of_mem_tail hword)) hcapitals hwords

/-- A sentence is read back from every text that spells it, with or without a date clause. -/
theorem Sentence.read_back {sentence : Sentence} {clause : List Text} {executeBy : Option Text}
    {text : Text} (hsentence : sentence.WellFormed)
    (hfirst : upper sentence.firstId ≠ forKeyword)
    (hon : ∀ word ∈ sentence.words, upper word ≠ onKeyword)
    (hcapitals : ∀ word ∈ sentence.words, ∀ c ∈ word, (capitals c).length = 1)
    (hclause : DateClause clause executeBy) (htext : Spells (sentence.words ++ clause) text) :
    ∃ instruction,
      Match.ofTokens (Reading.ofText text).tokens (Reading.ofText text).clause.executeBy =
        .ok ⟨instruction, none⟩ ∧
      instruction.kind = some sentence.verb.keyword ∧
      instruction.amount = some (Numeral.value sentence.amount : Int) ∧
      instruction.currency = some (upper sentence.currency) ∧
      instruction.accountOf sentence.verb = some sentence.firstId ∧
      instruction.accountOf sentence.verb.counter = some sentence.secondId ∧
      instruction.executeBy = executeBy := by
  have hwords : sentence.words ≠ [] := by simp [words]
  obtain ⟨htokens, hdate⟩ := hclause.ofText hwords hon hcapitals htext.words_eq
  refine ⟨sentence.instruction executeBy, ?_, ?_⟩
  · rw [htokens, hdate]
    apply Match.ofTokens_eq_matched_iff.mpr
    exact ⟨_, _, _, _, _, _, _, hsentence.readsSecondId hfirst, rfl⟩
  · simp [instruction]

/-- The ids may be keywords, and the blanks of any kind. -/
theorem Sentence.read_back_keyword_ids :
    let text : Text := "debit\t0100\u00a0ngn from  Account FROM please\nfor credit To account TO ON day"
    ∃ instruction,
      Match.ofTokens (Reading.ofText text).tokens (Reading.ofText text).clause.executeBy =
        .ok ⟨instruction, none⟩ ∧
      instruction.kind = some "DEBIT" ∧ instruction.amount = some 100 ∧
      instruction.currency = some "NGN" ∧ instruction.debitAccount = some "FROM" ∧
      instruction.creditAccount = some "TO" ∧ instruction.executeBy = some "day" := by
  intro text
  have hsentence : Sentence.WellFormed {
      verb := .debit, verbWord := "debit", amount := "0100", currency := "ngn", filler := []
      separator := "from", firstAccountWord := "Account", firstId := "FROM"
      secondFiller := ["please"], forWord := "for", counterWord := "credit"
      counterSeparator := "To", secondAccountWord := "account", secondId := "TO", tail := [] } := by
    decide
  exact Sentence.read_back hsentence (by decide) (by decide) (by decide) (.present rfl)
    (words_eq_iff_spells.mp rfl)

end Remittance
