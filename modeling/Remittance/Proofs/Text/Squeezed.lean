import Remittance.Proofs.Text.Words
import Remittance.Reading

namespace Remittance

open Remittance.Text

namespace Text

structure IsSqueezed (text : Text) : Prop where
  head : ∀ c ∈ text.head?, c ≠ .scalar ' '
  last : ∀ c ∈ text.getLast?, c ≠ .scalar ' '
  single : ¬ [.scalar ' ', .scalar ' '] <:+: text
  spaces : ∀ c ∈ text, isBlank c → c = .scalar ' '

private theorem IsWord.space_not_mem {word : Text} (h : IsWord word) : .scalar ' ' ∉ word := by
  intro hspace
  have := h.not_isBlank _ hspace
  rw [isBlank_space] at this
  contradiction

private theorem IsWord.isSqueezed {word : Text} (h : IsWord word) : IsSqueezed word where
  head := fun c hc heq => h.space_not_mem (heq ▸ List.mem_of_mem_head? hc)
  last := fun c hc heq => h.space_not_mem (heq ▸ List.mem_of_mem_getLast? hc)
  single := fun hdouble => h.space_not_mem (hdouble.subset List.mem_cons_self)
  spaces := by
    intro c hc hblank
    rw [h.not_isBlank c hc] at hblank
    contradiction

private theorem not_double_append {word rest : Text} (hword : .scalar ' ' ∉ word)
    (hhead : ∀ c ∈ rest.head?, c ≠ .scalar ' ')
    (hsingle : ¬ [.scalar ' ', .scalar ' '] <:+: rest) :
    ¬ [.scalar ' ', .scalar ' '] <:+: word ++ .scalar ' ' :: rest := by
  induction word with
  | nil =>
      rw [List.nil_append, List.infix_cons_iff, List.cons_prefix_cons]
      intro hdouble
      rcases hdouble with ⟨_, tail, rfl⟩ | hdouble
      · exact hhead (.scalar ' ') rfl rfl
      · exact hsingle hdouble
  | cons c word ih =>
      rw [List.cons_append, List.infix_cons_iff, List.cons_prefix_cons]
      intro hdouble
      rcases hdouble with ⟨rfl, _⟩ | hdouble
      · exact hword List.mem_cons_self
      · exact ih (fun hmem => hword (List.mem_cons_of_mem c hmem)) hdouble

private theorem IsSqueezed.cons_word {word rest : Text} (hword : IsWord word)
    (hrest : IsSqueezed rest)
    (hne : rest ≠ []) : IsSqueezed (word ++ .scalar ' ' :: rest) where
  head := by
    intro c hc
    rw [List.head?_append, List.head?_eq_some_head hword.ne_nil, Option.some_or] at hc
    obtain rfl := Option.some.inj hc
    exact fun heq => hword.space_not_mem (heq ▸ List.head_mem hword.ne_nil)
  last := by
    intro c hc
    rw [List.getLast?_append, List.getLast?_cons, List.getLast?_eq_some_getLast hne] at hc
    exact hrest.last c (by rw [List.getLast?_eq_some_getLast hne]; exact hc)
  single := not_double_append hword.space_not_mem hrest.head hrest.single
  spaces := by
    intro c hc hblank
    rcases List.mem_append.mp hc with hmem | hmem
    · exact hword.isSqueezed.spaces c hmem hblank
    · rcases List.mem_cons.mp hmem with rfl | hmem
      · rfl
      · exact hrest.spaces c hmem hblank

private theorem isSqueezed_join {pieces : List Text} (h : ∀ piece ∈ pieces, IsWord piece) :
    IsSqueezed (join pieces) := by
  induction pieces with
  | nil => exact ⟨by simp, by simp, by simp, by simp⟩
  | cons word pieces ih =>
      obtain ⟨hword, hpieces⟩ := List.forall_mem_cons.mp h
      cases pieces with
      | nil => simpa using hword.isSqueezed
      | cons next pieces =>
          rw [join_cons_cons]
          refine .cons_word hword (ih hpieces) ?_
          intro hnil
          have := words_join hpieces
          rw [hnil] at this
          cases this

theorem isSqueezed_squeeze (text : Text) : IsSqueezed (squeeze text) :=
  isSqueezed_join fun _ h => isWord_of_mem_words h

theorem squeeze_squeeze (text : Text) : squeeze (squeeze text) = squeeze text :=
  congrArg join words_squeeze

def LetterAt (text : Text) (i : Nat) : Prop :=
  ∃ c, text[i]? = some c ∧ isBlank c = false

/-- A stretch of a text with no blank in it, and none to be added at either end. -/
structure IsMaximalRun (text : Text) (start stop : Nat) : Prop where
  ordered : start < stop
  letters : ∀ i, start ≤ i → i < stop → LetterAt text i
  before : ∀ i, i + 1 = start → ¬ LetterAt text i
  after : ¬ LetterAt text stop

/-- The places of all the maximal runs of a text, from left to right. -/
structure AreMaximalRuns (text : Text) (places : List (Nat × Nat)) : Prop where
  sorted : places.Pairwise fun place next => place.2 < next.1
  mem_iff : ∀ place, place ∈ places ↔ IsMaximalRun text place.1 place.2

private theorem letterAt_append_of_lt {front : Text} {i : Nat} (h : i < front.length)
    (rest : Text) :
    LetterAt (front ++ rest) i ↔ LetterAt front i := by
  rw [LetterAt, LetterAt, List.getElem?_append_left h]

private theorem letterAt_append_add (front rest : Text) (i : Nat) :
    LetterAt (front ++ rest) (front.length + i) ↔ LetterAt rest i := by
  rw [LetterAt, LetterAt, List.getElem?_append_right (Nat.le_add_right _ i),
    Nat.add_sub_cancel_left]

private theorem not_letterAt_of_forall_isBlank {gap : Text} (h : ∀ c ∈ gap, isBlank c) (i : Nat) :
    ¬ LetterAt gap i := by
  intro hletter
  obtain ⟨c, hc, hblank⟩ := hletter
  rw [h c (List.mem_of_getElem? hc)] at hblank
  contradiction

private theorem IsWord.letterAt {word : Text} (h : IsWord word) {i : Nat} (hi : i < word.length) :
    LetterAt word i :=
  ⟨word[i], List.getElem?_eq_getElem hi, h.not_isBlank _ (List.getElem_mem hi)⟩

private theorem not_letterAt_zero {rest : Text} (h : ∀ c ∈ rest.head?, isBlank c) :
    ¬ LetterAt rest 0 := by
  intro hletter
  obtain ⟨c, hc, hblank⟩ := hletter
  rw [h c (by rwa [List.head?_eq_getElem?])] at hblank
  contradiction

section Append

variable {gap word rest : Text} {start stop i j : Nat}

private theorem not_letterAt_gap (hgap : ∀ c ∈ gap, isBlank c) (word rest : Text)
    (hi : i < gap.length) :
    ¬ LetterAt (gap ++ word ++ rest) i := by
  rw [List.append_assoc, letterAt_append_of_lt hi]
  exact not_letterAt_of_forall_isBlank hgap i

private theorem letterAt_word (hword : IsWord word) (gap rest : Text) (hle : gap.length ≤ i)
    (hlt : i < (gap ++ word).length) : LetterAt (gap ++ word ++ rest) i := by
  obtain ⟨k, rfl⟩ := Nat.exists_eq_add_of_le hle
  rw [List.length_append] at hlt
  rw [letterAt_append_of_lt (by rw [List.length_append]; exact hlt), letterAt_append_add]
  exact hword.letterAt (Nat.lt_of_add_lt_add_left hlt)

private theorem not_letterAt_length (hrest : ∀ c ∈ rest.head?, isBlank c) (front : Text) :
    ¬ LetterAt (front ++ rest) front.length :=
  fun h => not_letterAt_zero hrest ((letterAt_append_add front rest 0).mp h)

private theorem isMaximalRun_word (hgap : ∀ c ∈ gap, isBlank c) (hword : IsWord word)
    (hrest : ∀ c ∈ rest.head?, isBlank c) :
    IsMaximalRun (gap ++ word ++ rest) gap.length (gap ++ word).length where
  ordered := by
    have := List.length_pos_iff.mpr hword.ne_nil
    rw [List.length_append]
    omega
  letters := fun _ => letterAt_word hword gap rest
  before := fun i hi => not_letterAt_gap hgap word rest (by omega)
  after := not_letterAt_length hrest (gap ++ word)

theorem IsMaximalRun.eq_word (h : IsMaximalRun (gap ++ word ++ rest) start stop)
    (hgap : ∀ c ∈ gap, isBlank c) (hword : IsWord word) (hrest : ∀ c ∈ rest.head?, isBlank c)
    (hlt : start < (gap ++ word).length) :
    start = gap.length ∧ stop = (gap ++ word).length := by
  have hordered := h.ordered
  have hfirst := h.letters start (Nat.le_refl start) hordered
  have hle : gap.length ≤ start :=
    Nat.le_of_not_lt fun hlow => not_letterAt_gap hgap word rest hlow hfirst
  constructor
  · refine Nat.le_antisymm (Nat.le_of_not_lt fun hlate => ?_) hle
    exact h.before (start - 1) (by omega) (letterAt_word hword gap rest (by omega) (by omega))
  · apply Nat.le_antisymm
    · refine Nat.le_of_not_lt fun hlong => not_letterAt_length hrest (gap ++ word) ?_
      exact h.letters _ (Nat.le_of_lt hlt) hlong
    · refine Nat.le_of_not_lt fun hshort => h.after ?_
      exact letterAt_word hword gap rest (by omega) hshort

theorem isMaximalRun_append_add_iff (front : Text) (hrest : ∀ c ∈ rest.head?, isBlank c) :
    IsMaximalRun (front ++ rest) (front.length + i) (front.length + j) ↔ IsMaximalRun rest i j := by
  have hletter := letterAt_append_add front rest
  constructor
  · intro h
    refine ⟨Nat.lt_of_add_lt_add_left h.ordered, ?_, ?_, fun hj => h.after ((hletter j).mpr hj)⟩
    · intro k hik hkj
      exact (hletter k).mp (h.letters _ (by omega) (by omega))
    · intro k hk hkletter
      exact h.before _ (by omega) ((hletter k).mpr hkletter)
  · intro h
    refine ⟨Nat.add_lt_add_left h.ordered _, ?_, ?_, fun hj => h.after ((hletter j).mp hj)⟩
    · intro k hik hkj
      obtain ⟨k, rfl⟩ := Nat.exists_eq_add_of_le (Nat.le_trans (Nat.le_add_right _ i) hik)
      exact (hletter k).mpr (h.letters k (by omega) (by omega))
    · intro k hk
      -- The rest starts with a blank, so no run of it starts where the front ends.
      cases i with
      | zero => exact absurd (h.letters 0 (Nat.le_refl 0) h.ordered) (not_letterAt_zero hrest)
      | succ i =>
          obtain rfl : k = front.length + i := by omega
          exact fun hkletter => h.before i rfl ((hletter i).mp hkletter)

theorem isMaximalRun_append_iff (hgap : ∀ c ∈ gap, isBlank c) (hword : IsWord word)
    (hrest : ∀ c ∈ rest.head?, isBlank c) :
    IsMaximalRun (gap ++ word ++ rest) start stop ↔
      (start = gap.length ∧ stop = (gap ++ word).length) ∨
      ∃ i j, start = (gap ++ word).length + i ∧ stop = (gap ++ word).length + j ∧
        IsMaximalRun rest i j := by
  constructor
  · intro h
    rcases Nat.lt_or_ge start (gap ++ word).length with hlt | hge
    · exact .inl (h.eq_word hgap hword hrest hlt)
    · obtain ⟨i, rfl⟩ := Nat.exists_eq_add_of_le hge
      obtain ⟨j, rfl⟩ := Nat.exists_eq_add_of_le (Nat.le_trans hge (Nat.le_of_lt h.ordered))
      exact .inr ⟨i, j, rfl, rfl, (isMaximalRun_append_add_iff _ hrest).mp h⟩
  · intro h
    rcases h with ⟨rfl, rfl⟩ | ⟨i, j, rfl, rfl, h⟩
    · exact isMaximalRun_word hgap hword hrest
    · exact (isMaximalRun_append_add_iff _ hrest).mpr h

end Append

private theorem extract_append_add (front rest : Text) (i j : Nat) :
    (front ++ rest).extract (front.length + i) (front.length + j) = rest.extract i j := by
  rw [List.extract_eq_take_drop, List.extract_eq_take_drop, List.drop_length_add_append,
    Nat.add_sub_add_left]

private theorem extract_word (gap word rest : Text) :
    (gap ++ word ++ rest).extract gap.length (gap ++ word).length = word := by
  rw [List.extract_eq_take_drop, List.append_assoc, List.drop_left, List.length_append,
    Nat.add_sub_cancel_left, List.take_left]

/-- The words that a text spells are its maximal runs. -/
theorem Spells.exists_maximalRuns {pieces : List Text} {text : Text} (h : Spells pieces text) :
    ∃ places, AreMaximalRuns text places ∧
      pieces = places.map fun place => text.extract place.1 place.2 := by
  induction h with
  | blank hgap =>
      refine ⟨[], ⟨.nil, fun place => iff_of_false (by simp) fun hrun => ?_⟩, rfl⟩
      exact not_letterAt_of_forall_isBlank hgap _ (hrun.letters _ (Nat.le_refl _) hrun.ordered)
  | @word gap word rest pieces hgap hword hrest tail ih =>
      obtain ⟨places, hplaces, rfl⟩ := ih
      let front := gap ++ word
      let shift : Nat × Nat → Nat × Nat :=
        fun place => (front.length + place.1, front.length + place.2)
      refine ⟨(gap.length, front.length) :: places.map shift, ⟨?_, ?_⟩, ?_⟩
      · rw [List.pairwise_cons, List.forall_mem_map, List.pairwise_map]
        constructor
        · intro place hplace
          have hrun := (hplaces.mem_iff place).mp hplace
          have hpos : 0 < place.1 := by
            refine Nat.pos_of_ne_zero fun hzero => not_letterAt_zero hrest ?_
            exact hrun.letters 0 (by omega) (by have := hrun.ordered; omega)
          exact Nat.lt_add_of_pos_right hpos
        · exact hplaces.sorted.imp fun hlt => Nat.add_lt_add_left hlt _
      · intro place
        rw [isMaximalRun_append_iff hgap hword hrest, List.mem_cons, List.mem_map, Prod.ext_iff]
        apply or_congr Iff.rfl
        constructor
        · intro hshifted
          obtain ⟨inner, hinner, rfl⟩ := hshifted
          exact ⟨inner.1, inner.2, rfl, rfl, (hplaces.mem_iff inner).mp hinner⟩
        · intro hrun
          obtain ⟨i, j, hstart, hstop, hrun⟩ := hrun
          exact ⟨(i, j), (hplaces.mem_iff (i, j)).mpr hrun, Prod.ext hstart.symm hstop.symm⟩
      · rw [List.map_cons, List.map_map, extract_word]
        apply congrArg (word :: ·)
        apply List.map_congr_left
        intro place _
        exact (extract_append_add front rest place.1 place.2).symm

end Text

/-- Squeezing a text and cutting it at its spaces finds the words that blanks of any kind had cut
off: the maximal runs of the text, which are the words that it spells. -/
theorem squeeze_and_cut_agree (text : Text) :
    squeeze (squeeze text) = squeeze text ∧
    (squeeze text).IsSqueezed ∧
    (∃ places, text.AreMaximalRuns places ∧
      (Tokens.ofClause (squeeze text)).written =
        places.map fun place => text.extract place.1 place.2) ∧
    (Tokens.ofClause (squeeze text)).capitals =
      (Tokens.ofClause (squeeze text)).written.map upper ∧
    ∀ pieces, Spells pieces text ↔ (Tokens.ofClause (squeeze text)).written = pieces := by
  have hwritten : (Tokens.ofClause (squeeze text)).written = words text := runs_isSpace_squeeze
  rw [hwritten]
  exact ⟨squeeze_squeeze text, isSqueezed_squeeze text, (Spells.of_words text).exists_maximalRuns,
    congrArg (List.map upper) hwritten, fun _ => words_eq_iff_spells.symm⟩

end Remittance
