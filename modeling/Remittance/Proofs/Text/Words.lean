import Remittance.Proofs.Text.Capitals
import Remittance.Text.Field

namespace Remittance.Text

private theorem fields_append_cons {sep : CodePoint → Bool} {c : CodePoint} (hc : sep c)
    (left right : Text) :
    fields sep (left ++ c :: right) = fields sep left ++ fields sep right := by
  induction left with
  | nil => exact fields_cons_of_sep hc right
  | cons d left ih =>
      rw [List.cons_append, fields_cons, fields_cons, ih]
      split
      · rfl
      · cases hleft : fields sep left with
        | nil => exact absurd hleft (fields_ne_nil sep left)
        | cons first rest => rfl

theorem exists_of_fields_eq_cons_cons {sep : CodePoint → Bool} {text first next : Text}
    {rest : List Text} (h : fields sep text = first :: next :: rest) :
    ∃ c tail, sep c ∧ text = first ++ c :: tail ∧ fields sep tail = next :: rest := by
  induction text generalizing first with
  | nil => cases h
  | cons d text ih =>
      cases hd : sep d with
      | true =>
          rw [fields_cons_of_sep hd] at h
          obtain ⟨rfl, htail⟩ := List.cons.inj h
          exact ⟨d, text, hd, rfl, htail⟩
      | false =>
          rw [fields_cons_of_not_sep hd] at h
          cases hfields : fields sep text with
          | nil => exact absurd hfields (fields_ne_nil sep text)
          | cons head others =>
              rw [hfields, List.modifyHead_cons] at h
              obtain ⟨rfl, rfl⟩ := List.cons.inj h
              obtain ⟨c, tail, hc, rfl, htail⟩ := ih hfields
              exact ⟨c, tail, hc, rfl, htail⟩

theorem eq_of_fields_eq_singleton {sep : CodePoint → Bool} {text field : Text}
    (h : fields sep text = [field]) : text = field := by
  induction text generalizing field with
  | nil => exact (List.cons.inj h).1
  | cons d text ih =>
      cases hd : sep d with
      | true =>
          rw [fields_cons_of_sep hd] at h
          exact absurd (List.cons.inj h).2 (fields_ne_nil sep text)
      | false =>
          rw [fields_cons_of_not_sep hd] at h
          cases hfields : fields sep text with
          | nil => exact absurd hfields (fields_ne_nil sep text)
          | cons head others =>
              rw [hfields, List.modifyHead_cons] at h
              obtain ⟨rfl, rfl⟩ := List.cons.inj h
              rw [ih hfields]

private theorem fields_congr {sep other : CodePoint → Bool} {text : Text}
    (h : ∀ c ∈ text, sep c = other c) : fields sep text = fields other text := by
  induction text with
  | nil => rfl
  | cons c text ih =>
      rw [fields_cons, fields_cons, h c List.mem_cons_self,
        ih fun d hd => h d (List.mem_cons_of_mem c hd)]

theorem runs_append_cons {sep : CodePoint → Bool} {c : CodePoint} (hc : sep c)
    (left right : Text) : runs sep (left ++ c :: right) = runs sep left ++ runs sep right := by
  simp [runs, fields_append_cons hc]

private theorem runs_of_forall_sep {sep : CodePoint → Bool} {gap : Text} (h : ∀ c ∈ gap, sep c) :
    runs sep gap = [] := by
  induction gap with
  | nil => rfl
  | cons c gap ih =>
      rw [runs_cons_of_sep (h c List.mem_cons_self)]
      exact ih fun d hd => h d (List.mem_cons_of_mem c hd)

private theorem runs_append_left {sep : CodePoint → Bool} {gap : Text} (h : ∀ c ∈ gap, sep c)
    (text : Text) : runs sep (gap ++ text) = runs sep text := by
  induction gap with
  | nil => rfl
  | cons c gap ih =>
      rw [List.cons_append, runs_cons_of_sep (h c List.mem_cons_self)]
      exact ih fun d hd => h d (List.mem_cons_of_mem c hd)

private theorem runs_append_right {sep : CodePoint → Bool} {gap : Text} (h : ∀ c ∈ gap, sep c)
    (text : Text) : runs sep (text ++ gap) = runs sep text := by
  cases gap with
  | nil => rw [List.append_nil]
  | cons c gap =>
      rw [runs_append_cons (h c List.mem_cons_self),
        runs_of_forall_sep fun d hd => h d (List.mem_cons_of_mem c hd), List.append_nil]

structure IsWord (word : Text) : Prop where
  ne_nil : word ≠ []
  not_isBlank : ∀ c ∈ word, isBlank c = false

theorem isWord_of_mem_words {text word : Text} (h : word ∈ words text) : IsWord word :=
  ⟨ne_nil_of_mem_runs h, fun _ hc => not_sep_of_mem_runs h hc⟩

theorem IsWord.words_eq {word : Text} (h : IsWord word) : words word = [word] :=
  runs_of_no_sep h.ne_nil h.not_isBlank

theorem IsWord.upper {word : Text} (h : IsWord word) : IsWord (upper word) :=
  ⟨upper_ne_nil h.ne_nil, fun _ hd => not_isBlank_of_mem_upper h.not_isBlank hd⟩

/-- A text spells words when they stand in it in that order, with blanks between each two of them
and perhaps before the first and after the last. -/
inductive Spells : List Text → Text → Prop
  | blank {gap : Text} (hgap : ∀ c ∈ gap, isBlank c) : Spells [] gap
  | word {gap word rest : Text} {words : List Text} (hgap : ∀ c ∈ gap, isBlank c)
      (hword : IsWord word) (hrest : ∀ c ∈ rest.head?, isBlank c) (tail : Spells words rest) :
      Spells (word :: words) (gap ++ word ++ rest)

namespace Spells

theorem words_eq {pieces : List Text} {text : Text} (h : Spells pieces text) :
    words text = pieces := by
  induction h with
  | blank hgap => exact runs_of_forall_sep hgap
  | @word gap word rest pieces hgap hword hrest tail ih =>
      rw [List.append_assoc, words, runs_append_left hgap]
      cases rest with
      | nil =>
          have hpieces : pieces = [] := ih.symm
          rw [List.append_nil, hpieces]
          exact hword.words_eq
      | cons c rest =>
          have hc : isBlank c := hrest c rfl
          rw [runs_append_cons hc, ← ih, words, runs_cons_of_sep hc]
          exact congrArg (· ++ runs isBlank rest) hword.words_eq

private theorem cons_blank {pieces : List Text} {text : Text} {c : CodePoint} (hc : isBlank c)
    (h : Spells pieces text) : Spells pieces (c :: text) := by
  cases h with
  | blank hgap => exact .blank (List.forall_mem_cons.mpr ⟨hc, hgap⟩)
  | word hgap hword hrest tail =>
      exact .word (List.forall_mem_cons.mpr ⟨hc, hgap⟩) hword hrest tail

private theorem without_gap {word rest : Text} {pieces : List Text} (hword : IsWord word)
    (hrest : ∀ c ∈ rest.head?, isBlank c) (tail : Spells pieces rest) :
    Spells (word :: pieces) (word ++ rest) := by
  have := Spells.word (List.forall_mem_nil (isBlank ·)) hword hrest tail
  rwa [List.nil_append] at this

private theorem cons_letter {pieces : List Text} {text : Text} {c : CodePoint}
    (hc : isBlank c = false)
    (h : Spells pieces text) : ∃ longer, Spells longer (c :: text) := by
  have hletter : IsWord [c] := ⟨by simp, by simpa using hc⟩
  cases h with
  | blank hgap =>
      refine ⟨[[c]], without_gap hletter ?_ (.blank hgap)⟩
      intro d hd
      exact hgap d (List.mem_of_head? hd)
  | @word gap word rest pieces hgap hword hrest tail =>
      -- Without a gap the letter lengthens the first word; with one it is a word of its own.
      cases gap with
      | nil =>
          have hlonger : IsWord (c :: word) :=
            ⟨by simp, List.forall_mem_cons.mpr ⟨hc, hword.not_isBlank⟩⟩
          exact ⟨(c :: word) :: pieces, without_gap hlonger hrest tail⟩
      | cons d gap =>
          refine ⟨[c] :: word :: pieces, without_gap hletter ?_ (.word hgap hword hrest tail)⟩
          simpa using hgap d List.mem_cons_self

theorem of_words (text : Text) : Spells (words text) text := by
  have hspelled : ∃ pieces, Spells pieces text := by
    induction text with
    | nil => exact ⟨[], .blank (by simp)⟩
    | cons c text ih =>
        obtain ⟨pieces, h⟩ := ih
        cases hc : isBlank c with
        | true => exact ⟨pieces, h.cons_blank hc⟩
        | false => exact h.cons_letter hc
  obtain ⟨pieces, h⟩ := hspelled
  rwa [h.words_eq]

end Spells

theorem mem_of_mem_words {text word : Text} (hword : word ∈ words text) {c : CodePoint}
    (hc : c ∈ word) : c ∈ text := by
  have general : ∀ {pieces : List Text} {text : Text}, Spells pieces text →
      ∀ word ∈ pieces, c ∈ word → c ∈ text := by
    intro pieces text hspells word hword hc
    induction hspells with
    | blank hgap => cases hword
    | word hgap hfirst hrest tail ih =>
        rw [List.mem_append, List.mem_append]
        rcases List.mem_cons.mp hword with rfl | htail
        · exact .inl (.inr hc)
        · exact .inr (ih htail)
  exact general (.of_words text) word hword hc

theorem words_eq_iff_spells {pieces : List Text} {text : Text} :
    words text = pieces ↔ Spells pieces text :=
  ⟨fun h => h ▸ Spells.of_words text, Spells.words_eq⟩

theorem isBlank_space : isBlank (.scalar ' ') := by decide

@[simp] theorem join_nil : join [] = [] := rfl

@[simp] theorem join_singleton (word : Text) : join [word] = word := by
  simp [join]

theorem join_cons_cons (word next : Text) (pieces : List Text) :
    join (word :: next :: pieces) = word ++ .scalar ' ' :: join (next :: pieces) := by
  simp [join, List.intercalate_cons_cons]

theorem join_append {left right : List Text} (hleft : left ≠ []) (hright : right ≠ []) :
    join (left ++ right) = join left ++ .scalar ' ' :: join right := by
  induction left with
  | nil => exact absurd rfl hleft
  | cons word left ih =>
      cases left with
      | nil =>
          obtain ⟨next, pieces, rfl⟩ := List.exists_cons_of_ne_nil hright
          rw [join_singleton]
          exact join_cons_cons word next pieces
      | cons next left =>
          have := ih (by simp)
          rw [List.cons_append, List.cons_append, join_cons_cons, join_cons_cons,
            List.append_assoc, List.cons_append, ← this]
          rfl

private theorem spells_join {pieces : List Text} (h : ∀ piece ∈ pieces, IsWord piece) :
    Spells pieces (join pieces) := by
  induction pieces with
  | nil => exact .blank (by simp)
  | cons word pieces ih =>
      have hword := h word List.mem_cons_self
      have tail := ih fun piece hpiece => h piece (List.mem_cons_of_mem word hpiece)
      cases pieces with
      | nil =>
          have := Spells.without_gap hword (by simp) tail
          rw [join_singleton]
          rwa [join_nil, List.append_nil] at this
      | cons next pieces =>
          rw [join_cons_cons]
          exact .without_gap hword (by simp [isBlank_space]) (tail.cons_blank isBlank_space)

theorem words_join {pieces : List Text} (h : ∀ piece ∈ pieces, IsWord piece) :
    words (join pieces) = pieces :=
  (spells_join h).words_eq

theorem mem_join {pieces : List Text} {c : CodePoint} (h : c ∈ join pieces) :
    c = .scalar ' ' ∨ ∃ piece ∈ pieces, c ∈ piece := by
  induction pieces with
  | nil => simp at h
  | cons word pieces ih =>
      cases pieces with
      | nil => exact .inr ⟨word, List.mem_cons_self, by simpa using h⟩
      | cons next pieces =>
          rw [join_cons_cons, List.mem_append, List.mem_cons] at h
          rcases h with hword | rfl | htail
          · exact .inr ⟨word, List.mem_cons_self, hword⟩
          · exact .inl rfl
          · rcases ih htail with rfl | ⟨piece, hpiece, hc⟩
            · exact .inl rfl
            · exact .inr ⟨piece, List.mem_cons_of_mem word hpiece, hc⟩

theorem upper_join (pieces : List Text) : upper (join pieces) = join (pieces.map upper) := by
  induction pieces with
  | nil => rfl
  | cons word pieces ih =>
      cases pieces with
      | nil => simp
      | cons next pieces =>
          rw [join_cons_cons, upper_append, upper_cons, capitals_of_isBlank isBlank_space, ih]
          exact (join_cons_cons _ _ _).symm

def SpacesOnly (text : Text) : Prop :=
  ∀ c ∈ text, isBlank c → isSpace c

private theorem spacesOnly_join {pieces : List Text} (h : ∀ piece ∈ pieces, IsWord piece) :
    SpacesOnly (join pieces) := by
  intro c hc hblank
  rcases mem_join hc with rfl | ⟨piece, hpiece, hmem⟩
  · rfl
  · have := (h piece hpiece).not_isBlank c hmem
    simp [this] at hblank

theorem spacesOnly_squeeze {text : Text} : SpacesOnly (squeeze text) :=
  spacesOnly_join fun _ h => isWord_of_mem_words h

theorem words_squeeze {text : Text} : words (squeeze text) = words text :=
  words_join fun _ h => isWord_of_mem_words h

private theorem SpacesOnly.isSpace_eq {text : Text} (h : SpacesOnly text) {c : CodePoint}
    (hc : c ∈ text) : isSpace c = isBlank c := by
  cases hblank : isBlank c with
  | true => exact h c hc hblank
  | false =>
      rw [Bool.eq_false_iff]
      intro hspace
      rw [isBlank_of_isSpace hspace] at hblank
      contradiction

theorem SpacesOnly.of_sublist {text piece : Text} (h : SpacesOnly text)
    (hpiece : piece.Sublist text) : SpacesOnly piece :=
  fun c hc => h c (hpiece.subset hc)

theorem SpacesOnly.runs_isSpace {text : Text} (h : SpacesOnly text) :
    runs isSpace text = words text := by
  simp only [runs, words, fields_congr fun c hc => h.isSpace_eq hc]

/-- Between spaces stand the same words that blanks of any kind had cut off. -/
theorem runs_isSpace_squeeze {text : Text} : runs isSpace (squeeze text) = words text :=
  spacesOnly_squeeze.runs_isSpace.trans words_squeeze

private theorem SpacesOnly.takeWhile_isSpace {text : Text} (h : SpacesOnly text) :
    text.takeWhile (! isSpace ·) = text.takeWhile (! isBlank ·) := by
  induction text with
  | nil => rfl
  | cons c text ih =>
      have tail := ih (h.of_sublist (List.sublist_cons_self c text))
      rw [List.takeWhile_cons, List.takeWhile_cons, h.isSpace_eq List.mem_cons_self, tail]

private theorem trimEnd_spec (text : Text) :
    ∃ after : Text, (∀ c ∈ after, isBlank c) ∧ trimEnd text ++ after = text := by
  refine ⟨(text.reverse.takeWhile isBlank).reverse, ?_, ?_⟩
  · exact fun c hc => List.all_eq_true.mp List.all_takeWhile c (List.mem_reverse.mp hc)
  · rw [trimEnd, ← List.reverse_append, List.takeWhile_append_dropWhile, List.reverse_reverse]

theorem trim_spec (text : Text) : ∃ before after : Text,
    (∀ c ∈ before, isBlank c) ∧ (∀ c ∈ after, isBlank c) ∧
      before ++ (trim text ++ after) = text := by
  obtain ⟨after, hafter, hend⟩ := trimEnd_spec (trimStart text)
  refine ⟨text.takeWhile isBlank, after, ?_, hafter, ?_⟩
  · exact fun c hc => List.all_eq_true.mp List.all_takeWhile c hc
  · rw [trim, hend, trimStart, List.takeWhile_append_dropWhile]

theorem words_trim (text : Text) : words (trim text) = words text := by
  obtain ⟨before, after, hbefore, hafter, htext⟩ := trim_spec text
  calc
    words (trim text) = words (before ++ (trim text ++ after)) := by
      rw [words, words, runs_append_left hbefore, runs_append_right hafter]
    _ = words text := by rw [htext]

theorem trim_sublist (text : Text) : (trim text).Sublist text := by
  obtain ⟨before, after, -, -, htext⟩ := trim_spec text
  conv => rhs; rw [← htext]
  exact (List.sublist_append_left _ _).trans (List.sublist_append_right _ _)

private theorem not_isBlank_head?_trim {text : Text} {c : CodePoint} (h : c ∈ (trim text).head?) :
    isBlank c = false := by
  obtain ⟨after, -, hend⟩ := trimEnd_spec (trimStart text)
  have hhead : (text.dropWhile isBlank).head? = some c := by
    change (trimStart text).head? = some c
    rw [← hend, List.head?_append]
    change (trim text).head?.or _ = some c
    rw [Option.mem_def.mp h]
    rfl
  have := List.head?_dropWhile_not isBlank text
  simpa [hhead] using this

/-- Neither end of a trimmed text is blank. -/
structure IsTrimmed (text : Text) : Prop where
  head : ∀ c ∈ text.head?, isBlank c = false
  last : ∀ c ∈ text.getLast?, isBlank c = false

theorem isTrimmed_trim (text : Text) : IsTrimmed (trim text) := by
  refine ⟨fun c => not_isBlank_head?_trim, fun c hc => ?_⟩
  have hlast := List.head?_dropWhile_not isBlank (trimStart text).reverse
  rw [trim, trimEnd, List.getLast?_reverse, Option.mem_def] at hc
  simpa [hc] using hlast

private theorem dropWhile_isBlank_of_head {text : Text} (h : ∀ c ∈ text.head?, isBlank c = false) :
    text.dropWhile isBlank = text := by
  cases text with
  | nil => rfl
  | cons c text =>
      have hc : ¬ isBlank c := by simp [h c rfl]
      exact List.dropWhile_cons_of_neg hc

private theorem IsTrimmed.trim_eq {text : Text} (h : IsTrimmed text) : trim text = text := by
  have hreverse : ∀ c ∈ text.reverse.head?, isBlank c = false := by
    rw [List.head?_reverse]
    exact h.last
  rw [trim, trimStart, dropWhile_isBlank_of_head h.head, trimEnd,
    dropWhile_isBlank_of_head hreverse, List.reverse_reverse]

theorem IsTrimmed.upper {text : Text} (h : IsTrimmed text) : IsTrimmed (upper text) := by
  constructor
  · intro d hd
    cases text with
    | nil => cases hd
    | cons c text =>
        rw [upper_cons, List.head?_append, List.head?_eq_some_head (capitals_ne_nil c)] at hd
        obtain rfl := Option.some.inj hd
        exact not_isBlank_of_mem_capitals (List.head_mem _) (h.head c rfl)
  · intro d hd
    rcases List.eq_nil_or_concat text with rfl | ⟨front, c, rfl⟩
    · cases hd
    · have hc := h.last c (by simp)
      rw [List.concat_eq_append, upper_append, upper_cons, upper_nil, List.append_nil,
        List.getLast?_append, List.getLast?_eq_some_getLast (capitals_ne_nil c)] at hd
      obtain rfl := Option.some.inj hd
      exact not_isBlank_of_mem_capitals (List.getLast_mem _) hc

theorem trim_trim (text : Text) : trim (trim text) = trim text :=
  (isTrimmed_trim text).trim_eq

theorem trim_upper_trim (text : Text) :
    trim (Text.upper (trim text)) = Text.upper (trim text) :=
  (isTrimmed_trim text).upper.trim_eq

theorem words_cons_eq_takeWhile {c : CodePoint} (hc : isBlank c = false) (text : Text) :
    words (c :: text) = (c :: text).takeWhile (! isBlank ·) ::
      words ((c :: text).dropWhile (! isBlank ·)) := by
  have hword : IsWord ((c :: text).takeWhile (! isBlank ·)) := by
    refine ⟨by simp [hc], fun d hd => ?_⟩
    simpa using List.all_eq_true.mp List.all_takeWhile d hd
  have hrest : ∀ d ∈ ((c :: text).dropWhile (! isBlank ·)).head?, isBlank d := by
    intro d hd
    have := List.head?_dropWhile_not (! isBlank ·) (c :: text)
    rw [Option.mem_def.mp hd] at this
    simpa using this
  have := (Spells.without_gap hword hrest (.of_words _)).words_eq
  rwa [List.takeWhile_append_dropWhile] at this

theorem takeWhile_trim {text : Text} (h : SpacesOnly text) :
    (trim text).takeWhile (! isSpace ·) = (words text).headD [] := by
  rw [← words_trim text]
  cases htrim : trim text with
  | nil => rfl
  | cons c rest =>
      have hhead : c ∈ (trim text).head? := by rw [htrim]; rfl
      have hc := not_isBlank_head?_trim hhead
      have hspaces : SpacesOnly (c :: rest) := h.of_sublist (htrim ▸ trim_sublist text)
      rw [words_cons_eq_takeWhile hc, hspaces.takeWhile_isSpace]
      rfl

end Remittance.Text
