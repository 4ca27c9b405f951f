import Mathlib.Data.Nat.Find
import Remittance.Proofs.Text.Words
import Remittance.Reading

namespace Remittance

open Remittance.Text

def onKeyword : Text := "ON"

def onSpace : Text := "ON "

private theorem marker_eq : Clause.marker = .scalar ' ' :: onSpace := by
  decide

private theorem not_isSpace_of_isWord {word : Text} (h : IsWord word) :
    ∀ c ∈ word, isSpace c = false := by
  intro c hc
  rw [Bool.eq_false_iff]
  intro hspace
  have := h.not_isBlank c hc
  simp [isBlank_of_isSpace hspace] at this

private theorem isPrefixOf_marker_letter {c : CodePoint} (hc : isSpace c = false) (text : Text) :
    Clause.marker.isPrefixOf (c :: text) = false := by
  have hne : (CodePoint.scalar ' ' == c) = false := by
    rw [beq_eq_false_iff_ne]
    intro heq
    subst heq
    cases hc
  rw [marker_eq, List.isPrefixOf_cons_cons, hne]
  rfl

private theorem isPrefixOf_marker_space (text : Text) :
    Clause.marker.isPrefixOf (.scalar ' ' :: text) = onSpace.isPrefixOf text := by
  rw [marker_eq, List.isPrefixOf_cons_cons, BEq.rfl, Bool.true_and]

private theorem position?_marker_cons (c : CodePoint) (text : Text) :
    position? Clause.marker (c :: text) =
      if Clause.marker.isPrefixOf (c :: text) then some 0
      else (position? Clause.marker text).map (1 + ·) := by
  rw [← positionFrom_eq_map]
  rfl

private theorem position?_marker_word {word : Text} (hword : IsWord word) :
    position? Clause.marker word = none := by
  have hspaces := not_isSpace_of_isWord hword
  clear hword
  induction word with
  | nil => rfl
  | cons c word ih =>
      rw [position?_marker_cons, isPrefixOf_marker_letter (hspaces c List.mem_cons_self),
        ih fun d hd => hspaces d (List.mem_cons_of_mem c hd)]
      rfl

private theorem position?_marker_append {word : Text} (hword : IsWord word) (text : Text) :
    position? Clause.marker (word ++ .scalar ' ' :: text) =
      if onSpace.isPrefixOf text then some word.length
      else (position? Clause.marker text).map (word.length + 1 + ·) := by
  have hspaces := not_isSpace_of_isWord hword
  clear hword
  induction word with
  | nil =>
      rw [List.nil_append, position?_marker_cons, isPrefixOf_marker_space]
      rfl
  | cons c word ih =>
      rw [List.cons_append, position?_marker_cons,
        isPrefixOf_marker_letter (hspaces c List.mem_cons_self),
        ih fun d hd => hspaces d (List.mem_cons_of_mem c hd), if_neg Bool.false_ne_true]
      split
      · simp [Nat.add_comm]
      · simp [Nat.add_comm, Nat.add_left_comm, Function.comp_def]

private theorem isPrefixOf_onSpace_word {word : Text} (hword : IsWord word) :
    onSpace.isPrefixOf word = false := by
  rw [Bool.eq_false_iff]
  intro h
  have hspace : CodePoint.scalar ' ' ∈ word :=
    (List.isPrefixOf_iff_prefix.mp h).subset (by decide)
  exact absurd (not_isSpace_of_isWord hword _ hspace) (by decide)

private theorem isPrefixOf_onSpace_append {word : Text} (hword : IsWord word) (text : Text) :
    onSpace.isPrefixOf (word ++ .scalar ' ' :: text) = true ↔ word = onKeyword := by
  have hon : onSpace = onKeyword ++ [.scalar ' '] := by decide
  rw [List.isPrefixOf_iff_prefix, hon]
  constructor
  · intro hparts
    obtain ⟨rest, h⟩ := hparts
    rw [List.append_assoc] at h
    have hfields := congrArg (fields isSpace) h
    rw [List.singleton_append, fields_append_sep (by decide) rfl,
      fields_append_sep (not_isSpace_of_isWord hword) rfl] at hfields
    exact (List.cons.inj hfields).1.symm
  · intro heq
    subst heq
    exact ⟨text, by simp⟩

private theorem isPrefixOf_onSpace_join {word : Text} (hword : IsWord word) {pieces : List Text}
    (hne : pieces ≠ []) : onSpace.isPrefixOf (join (word :: pieces)) = true ↔ word = onKeyword := by
  obtain ⟨next, pieces, rfl⟩ := List.exists_cons_of_ne_nil hne
  rw [join_cons_cons]
  exact isPrefixOf_onSpace_append hword _

private theorem position?_marker_join_none {pieces : List Text}
    (hwords : ∀ piece ∈ pieces, IsWord piece)
    (hon : ∀ piece ∈ pieces.tail.dropLast, piece ≠ onKeyword) :
    position? Clause.marker (join pieces) = none := by
  induction pieces with
  | nil => rfl
  | cons word pieces ih =>
      have hword := hwords word List.mem_cons_self
      have htail : ∀ piece ∈ pieces, IsWord piece :=
        fun piece hpiece => hwords piece (List.mem_cons_of_mem word hpiece)
      match pieces, htail, hon, ih with
      | [], _, _, _ => rw [join_singleton, position?_marker_word hword]
      | [last], htail, _, _ =>
          have hlast := htail last List.mem_cons_self
          rw [join_cons_cons, position?_marker_append hword, join_singleton,
            isPrefixOf_onSpace_word hlast, position?_marker_word hlast]
          rfl
      | next :: after :: pieces, htail, hon, ih =>
          have hnext : ¬ onSpace.isPrefixOf (join (next :: after :: pieces)) := by
            rw [isPrefixOf_onSpace_join (htail next List.mem_cons_self) (by simp)]
            exact hon next (by simp)
          rw [join_cons_cons, position?_marker_append hword, if_neg hnext,
            ih htail fun piece hpiece => hon piece (by simp_all)]
          rfl

private theorem position?_marker_join_some {first : Text} {before after : List Text} {date : Text}
    (hwords : ∀ piece ∈ first :: before ++ onKeyword :: date :: after, IsWord piece)
    (hon : ∀ piece ∈ before, piece ≠ onKeyword) :
    position? Clause.marker (join (first :: before ++ onKeyword :: date :: after)) =
      some (join (first :: before)).length := by
  induction before generalizing first with
  | nil =>
      have hnext : onSpace.isPrefixOf (join (onKeyword :: date :: after)) :=
        (isPrefixOf_onSpace_join (hwords onKeyword (by simp)) (by simp)).mpr rfl
      rw [List.singleton_append, join_cons_cons, position?_marker_append (hwords first (by simp)),
        if_pos hnext, join_singleton]
  | cons next before ih =>
      have hnext :
          ¬ onSpace.isPrefixOf (join (next :: before ++ onKeyword :: date :: after)) := by
        rw [List.cons_append, isPrefixOf_onSpace_join (hwords next (by simp)) (by simp)]
        exact hon next List.mem_cons_self
      have htail := ih (fun piece hpiece => hwords piece (List.mem_cons_of_mem first hpiece))
        fun piece hpiece => hon piece (List.mem_cons_of_mem next hpiece)
      rw [List.cons_append, List.cons_append, join_cons_cons,
        position?_marker_append (hwords first (by simp)), ← List.cons_append, if_neg hnext, htail,
        join_cons_cons]
      simp [Nat.add_assoc, Nat.add_comm]

def OpensDate (pieces : List Text) (place : Nat) : Prop :=
  0 < place ∧ place + 1 < pieces.length ∧ pieces[place]?.map upper = some onKeyword

instance (pieces : List Text) (place : Nat) : Decidable (OpensDate pieces place) :=
  inferInstanceAs (Decidable (_ ∧ _ ∧ _))

structure FirstOpens (pieces : List Text) (place : Nat) : Prop where
  opens : OpensDate pieces place
  first : ∀ earlier < place, ¬ OpensDate pieces earlier

/-- The words of the main clause and the word of the date, cut at the word ON. -/
inductive CutAtWord (pieces : List Text) : List Text → Option Text → Prop
  | whole (hnone : ∀ place, ¬ OpensDate pieces place) : CutAtWord pieces pieces none
  | dated {place : Nat} {date : Text} (hfirst : FirstOpens pieces place)
      (hdate : pieces[place + 1]? = some date) :
      CutAtWord pieces (pieces.take place) (some date)

theorem firstOpens_or_none (pieces : List Text) :
    (∃ place, FirstOpens pieces place) ∨ ∀ place, ¬ OpensDate pieces place := by
  by_cases h : ∃ place, OpensDate pieces place
  · exact .inl ⟨Nat.find h, Nat.find_spec h, fun _ => Nat.find_min h⟩
  · exact .inr fun place hopens => h ⟨place, hopens⟩

theorem FirstOpens.unique {pieces : List Text} {place other : Nat}
    (h : FirstOpens pieces place) (hother : FirstOpens pieces other) : place = other := by
  rcases Nat.lt_trichotomy place other with hlt | heq | hgt
  · exact absurd h.opens (hother.first place hlt)
  · exact heq
  · exact absurd hother.opens (h.first other hgt)

/-- The words of a text around the ON that opens its date clause. -/
structure DatedWords (pieces : List Text) (place : Nat) where
  first : Text
  before : List Text
  on : Text
  date : Text
  after : List Text
  pieces_eq : pieces = first :: before ++ on :: date :: after
  take_eq : pieces.take place = first :: before
  place_eq : place = before.length + 1
  upper_on : upper on = onKeyword
  before_ne_on : ∀ word ∈ before, upper word ≠ onKeyword

theorem FirstOpens.exists_datedWords {pieces : List Text} {place : Nat}
    (h : FirstOpens pieces place) : Nonempty (DatedWords pieces place) := by
  obtain ⟨⟨hpos, hlength, hon⟩, hfirst⟩ := h
  obtain ⟨on, hget, hupper⟩ := Option.map_eq_some_iff.mp hon
  obtain ⟨hlt, rfl⟩ := List.getElem?_eq_some_iff.mp hget
  obtain ⟨first, before, htake⟩ := List.exists_cons_of_ne_nil
    (List.ne_nil_of_length_pos (by rw [List.length_take]; omega) : pieces.take place ≠ [])
  have hplace : place = before.length + 1 := by
    have := congrArg List.length htake
    rw [List.length_take, List.length_cons] at this
    omega
  refine ⟨{ first, before, on := pieces[place], date := pieces[place + 1],
            after := pieces.drop (place + 2), pieces_eq := ?_, take_eq := htake,
            place_eq := hplace, upper_on := hupper, before_ne_on := ?_ }⟩
  · rw [← htake, ← List.drop_eq_getElem_cons, ← List.drop_eq_getElem_cons, List.take_append_drop]
  · intro word hword heq
    obtain ⟨i, hi, rfl⟩ := List.mem_iff_getElem.mp hword
    refine hfirst (i + 1) (by omega) ⟨by omega, by omega, ?_⟩
    have hsame : (pieces.take place)[i + 1]? = some before[i] := by
      rw [htake, List.getElem?_cons_succ, List.getElem?_eq_getElem hi]
    rw [List.getElem?_take_of_lt (by omega)] at hsame
    rw [hsame, Option.map_some, heq]

private theorem exists_opensDate {pieces : List Text} {word : Text}
    (hword : word ∈ pieces.tail.dropLast)
    (hon : upper word = onKeyword) : ∃ place, OpensDate pieces place := by
  obtain ⟨i, hi, rfl⟩ := List.mem_iff_getElem.mp hword
  rw [List.length_dropLast, List.length_tail] at hi
  refine ⟨i + 1, by omega, by omega, ?_⟩
  rw [List.getElem?_eq_getElem (by omega), Option.map_some, ← hon, List.getElem_dropLast,
    List.getElem_tail]

private theorem isWord_upper_of_mem {pieces : List Text} (h : ∀ piece ∈ pieces, IsWord piece) :
    ∀ piece ∈ pieces.map upper, IsWord piece := by
  intro piece hpiece
  obtain ⟨word, hword, rfl⟩ := List.mem_map.mp hpiece
  exact (h word hword).upper

private theorem position?_marker_whole {pieces : List Text}
    (hwords : ∀ piece ∈ pieces, IsWord piece)
    (hnone : ∀ place, ¬ OpensDate pieces place) :
    position? Clause.marker (upper (join pieces)) = none := by
  rw [upper_join]
  apply position?_marker_join_none (isWord_upper_of_mem hwords)
  intro piece hpiece heq
  rw [← List.map_tail, ← List.map_dropLast] at hpiece
  obtain ⟨word, hword, rfl⟩ := List.mem_map.mp hpiece
  obtain ⟨place, hopens⟩ := exists_opensDate hword heq
  exact hnone place hopens

private theorem DatedWords.position?_marker {pieces : List Text} {place : Nat}
    (dated : DatedWords pieces place) (hwords : ∀ piece ∈ pieces, IsWord piece) :
    position? Clause.marker (upper (join pieces)) =
      some (upper (join (pieces.take place))).length := by
  have hcapitals := isWord_upper_of_mem hwords
  have hmap : pieces.map upper = upper dated.first :: dated.before.map upper ++
      onKeyword :: upper dated.date :: dated.after.map upper := by
    rw [← dated.upper_on]
    simpa using congrArg (List.map upper) dated.pieces_eq
  rw [hmap] at hcapitals
  rw [upper_join, upper_join, dated.take_eq, hmap]
  apply position?_marker_join_some hcapitals
  intro piece hpiece
  obtain ⟨word, hword, rfl⟩ := List.mem_map.mp hpiece
  exact dated.before_ne_on word hword

namespace Reading

variable {text : Text}

theorem ofText_whole (hnone : ∀ place, ¬ OpensDate (words text) place) :
    (ofText text).tokens.written = words text ∧ (ofText text).clause.executeBy = none := by
  have hposition := position?_marker_whole (fun _ h => isWord_of_mem_words h) hnone
  have hclause : Clause.ofText (squeeze text) = ⟨squeeze text, none⟩ := by
    simp only [Clause.ofText, squeeze, hposition]
  constructor
  · calc
      (ofText text).tokens.written = runs isSpace (squeeze text) := by
        simp [ofText, Tokens.ofClause, hclause]
      _ = words text := runs_isSpace_squeeze
  · simp [ofText, hclause]

private theorem ofText_dated {place : Nat} (dated : DatedWords (words text) place) :
    let cut := (upper (join ((words text).take place))).length
    (ofText text).tokens.written = words ((squeeze text).take cut) ∧
      (ofText text).clause.executeBy =
        some ((words ((squeeze text).drop (cut + 4))).headD []) := by
  intro cut
  have hposition := dated.position?_marker fun _ h => isWord_of_mem_words h
  have hclause : Clause.ofText (squeeze text) =
      ⟨trim ((squeeze text).take cut),
        some ((trim ((squeeze text).drop (cut + 4))).takeWhile (! isSpace ·))⟩ := by
    simp only [Clause.ofText, squeeze, hposition]
    rfl
  have hbefore : SpacesOnly ((squeeze text).take cut) :=
    spacesOnly_squeeze.of_sublist (List.take_sublist cut _)
  have hafter : SpacesOnly ((squeeze text).drop (cut + 4)) :=
    spacesOnly_squeeze.of_sublist (List.drop_sublist (cut + 4) _)
  constructor
  · calc
      (ofText text).tokens.written = runs isSpace (trim ((squeeze text).take cut)) := by
        simp [ofText, Tokens.ofClause, hclause]
      _ = words (trim ((squeeze text).take cut)) :=
        (hbefore.of_sublist (trim_sublist _)).runs_isSpace
      _ = words ((squeeze text).take cut) := words_trim _
  · simp only [ofText, hclause, takeWhile_trim hafter]

end Reading

/-! A text can be longer in capitals; the cut is then late by as much as the words before the date
clause grow. -/

def growth (text : Text) : Nat :=
  (upper text).length - text.length

private theorem length_upper_eq (text : Text) :
    (upper text).length = text.length + growth text := by
  have := length_le_length_upper text
  rw [growth]
  omega

private theorem capitals_ne_onKeyword (c : CodePoint) : capitals c ≠ onKeyword := by
  have hrows : ∀ row ∈ caseExpansions, row.2.map Char.ofNat ≠ ['O', 'N'] := by decide +kernel
  have hon : onKeyword = ['O', 'N'].map CodePoint.scalar := by decide
  cases c with
  | surrogate k =>
      intro h
      have := congrArg List.length h
      simp [hon] at this
  | scalar c =>
      obtain ⟨several, hseveral, heq⟩ := letterCapitals_eq_map c
      rw [capitals_scalar, hon, heq]
      intro h
      have hletters := (List.map_inj_right fun _ _ => CodePoint.scalar.inj).mp h
      cases hseveral with
      | several row => exact hrows _ row hletters
      | ascii | one | same => simp at hletters

private theorem exists_of_upper_eq_onKeyword {word : Text} (h : upper word = onKeyword) :
    ∃ o n, word = [o, n] := by
  have hlength := length_le_length_upper word
  rw [h, show onKeyword.length = 2 from rfl] at hlength
  match word, hlength with
  | [], _ => exact absurd h (by decide)
  | [c], _ =>
      rw [upper_cons, upper_nil, List.append_nil] at h
      exact absurd h (capitals_ne_onKeyword c)
  | [o, n], _ => exact ⟨o, n, rfl⟩

namespace DatedWords

variable {pieces : List Text} {place : Nat}

private theorem join_eq (dated : DatedWords pieces place) :
    join pieces = join (pieces.take place) ++ .scalar ' ' ::
      (dated.on ++ .scalar ' ' :: join (dated.date :: dated.after)) := by
  rw [dated.take_eq]
  conv => lhs; rw [dated.pieces_eq]
  rw [join_append (by simp) (by simp), join_cons_cons]

private theorem words_take_join (dated : DatedWords pieces place)
    (hwords : ∀ piece ∈ pieces, IsWord piece) (late : Nat) :
    words ((join pieces).take ((join (pieces.take place)).length + late)) =
      pieces.take place ++
        words ((dated.on ++ .scalar ' ' :: join (dated.date :: dated.after)).take (late - 1)) := by
  have hmain : words (join (pieces.take place)) = pieces.take place :=
    words_join fun piece hpiece => hwords piece (List.mem_of_mem_take hpiece)
  rw [dated.join_eq, List.take_length_add_append]
  cases late with
  | zero => simpa [words] using hmain
  | succ late =>
      rw [List.take_succ_cons, words, runs_append_cons isBlank_space]
      exact congrArg (· ++ _) hmain

private theorem drop_join (dated : DatedWords pieces place) (late : Nat) :
    (join pieces).drop ((join (pieces.take place)).length + late + 4) =
      (join (dated.date :: dated.after)).drop late := by
  obtain ⟨o, n, hon⟩ := exists_of_upper_eq_onKeyword dated.upper_on
  rw [dated.join_eq, Nat.add_assoc, List.drop_length_add_append, hon]
  rfl

end DatedWords

private theorem words_take_ne_nil {c : CodePoint} (hc : isBlank c = false) (text : Text) (n : Nat) :
    words ((c :: text).take (n + 1)) ≠ [] := by
  rw [List.take_succ_cons, words_cons_eq_takeWhile hc]
  simp

theorem headD_words_drop_one {c : CodePoint} {rest : Text} {after : List Text}
    (hwords : ∀ piece ∈ (c :: rest) :: after, IsWord piece) :
    (words ((join ((c :: rest) :: after)).drop 1)).headD [] =
      if rest = [] then after.headD [] else rest := by
  have hafter : ∀ piece ∈ after, IsWord piece :=
    fun piece hpiece => hwords piece (List.mem_cons_of_mem _ hpiece)
  cases rest with
  | nil =>
      cases after with
      | nil => simp [words]
      | cons next after =>
          have hdrop : (join ([c] :: next :: after)).drop 1 =
              .scalar ' ' :: join (next :: after) := by
            rw [join_cons_cons]
            rfl
          rw [hdrop, words, runs_cons_of_sep isBlank_space]
          change (words (join (next :: after))).headD [] = _
          rw [words_join hafter]
          rfl
  | cons d rest =>
      have hshort : IsWord (d :: rest) := by
        refine ⟨by simp, fun e he => ?_⟩
        exact (hwords _ List.mem_cons_self).not_isBlank e (List.mem_cons_of_mem c he)
      have hdrop : (join ((c :: d :: rest) :: after)).drop 1 = join ((d :: rest) :: after) := by
        cases after with
        | nil => simp
        | cons next after =>
            rw [join_cons_cons, join_cons_cons]
            rfl
      rw [hdrop, words_join (List.forall_mem_cons.mpr ⟨hshort, hafter⟩)]
      simp

namespace Reading

variable {text : Text} {place : Nat}

theorem ofText_late (dated : DatedWords (words text) place) :
    let late := growth (join ((words text).take place))
    (ofText text).tokens.written = (words text).take place ++
        words ((dated.on ++ .scalar ' ' :: join (dated.date :: dated.after)).take (late - 1)) ∧
      (ofText text).clause.executeBy =
        some ((words ((join (dated.date :: dated.after)).drop late)).headD []) := by
  intro late
  have hwords : ∀ piece ∈ words text, IsWord piece := fun _ h => isWord_of_mem_words h
  obtain ⟨hwritten, hdate⟩ := ofText_dated dated
  rw [length_upper_eq, squeeze] at hwritten hdate
  rw [dated.words_take_join hwords] at hwritten
  rw [dated.drop_join] at hdate
  exact ⟨hwritten, hdate⟩

end Reading

namespace DatedWords

variable {pieces : List Text} {place : Nat}

private theorem getElem?_date (dated : DatedWords pieces place) :
    pieces[place + 1]? = some dated.date := by
  obtain ⟨first, before, on, date, after, rfl, -, rfl, -, -⟩ := dated
  simp

private theorem getElem?_after (dated : DatedWords pieces place) :
    pieces[place + 2]? = dated.after.head? := by
  obtain ⟨first, before, on, date, after, rfl, -, rfl, -, -⟩ := dated
  simp [List.getElem?_append_right, List.head?_eq_getElem?]

private theorem mem_of_mem_after (dated : DatedWords pieces place) {word : Text}
    (h : word ∈ dated.on :: dated.date :: dated.after) : word ∈ pieces := by
  rw [dated.pieces_eq]
  exact List.mem_append_right _ h

end DatedWords

theorem FirstOpens.cutAtWord_iff {pieces main : List Text} {place : Nat} {date : Option Text}
    (h : FirstOpens pieces place) :
    CutAtWord pieces main date ↔ main = pieces.take place ∧ date = pieces[place + 1]? := by
  constructor
  · intro hcut
    cases hcut with
    | whole hnone => exact absurd h.opens (hnone place)
    | dated hother hdate =>
        obtain rfl := h.unique hother
        exact ⟨rfl, hdate.symm⟩
  · intro hparts
    obtain ⟨rfl, hdate⟩ := hparts
    rw [List.getElem?_eq_getElem h.opens.2.1] at hdate
    subst hdate
    exact .dated h (List.getElem?_eq_getElem h.opens.2.1)

/-- Whether the words before the date clause keep their length in capitals. They may also grow by
one letter where the date is a single letter that the next word repeats. -/
def CutsInPlace (pieces : List Text) : Prop :=
  ∀ place, FirstOpens pieces place →
    growth (join (pieces.take place)) = 0 ∨
      growth (join (pieces.take place)) = 1 ∧
        ∃ letter, pieces[place + 1]? = some [letter] ∧ pieces[place + 2]? = some [letter]

theorem FirstOpens.cutsInPlace_iff {pieces : List Text} {place : Nat}
    (h : FirstOpens pieces place) :
    CutsInPlace pieces ↔ growth (join (pieces.take place)) = 0 ∨
      growth (join (pieces.take place)) = 1 ∧
        ∃ letter, pieces[place + 1]? = some [letter] ∧ pieces[place + 2]? = some [letter] := by
  constructor
  · intro hcuts
    exact hcuts place h
  · intro hplace other hother
    obtain rfl := h.unique hother
    exact hplace

namespace Reading

variable {text : Text} {place : Nat}

theorem cutAtWord_iff_of_firstOpens (hfirst : FirstOpens (words text) place) :
    CutAtWord (words text) (ofText text).tokens.written (ofText text).clause.executeBy ↔
      CutsInPlace (words text) := by
  obtain ⟨dated⟩ := hfirst.exists_datedWords
  have hsome : ∀ piece ∈ dated.on :: dated.date :: dated.after, IsWord piece :=
    fun _ hpiece => isWord_of_mem_words (dated.mem_of_mem_after hpiece)
  obtain ⟨honWord, hwords⟩ := List.forall_mem_cons.mp hsome
  obtain ⟨hwritten, hdate⟩ := ofText_late dated
  rw [hfirst.cutAtWord_iff, hfirst.cutsInPlace_iff, hwritten, hdate, dated.getElem?_date,
    dated.getElem?_after, List.append_right_eq_self]
  generalize growth (join ((words text).take place)) = late
  match late with
  | 0 => simp [words_join hwords, words.eq_1 []]
  | 1 =>
      -- Only the first letter of the date is lost; the words before it are whole.
      obtain ⟨letter, rest, hletters⟩ :=
        List.exists_cons_of_ne_nil (hwords dated.date List.mem_cons_self).ne_nil
      rw [hletters] at hwords ⊢
      rw [headD_words_drop_one hwords]
      cases rest with
      | nil => cases hafter : dated.after <;> simp [words]
      | cons second rest => simp [words]
  | late + 2 =>
      -- The main clause takes in a part of the word ON.
      obtain ⟨o, n, hon⟩ := exists_of_upper_eq_onKeyword dated.upper_on
      have ho : isBlank o = false := honWord.not_isBlank o (by simp [hon])
      constructor
      · intro hparts
        obtain ⟨hnone, -⟩ := hparts
        rw [hon] at hnone
        exact absurd hnone (words_take_ne_nil ho _ late)
      · rintro (h | ⟨h, -⟩) <;> omega

end Reading

private theorem CutAtWord.main_isPrefix {pieces main : List Text} {date : Option Text}
    (h : CutAtWord pieces main date) : main <+: pieces := by
  cases h with
  | whole hnone => exact List.prefix_rfl
  | dated hfirst hdate => exact List.take_prefix _ _

private theorem CutAtWord.mem_of_date {pieces main : List Text} {date : Option Text}
    (h : CutAtWord pieces main date) {word : Text} (hword : word ∈ date) : word ∈ pieces := by
  cases h with
  | whole hnone => cases hword
  | dated hfirst hdate =>
      obtain rfl := Option.some.inj hword
      exact List.mem_of_getElem? hdate

/-- The date clause is cut at the word ON exactly if the words before it do not grow in capitals,
one coincidence apart. -/
theorem Reading.ofText_cutAtWord_iff (text : Text) :
    let reading := Reading.ofText text
    reading.tokens.capitals = reading.tokens.written.map upper ∧
      (CutAtWord (words text) reading.tokens.written reading.clause.executeBy ↔
        CutsInPlace (words text)) ∧
      (CutsInPlace (words text) →
        reading.tokens.written <+: words text ∧
          ∀ date ∈ reading.clause.executeBy, date ∈ words text ∧ date ≠ []) := by
  intro reading
  have hiff : CutAtWord (words text) reading.tokens.written reading.clause.executeBy ↔
      CutsInPlace (words text) := by
    rcases firstOpens_or_none (words text) with ⟨place, hfirst⟩ | hnone
    · exact cutAtWord_iff_of_firstOpens hfirst
    · obtain ⟨hwritten, hdate⟩ := ofText_whole hnone
      have hcut : CutAtWord (words text) reading.tokens.written reading.clause.executeBy := by
        change CutAtWord (words text) (ofText text).tokens.written (ofText text).clause.executeBy
        rw [hwritten, hdate]
        exact .whole hnone
      exact iff_of_true hcut fun place hfirst => absurd hfirst.opens (hnone place)
  refine ⟨rfl, hiff, fun hplace => ?_⟩
  have hcut := hiff.mpr hplace
  refine ⟨hcut.main_isPrefix, fun date hdate => ?_⟩
  have hmem := hcut.mem_of_date hdate
  exact ⟨hmem, (isWord_of_mem_words hmem).ne_nil⟩

/-- After a word that grows by one letter in capitals, the date loses its first letter. -/
theorem Reading.not_cutAtWord_of_sharp_s :
    let text : Text := "DEBIT 100 NGN straße FROM ACCOUNT a FOR CREDIT TO ACCOUNT b ON 2025-12-31"
    let reading := Reading.ofText text
    reading.clause.executeBy = some "025-12-31" ∧ Text.ofString "025-12-31" ∉ words text ∧
      ¬ CutAtWord (words text) reading.tokens.written reading.clause.executeBy := by
  intro text reading
  have hdate : reading.clause.executeBy = some "025-12-31" := rfl
  have hmem : Text.ofString "025-12-31" ∉ words text := by decide +kernel
  refine ⟨hdate, hmem, fun hcut => ?_⟩
  exact hmem (hcut.mem_of_date hdate)

end Remittance
