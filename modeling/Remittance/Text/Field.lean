import Remittance.Text.CodePoint

namespace Remittance.Text

def fields (sep : CodePoint → Bool) (text : Text) : List Text :=
  text.foldr (fun c rest => if sep c then [] :: rest else rest.modifyHead (c :: ·)) [[]]

@[simp] theorem fields_nil (sep : CodePoint → Bool) : fields sep [] = [[]] := rfl

theorem fields_cons (sep : CodePoint → Bool) (c : CodePoint) (text : Text) :
    fields sep (c :: text) =
      if sep c then [] :: fields sep text else (fields sep text).modifyHead (c :: ·) := rfl

theorem fields_cons_of_sep {sep : CodePoint → Bool} {c : CodePoint} (h : sep c) (text : Text) :
    fields sep (c :: text) = [] :: fields sep text := by
  simp [fields_cons, h]

theorem fields_cons_of_not_sep {sep : CodePoint → Bool} {c : CodePoint} (h : sep c = false)
    (text : Text) : fields sep (c :: text) = (fields sep text).modifyHead (c :: ·) := by
  simp [fields_cons, h]

theorem fields_ne_nil (sep : CodePoint → Bool) (text : Text) : fields sep text ≠ [] := by
  induction text with
  | nil => simp
  | cons c text ih =>
      rw [fields_cons]
      split
      · simp
      · cases h : fields sep text with
        | nil => exact absurd h ih
        | cons _ _ => simp

theorem fields_of_no_sep {sep : CodePoint → Bool} {text : Text} (h : ∀ c ∈ text, sep c = false) :
    fields sep text = [text] := by
  induction text with
  | nil => rfl
  | cons c text ih =>
      rw [fields_cons_of_not_sep (h c List.mem_cons_self),
        ih fun d hd => h d (List.mem_cons_of_mem c hd)]
      rfl

theorem fields_append_sep {sep : CodePoint → Bool} {first : Text} {c : CodePoint}
    (hfirst : ∀ d ∈ first, sep d = false) (hc : sep c) (rest : Text) :
    fields sep (first ++ c :: rest) = first :: fields sep rest := by
  induction first with
  | nil => exact fields_cons_of_sep hc rest
  | cons d first ih =>
      rw [List.cons_append, fields_cons_of_not_sep (hfirst d List.mem_cons_self),
        ih fun e he => hfirst e (List.mem_cons_of_mem d he)]
      rfl

theorem not_sep_of_mem_fields {sep : CodePoint → Bool} {text field : Text}
    (hfield : field ∈ fields sep text) {c : CodePoint} (hc : c ∈ field) : sep c = false := by
  induction text generalizing field with
  | nil =>
      obtain rfl : field = [] := by simpa using hfield
      cases hc
  | cons d text ih =>
      cases hd : sep d with
      | true =>
          rw [fields_cons_of_sep hd] at hfield
          rcases List.mem_cons.mp hfield with rfl | hrest
          · cases hc
          · exact ih hrest hc
      | false =>
          rw [fields_cons_of_not_sep hd] at hfield
          cases hfields : fields sep text with
          | nil => exact absurd hfields (fields_ne_nil sep text)
          | cons first rest =>
              rw [hfields, List.modifyHead_cons] at hfield
              rw [hfields] at ih
              rcases List.mem_cons.mp hfield with rfl | hrest
              · rcases List.mem_cons.mp hc with rfl | hfirst
                · exact hd
                · exact ih List.mem_cons_self hfirst
              · exact ih (List.mem_cons_of_mem first hrest) hc

/-- The fields that hold something. -/
def runs (sep : CodePoint → Bool) (text : Text) : List Text :=
  (fields sep text).filter (! ·.isEmpty)

def words (text : Text) : List Text :=
  runs isBlank text

def join (pieces : List Text) : Text :=
  List.intercalate [.scalar ' '] pieces

@[simp] theorem runs_nil (sep : CodePoint → Bool) : runs sep [] = [] := rfl

theorem runs_cons_of_sep {sep : CodePoint → Bool} {c : CodePoint} (h : sep c) (text : Text) :
    runs sep (c :: text) = runs sep text := by
  simp [runs, fields_cons_of_sep h]

theorem ne_nil_of_mem_runs {sep : CodePoint → Bool} {text run : Text}
    (h : run ∈ runs sep text) : run ≠ [] := by
  simpa using (List.mem_filter.mp h).2

theorem not_sep_of_mem_runs {sep : CodePoint → Bool} {text run : Text}
    (hrun : run ∈ runs sep text) {c : CodePoint} (hc : c ∈ run) : sep c = false :=
  not_sep_of_mem_fields (List.mem_filter.mp hrun).1 hc

theorem runs_of_no_sep {sep : CodePoint → Bool} {text : Text} (hne : text ≠ [])
    (h : ∀ c ∈ text, sep c = false) : runs sep text = [text] := by
  simp [runs, fields_of_no_sep h, hne]

def trimStart (text : Text) : Text :=
  text.dropWhile isBlank

def trimEnd (text : Text) : Text :=
  (text.reverse.dropWhile isBlank).reverse

def trim (text : Text) : Text :=
  trimEnd (trimStart text)

/-- The words of a text, one space apart. -/
def squeeze (text : Text) : Text :=
  join (words text)

/-- The place where `pattern` first occurs in `text`, counted from `start`. -/
def positionFrom (pattern : Text) (start : Nat) : Text → Option Nat
  | [] => if pattern.isEmpty then some start else none
  | c :: text =>
      if pattern.isPrefixOf (c :: text) then some start
      else positionFrom pattern (start + 1) text

def position? (pattern text : Text) : Option Nat :=
  positionFrom pattern 0 text

theorem positionFrom_eq_map (pattern : Text) (start : Nat) (text : Text) :
    positionFrom pattern start text = (position? pattern text).map (start + ·) := by
  have general : ∀ (text : Text) (a b : Nat),
      positionFrom pattern (a + b) text = (positionFrom pattern b text).map (a + ·) := by
    intro text
    induction text with
    | nil => intro a b; simp only [positionFrom]; split <;> simp
    | cons c text ih =>
        intro a b
        simp only [positionFrom]
        split
        · simp
        · rw [Nat.add_assoc]; exact ih a (b + 1)
  exact general text start 0

end Remittance.Text
