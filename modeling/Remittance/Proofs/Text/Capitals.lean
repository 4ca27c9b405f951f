import Remittance.Text.CodePoint
import Remittance.Text.Uppercase

namespace Remittance.Text

theorem toNat_ofNat_of_isValidChar {n : Nat} (h : n.isValidChar) : (Char.ofNat n).toNat = n := by
  rw [Char.ofNat, dif_pos h]
  rfl

theorem CaseRun.capital?_eq_some_iff {run : CaseRun} {n capital : Nat} :
    run.capital? n = some capital ↔
      (run.first ≤ n ∧ n ≤ run.last ∧ (n - run.first) % run.step = 0) ∧
        run.target + (n - run.first) = capital := by
  unfold CaseRun.capital?
  split
  · simp_all
  · simp_all

theorem CaseRun.capital?_eq_none_iff {run : CaseRun} {n : Nat} :
    run.capital? n = none ↔
      ¬ (run.first ≤ n ∧ n ≤ run.last ∧ (n - run.first) % run.step = 0) := by
  simp [CaseRun.capital?]

/-- The number of a letter, with the numbers of its capitals. -/
inductive Capitalizes : Nat → List Nat → Prop
  | ascii {n : Nat} (small : n < 0x80) : Capitalizes n [(Char.ofNat n).toUpper.toNat]
  | several {n : Nat} {capitals : List Nat} (row : (n, capitals) ∈ caseExpansions) :
      Capitalizes n capitals
  | one {n capital : Nat} {run : CaseRun} (listed : run ∈ caseRuns)
      (found : run.capital? n = some capital) : Capitalizes n [capital]
  | same {n : Nat} : Capitalizes n [n]

theorem letterCapitals_eq_map (c : Char) :
    ∃ capitals, Capitalizes c.toNat capitals ∧
      letterCapitals c = capitals.map Char.ofNat := by
  unfold letterCapitals
  split
  · rename_i small
    exact ⟨_, .ascii small, by simp⟩
  · split
    · rename_i several lookup
      obtain ⟨before, after, table, -⟩ := List.lookup_eq_some_iff.mp lookup
      exact ⟨several, .several (by rw [table]; simp), rfl⟩
    · split
      · rename_i one search
        obtain ⟨run, listed, found⟩ := List.exists_of_findSome?_eq_some search
        exact ⟨[one], .one listed found, rfl⟩
      · exact ⟨[c.toNat], .same, by simp⟩

private theorem letterCapitals_ofNat {n : Nat} (valid : n.isValidChar)
    (ascii : n < 0x80 → (Char.ofNat n).toUpper = Char.ofNat n)
    (unexpanded : caseExpansions.lookup n = none)
    (unlisted : ∀ run ∈ caseRuns, run.capital? n = none) :
    letterCapitals (Char.ofNat n) = [Char.ofNat n] := by
  have search : caseRuns.findSome? (·.capital? n) = none :=
    List.findSome?_eq_none_iff.mpr unlisted
  simp only [letterCapitals, toNat_ofNat_of_isValidChar valid, unexpanded, search]
  split
  · rename_i small
    rw [ascii small]
  · rfl

/-! The table is closed. No capital that it lists is a letter with capitals of its own, and none
is blank; both are read off the ends of its runs. -/

namespace CaseRun

def lastTarget (run : CaseRun) : Nat :=
  run.target + (run.last - run.first)

/-- Whether every capital of the run misses the other run, by its place or by being between two
letters of it. -/
def avoids (run other : CaseRun) : Bool :=
  Nat.blt run.lastTarget other.first || Nat.blt other.last run.target ||
    ((Nat.beq run.step 2 || Nat.beq run.first run.last) && Nat.beq other.step 2 &&
      Nat.beq ((run.target + other.first) % 2) 1)

private theorem capital?_eq_none_of_avoids {run other : CaseRun} (havoids : run.avoids other)
    {n capital : Nat} (found : run.capital? n = some capital) :
    other.capital? capital = none := by
  obtain ⟨⟨hfirst, hlast, hstep⟩, rfl⟩ := capital?_eq_some_iff.mp found
  rw [capital?_eq_none_iff]
  intro hparts
  obtain ⟨hlow, hhigh, hother⟩ := hparts
  simp only [avoids, lastTarget, Bool.or_eq_true, Bool.and_eq_true, Nat.blt_eq, Nat.beq_eq]
    at havoids
  rcases havoids with (below | above) | ⟨⟨parity | single, twos⟩, odd⟩
  · omega
  · omega
  · rw [parity] at hstep
    rw [twos] at hother
    omega
  · rw [twos] at hother
    omega

def single (n : Nat) : CaseRun := ⟨n, n, 1, n⟩

@[simp] theorem capital?_single (n : Nat) : (single n).capital? n = some n := by
  simp [capital?_eq_some_iff, single]

end CaseRun

/-- Whether the numbers from `low` to `high` are characters that are not blank, and no small letters
of ASCII. -/
def isCapitalSpan (low high : Nat) : Bool :=
  (Nat.blt 0x40 low && Nat.blt high 0x5B) || (Nat.blt 0xA0 low && Nat.blt high 0x1680) ||
    (Nat.blt 0x1680 low && Nat.blt high 0x2000) || (Nat.blt 0x205F low && Nat.blt high 0x3000) ||
    (Nat.blt 0x3000 low && Nat.blt high 0xD800) || (Nat.blt 0xDFFF low && Nat.blt high 0x110000)

theorem isValidChar_of_isCapitalSpan {low high n : Nat} (h : isCapitalSpan low high)
    (hlow : low ≤ n) (hhigh : n ≤ high) : n.isValidChar := by
  simp only [isCapitalSpan, Bool.or_eq_true, Bool.and_eq_true, Nat.blt_eq] at h
  simp only [Nat.isValidChar]
  omega

private theorem not_isBlank_of_isCapitalSpan {low high n : Nat} (h : isCapitalSpan low high)
    (hlow : low ≤ n) (hhigh : n ≤ high) : isBlank (.scalar (Char.ofNat n)) = false := by
  have valid := isValidChar_of_isCapitalSpan h hlow hhigh
  simp only [isCapitalSpan, Bool.or_eq_true, Bool.and_eq_true, Nat.blt_eq] at h
  simp only [isBlank, CodePoint.toNat_scalar, toNat_ofNat_of_isValidChar valid,
    Bool.or_eq_false_iff, Bool.and_eq_false_iff, decide_eq_false_iff_not, beq_eq_false_iff_ne]
  omega

private theorem toUpper_of_isCapitalSpan {low high n : Nat} (h : isCapitalSpan low high)
    (hlow : low ≤ n) (hhigh : n ≤ high) (small : n < 0x80) :
    (Char.ofNat n).toUpper = Char.ofNat n := by
  have hcapital : n ∈ List.range' 0x41 26 := by
    simp only [isCapitalSpan, Bool.or_eq_true, Bool.and_eq_true, Nat.blt_eq] at h
    simp only [List.mem_range'_1]
    omega
  have hall : ∀ k ∈ List.range' 0x41 26, (Char.ofNat k).toUpper = Char.ofNat k := by decide
  exact hall n hcapital

namespace CaseRun

/-- Whether the capitals of the run are letters without capitals of their own. -/
def isClosed (run : CaseRun) : Bool :=
  isCapitalSpan run.target run.lastTarget &&
    caseExpansions.all (fun row => Nat.blt row.1 run.target || Nat.blt run.lastTarget row.1) &&
    caseRuns.all run.avoids

theorem mem_span_of_capital? {run : CaseRun} {n capital : Nat}
    (found : run.capital? n = some capital) :
    run.target ≤ capital ∧ capital ≤ run.lastTarget := by
  obtain ⟨⟨hfirst, hlast, -⟩, rfl⟩ := capital?_eq_some_iff.mp found
  simp only [lastTarget]
  omega

private theorem not_isBlank_of_isClosed {run : CaseRun} (closed : run.isClosed) {n capital : Nat}
    (found : run.capital? n = some capital) :
    isBlank (.scalar (Char.ofNat capital)) = false := by
  obtain ⟨hlow, hhigh⟩ := mem_span_of_capital? found
  simp only [isClosed, Bool.and_eq_true] at closed
  exact not_isBlank_of_isCapitalSpan closed.1.1 hlow hhigh

private theorem letterCapitals_of_isClosed {run : CaseRun} (closed : run.isClosed) {n capital : Nat}
    (found : run.capital? n = some capital) :
    letterCapitals (Char.ofNat capital) = [Char.ofNat capital] := by
  obtain ⟨hlow, hhigh⟩ := mem_span_of_capital? found
  simp only [isClosed, Bool.and_eq_true, List.all_eq_true] at closed
  obtain ⟨⟨span, expansions⟩, runs⟩ := closed
  apply letterCapitals_ofNat
  · exact isValidChar_of_isCapitalSpan span hlow hhigh
  · exact toUpper_of_isCapitalSpan span hlow hhigh
  · rw [List.lookup_eq_none_iff]
    intro row hrow
    have apart := expansions row hrow
    simp only [Bool.or_eq_true, Nat.blt_eq] at apart
    simp only [bne_iff_ne]
    omega
  · intro other listed
    exact capital?_eq_none_of_avoids (runs other listed) found

end CaseRun

private theorem isClosed_caseRuns : caseRuns.all CaseRun.isClosed = true := by
  decide +kernel

private theorem isClosed_caseExpansions :
    (caseExpansions.all fun row =>
      !row.2.isEmpty && row.2.all fun n => (CaseRun.single n).isClosed) = true := by
  decide +kernel

theorem Capitalizes.capital_cases {n capital : Nat} {several : List Nat}
    (h : Capitalizes n several) (hcapital : capital ∈ several) :
    several = [n] ∨
      (n < 0x80 ∧ capital = (Char.ofNat n).toUpper.toNat) ∨
      ∃ run : CaseRun, run.isClosed ∧ ∃ m, run.capital? m = some capital := by
  cases h with
  | ascii small =>
      exact .inr (.inl ⟨small, List.mem_singleton.mp hcapital⟩)
  | several row =>
      have closed := List.all_eq_true.mp isClosed_caseExpansions _ row
      simp only [Bool.and_eq_true, List.all_eq_true] at closed
      exact .inr (.inr ⟨_, closed.2 capital hcapital, capital, CaseRun.capital?_single capital⟩)
  | one listed found =>
      obtain rfl := List.mem_singleton.mp hcapital
      exact .inr (.inr ⟨_, List.all_eq_true.mp isClosed_caseRuns _ listed, n, found⟩)
  | same => exact .inl rfl

private theorem letterCapitals_ne_nil (c : Char) : letterCapitals c ≠ [] := by
  obtain ⟨several, h, heq⟩ := letterCapitals_eq_map c
  rw [heq, ne_eq, List.map_eq_nil_iff]
  cases h with
  | several row =>
      have closed := List.all_eq_true.mp isClosed_caseExpansions _ row
      simp only [Bool.and_eq_true] at closed
      simpa using closed.1
  | ascii | one | same => simp

private theorem ascii_toUpper {c : Char} (small : c.toNat < 0x80) :
    c.toUpper.toNat < 0x80 ∧ c.toUpper.toUpper = c.toUpper ∧
      isBlank (.scalar c.toUpper) = isBlank (.scalar c) := by
  have hall : ∀ n < 0x80, let d := (Char.ofNat n).toUpper
      d.toNat < 0x80 ∧ d.toUpper = d ∧
        isBlank (.scalar d) = isBlank (.scalar (Char.ofNat n)) := by
    decide
  simpa using hall c.toNat small

private theorem letterCapitals_of_mem_letterCapitals {c d : Char} (h : d ∈ letterCapitals c) :
    letterCapitals d = [d] := by
  obtain ⟨several, hseveral, heq⟩ := letterCapitals_eq_map c
  obtain ⟨capital, hcapital, rfl⟩ := List.mem_map.mp (heq ▸ h)
  rcases hseveral.capital_cases hcapital with rfl | ⟨small, rfl⟩ | ⟨run, closed, m, found⟩
  · obtain rfl := List.mem_singleton.mp hcapital
    simpa using heq
  · obtain ⟨hupper, hfixed, -⟩ := ascii_toUpper small
    simp only [Char.ofNat_toNat] at hupper hfixed ⊢
    simp [letterCapitals, hupper, hfixed]
  · exact run.letterCapitals_of_isClosed closed found

def blankNumbers : List Nat :=
  List.range' 0x09 5 ++ List.range' 0x1C 5 ++ [0x85, 0xA0, 0x1680] ++ List.range' 0x2000 11 ++
    [0x2028, 0x2029, 0x202F, 0x205F, 0x3000]

private theorem mem_blankNumbers_of_isBlank {c : CodePoint} (h : isBlank c) :
    c.toNat ∈ blankNumbers := by
  simp only [isBlank, Bool.or_eq_true, Bool.and_eq_true, decide_eq_true_eq, beq_iff_eq] at h
  simp only [blankNumbers, List.mem_append, List.mem_range'_1, List.mem_cons, List.not_mem_nil,
    or_false]
  omega

private theorem letterCapitals_of_isBlank {c : Char} (h : isBlank (.scalar c)) :
    letterCapitals c = [c] := by
  have hall : ∀ n ∈ blankNumbers, letterCapitals (Char.ofNat n) = [Char.ofNat n] := by
    decide +kernel
  simpa using hall c.toNat (mem_blankNumbers_of_isBlank h)

private theorem not_isBlank_of_mem_letterCapitals {c d : Char} (h : d ∈ letterCapitals c)
    (hc : isBlank (.scalar c) = false) : isBlank (.scalar d) = false := by
  obtain ⟨several, hseveral, heq⟩ := letterCapitals_eq_map c
  obtain ⟨capital, hcapital, rfl⟩ := List.mem_map.mp (heq ▸ h)
  rcases hseveral.capital_cases hcapital with rfl | ⟨small, rfl⟩ | ⟨run, closed, m, found⟩
  · obtain rfl := List.mem_singleton.mp hcapital
    simpa using hc
  · obtain ⟨-, -, hblank⟩ := ascii_toUpper small
    simp only [Char.ofNat_toNat] at hblank ⊢
    rw [hblank, hc]
  · exact run.not_isBlank_of_isClosed closed found

theorem capitals_ne_nil (c : CodePoint) : capitals c ≠ [] := by
  cases c with
  | scalar c => simpa using letterCapitals_ne_nil c
  | surrogate k => simp

theorem capitals_of_mem_capitals {c d : CodePoint} (h : d ∈ capitals c) : capitals d = [d] := by
  cases c with
  | scalar c =>
      obtain ⟨letter, hletter, rfl⟩ := List.mem_map.mp h
      simp [letterCapitals_of_mem_letterCapitals hletter]
  | surrogate k =>
      obtain rfl := List.mem_singleton.mp h
      rfl

theorem capitals_of_isBlank {c : CodePoint} (h : isBlank c) : capitals c = [c] := by
  cases c with
  | scalar c => simp [letterCapitals_of_isBlank h]
  | surrogate k => rfl

theorem not_isBlank_of_mem_capitals {c d : CodePoint} (h : d ∈ capitals c)
    (hc : isBlank c = false) : isBlank d = false := by
  cases c with
  | scalar c =>
      obtain ⟨letter, hletter, rfl⟩ := List.mem_map.mp h
      exact not_isBlank_of_mem_letterCapitals hletter hc
  | surrogate k =>
      obtain rfl := List.mem_singleton.mp h
      exact hc

theorem upper_of_forall_capitals {text : Text} (h : ∀ c ∈ text, capitals c = [c]) :
    upper text = text := by
  induction text with
  | nil => rfl
  | cons c text ih =>
      rw [upper_cons, h c List.mem_cons_self, ih fun d hd => h d (List.mem_cons_of_mem c hd)]
      rfl

theorem upper_upper (text : Text) : upper (upper text) = upper text := by
  apply upper_of_forall_capitals
  intro d hd
  obtain ⟨c, -, hcapital⟩ := List.mem_flatMap.mp hd
  exact capitals_of_mem_capitals hcapital

theorem length_le_length_upper (text : Text) : text.length ≤ (upper text).length := by
  induction text with
  | nil => simp
  | cons c text ih =>
      have := List.length_pos_iff.mpr (capitals_ne_nil c)
      simp only [upper_cons, List.length_append, List.length_cons]
      omega

theorem length_upper_of_forall_length {text : Text} (h : ∀ c ∈ text, (capitals c).length = 1) :
    (upper text).length = text.length := by
  induction text with
  | nil => rfl
  | cons c text ih =>
      rw [upper_cons, List.length_append, h c List.mem_cons_self,
        ih fun d hd => h d (List.mem_cons_of_mem c hd), List.length_cons, Nat.add_comm]

theorem upper_ne_nil {text : Text} (h : text ≠ []) : upper text ≠ [] := by
  have := length_le_length_upper text
  have := List.length_pos_iff.mpr h
  exact List.length_pos_iff.mp (by omega)

theorem not_isBlank_of_mem_upper {text : Text} (h : ∀ c ∈ text, isBlank c = false)
    {d : CodePoint} (hd : d ∈ upper text) : isBlank d = false := by
  obtain ⟨c, hc, hcapital⟩ := List.mem_flatMap.mp hd
  exact not_isBlank_of_mem_capitals hcapital (h c hc)

end Remittance.Text
