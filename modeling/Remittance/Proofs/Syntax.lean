import Remittance.Payload
import Remittance.Proofs.Unexpected

namespace Remittance

open Remittance.Text

namespace Match

/-- A match whose date is no day of the calendar fails. -/
def dated (found : Match) : Match :=
  if found.failure = none ∧ ¬ found.instruction.executeBy.all Date.isWritten then
    { found with failure := some .invalidDate }
  else found

def ofText (text : Text) : Except Fault Match :=
  let reading := Reading.ofText text
  (ofTokens reading.tokens reading.clause.executeBy).map dated

private theorem instruction_dated (found : Match) :
    found.dated.instruction = found.instruction := by
  unfold dated
  split <;> rfl

end Match

variable {snapshot other : Snapshot} {text : Text} {today day : Date} {result : Result}

theorem outcome_eq_ofText (snapshot : Snapshot) (text : Text) (today : Date) :
    outcome snapshot text today = Match.ofText text >>= fun found =>
      match found.failure with
      | some code => .ok (.of found.instruction code snapshot [])
      | none => settle found.instruction snapshot today := by
  rw [outcome_eq, Match.ofText]
  dsimp only
  cases Match.ofTokens (Reading.ofText text).tokens (Reading.ofText text).clause.executeBy with
  | error fault => rfl
  | ok found =>
      obtain ⟨instruction, failure⟩ := found
      cases failure with
      | some code => rfl
      | none =>
          cases hdate : instruction.executeBy.all Date.isWritten <;>
            simp [Match.dated, Except.map, bind, Except.bind, hdate, pure, Except.pure]

/-- A result repeats what its text says by itself. -/
structure Result.Tells (result : Result) (found : Match) : Prop where
  instruction : result.instruction = found.instruction
  code : ∀ code ∈ Code.syntactic, result.code = code ↔ found.failure = some code

theorem exists_tells_of_outcome (h : outcome snapshot text today = .ok result) :
    ∃ found, Match.ofText text = .ok found ∧ result.Tells found := by
  rw [outcome_eq_ofText] at h
  obtain ⟨found, hfound, h⟩ := bind_eq_ok_iff.mp h
  refine ⟨found, hfound, ?_⟩
  obtain ⟨instruction, failure⟩ := found
  cases failure with
  | some failure =>
      obtain rfl := Except.ok.inj h
      exact ⟨rfl, fun code _ => Option.some_inj.symm⟩
  | none =>
      obtain ⟨code, ledger, hcode, rfl⟩ := exists_of_settle h
      refine ⟨rfl, fun other hother => iff_of_false ?_ (by simp)⟩
      rintro rfl
      exact hcode hother

/-- Two results that say the same of what was read, and of what was wrong with it. -/
structure Result.ReadsAlike (a b : Result) : Prop where
  instruction : a.instruction = b.instruction
  code : ∀ code ∈ Code.syntactic, a.code = code ↔ b.code = code

private theorem Result.Tells.readsAlike {a b : Result} {found : Match} (ha : a.Tells found)
    (hb : b.Tells found) : a.ReadsAlike b :=
  ⟨ha.instruction.trans hb.instruction.symm,
    fun code hcode => (ha.code code hcode).trans (hb.code code hcode).symm⟩

theorem process_malformed_or_tells (hfinite : ∀ account ∈ snapshot, account.balance.isFinite)
    (text : Text) (today : Date) :
    let caught := Matcher.Overlong (Reading.ofText text).tokens ∨ Overflows snapshot text today
    (caught → (process snapshot text today).1 = Result.malformed) ∧
      (¬ caught → ∃ found, Match.ofText text = .ok found ∧
        (process snapshot text today).1.Tells found) := by
  intro caught
  have hcaught : (∃ fault, outcome snapshot text today = .error fault) ↔ caught :=
    exists_outcome_error_iff hfinite
  rw [← hcaught, process]
  cases houtcome : outcome snapshot text today with
  | error fault =>
      exact ⟨fun _ => rfl, fun hnone => absurd ⟨fault, rfl⟩ hnone⟩
  | ok result =>
      refine ⟨?_, fun _ => exists_tells_of_outcome houtcome⟩
      rintro ⟨fault, hfault⟩
      cases hfault

private theorem Overflows.exists_complete (h : Overflows snapshot text today) :
    ∃ found, Match.ofText text = .ok found ∧ found.instruction.Complete := by
  obtain ⟨instruction, _, _, _, hmatch, _⟩ := h
  refine ⟨_, map_eq_ok_iff.mpr ⟨_, hmatch, rfl⟩, ?_⟩
  rw [Match.instruction_dated]
  exact Match.complete_of_matched hmatch

private theorem not_overlong_of_overflows (h : Overflows snapshot text today) :
    ¬ Matcher.Overlong (Reading.ofText text).tokens := by
  intro hlong
  have hfaults : ∃ fault, Matcher.Faults (Reading.ofText text).tokens fault :=
    Matcher.exists_faults_ofWritten_iff.mpr hlong
  obtain ⟨fault, hfault⟩ := hfaults
  obtain ⟨_, _, _, _, hmatch, _⟩ := h
  rw [Matcher.ofTokens_eq_error_iff.mpr hfault] at hmatch
  cases hmatch

theorem not_readsAlike_of_overflows (hfinite : ∀ account ∈ snapshot, account.balance.isFinite)
    (hother : ∀ account ∈ other, account.balance.isFinite)
    (h : Overflows snapshot text today) (hnot : ¬ Overflows other text day) :
    ¬ (process snapshot text today).1.ReadsAlike (process other text day).1 := by
  intro halike
  have hshort : ¬ (Matcher.Overlong (Reading.ofText text).tokens ∨ Overflows other text day) :=
    not_or.mpr ⟨not_overlong_of_overflows h, hnot⟩
  obtain ⟨found, hfound, htells⟩ := (process_malformed_or_tells hother text day).2 hshort
  obtain ⟨full, hfull, hcomplete⟩ := h.exists_complete
  obtain rfl := Except.ok.inj (hfull.symm.trans hfound)
  obtain ⟨amount, hamount, _⟩ := hcomplete.amount
  have hempty := halike.instruction
  rw [(process_malformed_or_tells hfinite text today).1 (.inr h), htells.instruction] at hempty
  rw [← hempty] at hamount
  cases hamount

theorem Result.ReadsAlike.symm {a b : Result} (h : a.ReadsAlike b) : b.ReadsAlike a :=
  ⟨h.instruction.symm, fun code hcode => (h.code code hcode).symm⟩

/-- A text is read alike among any accounts and on any days, unless it overflows on one side alone:
then that side is reported as malformed. -/
theorem process_readsAlike_iff (hfinite : ∀ account ∈ snapshot, account.balance.isFinite)
    (hother : ∀ account ∈ other, account.balance.isFinite) (text : Text) (today day : Date) :
    (process snapshot text today).1.ReadsAlike (process other text day).1 ↔
      (Overflows snapshot text today ↔ Overflows other text day) := by
  have hcases := process_malformed_or_tells hfinite text today
  have hothers := process_malformed_or_tells hother text day
  constructor
  · intro halike
    constructor
    · intro h
      by_contra hnot
      exact not_readsAlike_of_overflows hfinite hother h hnot halike
    · intro h
      by_contra hnot
      exact not_readsAlike_of_overflows hother hfinite h hnot halike.symm
  · intro hiff
    by_cases hcaught : Matcher.Overlong (Reading.ofText text).tokens ∨ Overflows snapshot text today
    · rw [hcases.1 hcaught, hothers.1 (by rwa [← hiff])]
      exact ⟨rfl, fun _ _ => Iff.rfl⟩
    · obtain ⟨found, hfound, htells⟩ := hcases.2 hcaught
      obtain ⟨same, hsame, halso⟩ := hothers.2 (by rwa [← hiff])
      obtain rfl := Except.ok.inj (hfound.symm.trans hsame)
      exact htells.readsAlike halso

/-- The same text is executed for one payer and refused for another. -/
theorem process_readsAlike_executed_or_refused :
    let payee : Account := ⟨"b", .binary (.zero true), "NGN"⟩
    let rich : Snapshot := [⟨"a", .whole 500, "NGN"⟩, payee]
    let poor : Snapshot := [payee, ⟨"a", .binary (.ofBits 0x4058C00000000000), "NGN"⟩]
    let text : Text := "DEBIT 100 ngn FROM ACCOUNT a FOR CREDIT TO ACCOUNT b"
    (process rich text ⟨2025, 1, 31⟩).1.code = .executed ∧
      (process poor text ⟨2024, 2, 29⟩).1.code = .insufficientFunds ∧
      (process rich text ⟨2025, 1, 31⟩).1.ReadsAlike (process poor text ⟨2024, 2, 29⟩).1 := by
  intro payee rich poor text
  have hmatch : Match.ofTokens (Reading.ofText text).tokens (Reading.ofText text).clause.executeBy =
      .ok ⟨.ofSecondId .debit none 100 "NGN" "a" "b", none⟩ := by
    decide +kernel
  have hsmall : ¬ Binary64.overflow ≤ 100 := by decide +kernel
  have hnone : ∀ snapshot today, ¬ Overflows snapshot text today := by
    rintro snapshot today ⟨instruction, debit, credit, amount, hother, _, _, hamount, hoverflows⟩
    obtain rfl := (Match.mk.inj (Except.ok.inj (hmatch.symm.trans hother))).1
    obtain rfl : (100 : Int) = amount := Option.some.inj hamount
    exact hsmall (by exact_mod_cast hoverflows.2)
  refine ⟨by decide +kernel, by decide +kernel, ?_⟩
  exact (process_readsAlike_iff (by decide) (by decide) text ⟨2025, 1, 31⟩ ⟨2024, 2, 29⟩).mpr
    (iff_of_false (hnone _ _) (hnone _ _))

/-- A payee whose balance is binary cannot take up 10³⁰⁹, and the text counts as malformed; with a
whole balance it is executed. Both snapshots may be sent. -/
theorem not_readsAlike_binary_payee :
    let account (id : String) (balance : Json) : Json :=
      .object [("id", .string id), ("balance", balance), ("currency", .string "NGN")]
    let payload (text : Text) (savings : Json) : Json :=
      .object [
        ("accounts", .array [account "a" (.whole (Nat.pow 10 309)), account "b" savings]),
        ("instruction", .string text)]
    let payer : Account := ⟨"a", .whole (Nat.pow 10 309), "NGN"⟩
    let exact : Snapshot := [payer, ⟨"b", .whole 0, "NGN"⟩]
    let rounded : Snapshot := [payer, ⟨"b", .binary (.zero false), "NGN"⟩]
    let text : Text := Text.ofString "DEBIT 1" ++ List.replicate 309 (.scalar '0') ++
      Text.ofString " NGN FROM ACCOUNT a FOR CREDIT TO ACCOUNT b"
    Payload.ofJson (payload text (.whole 0)) = .ok ⟨exact, text⟩ ∧
      Payload.ofJson (payload text (.binary (.zero false))) = .ok ⟨rounded, text⟩ ∧
      (process exact text ⟨2025, 1, 31⟩).1.code = .executed ∧
      (process rounded text ⟨2025, 1, 31⟩).1 = Result.malformed ∧
      ¬ (process exact text ⟨2025, 1, 31⟩).1.ReadsAlike (process rounded text ⟨2025, 1, 31⟩).1 := by
  intro account payload payer exact rounded text
  have hexecuted : (process exact text ⟨2025, 1, 31⟩).1.code = .executed := by decide +kernel
  have hmalformed : (process rounded text ⟨2025, 1, 31⟩).1 = Result.malformed := by
    decide +kernel
  refine ⟨by decide +kernel, by decide +kernel, hexecuted, hmalformed, fun halike => ?_⟩
  have hcode := (halike.code .malformed (by decide)).mpr (congrArg Result.code hmalformed)
  rw [hexecuted] at hcode
  cases hcode

end Remittance
