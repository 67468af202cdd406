import LabelPress.Expr.Apply
import LabelPress.Proofs.Number.Padding
import LabelPress.Proofs.Outcome

/-!
# Serial numbers

When a serial number is written, and what it looks like.  Main statements: by a step that is
not zero, the serial numbers of different rows are different texts, whatever the start, the
sign of the step and the padding are; and a serial number is read back as the number that it
counts exactly if no zeros hide its sign and the padding is not longer than numerals may be.
-/

namespace LabelPress

theorem EvalFault.liftNumeric_eq_ok
    {α : Type}
    {outcome : Except NumericFault α}
    {value : α} :
    liftNumeric outcome = .ok value ↔ outcome = .ok value := by
  cases outcome <;> simp [liftNumeric]

namespace Builtin

variable {arguments : List Text} {context other : Context} {serial otherSerial : Text}

/-- Which serial number is written, and when one is. -/
theorem callFunction_counter_eq_ok_iff
    {row : Row} :
    callFunction Builtin.counter.name arguments row context = .ok serial ↔
      ∃ start step width : Int,
        leadingInteger (argumentAt arguments 0) 1 = .ok start ∧
        leadingInteger (argumentAt arguments 1) 1 = .ok step ∧
        leadingInteger (argumentAt arguments 2) 0 = .ok width ∧
        (start + context.rowIndex * step).natAbs < 10 ^ Numeral.digitLimit ∧
        width ≤ lengthLimit ∧
        serial =
          Numeral.padLeft width.toNat '0' (Numeral.ofInt (start + context.rowIndex * step)) := by
  rw [callFunction, Builtin.ofName?_name]
  change applyCounter arguments context = .ok serial ↔ _
  simp only [applyCounter, bind_eq_ok, EvalFault.liftNumeric_eq_ok, Numeral.write_eq]
  constructor
  · rintro ⟨start, started, step, stepped, width, padded, numeral, written, made⟩
    split_ifs at written made with short _ bounded
    cases written
    cases made
    exact ⟨start, step, width, started, stepped, padded, short, not_lt.1 bounded, rfl⟩
  · rintro ⟨start, step, width, started, stepped, padded, short, bounded, rfl⟩
    have representable : ¬ widthLimit < width :=
      not_lt.2 (bounded.trans (by decide : lengthLimit ≤ widthLimit))
    refine ⟨start, started, step, stepped, width, padded, _, if_pos short, ?_⟩
    rw [if_neg representable, if_neg (not_lt.2 bounded)]
    rfl

/--
By a step that is not zero, different rows get different serial numbers.
-/
theorem callFunction_counter_distinct
    (row : Row)
    (moving : leadingInteger (argumentAt arguments 1) 1 ≠ .ok 0)
    (different : context.rowIndex ≠ other.rowIndex)
    (made : callFunction Builtin.counter.name arguments row context = .ok serial)
    (otherMade : callFunction Builtin.counter.name arguments row other = .ok otherSerial) :
    serial ≠ otherSerial := by
  obtain ⟨start, step, width, started, stepped, padded, -, -, rfl⟩ :=
    callFunction_counter_eq_ok_iff.1 made
  obtain ⟨_, _, _, otherStarted, otherStepped, otherPadded, -, -, rfl⟩ :=
    callFunction_counter_eq_ok_iff.1 otherMade
  cases started.symm.trans otherStarted
  cases stepped.symm.trans otherStepped
  cases padded.symm.trans otherPadded
  have nonzero : step ≠ 0 := by
    rintro rfl
    exact moving stepped
  intro same
  have numbers := Numeral.padLeft_ofInt_injective _ same
  have places : (context.rowIndex : Int) * step = other.rowIndex * step :=
    Int.add_left_cancel numbers
  exact different (Int.ofNat_inj.1 (Int.eq_of_mul_eq_mul_right nonzero places))

/-- Zeros in front of a minus sign do not make two numbers equal. -/
theorem callFunction_counter_distinct_signs :
    let arguments : List Text := ["-1".toList, "2".toList, "3".toList]
    let now : Moment := .midnight ⟨2026, 3, 15, by decide, by decide, by decide⟩
    callFunction Builtin.counter.name arguments [] ⟨0, 2, now⟩ = .ok "0-1".toList ∧
      callFunction Builtin.counter.name arguments [] ⟨1, 2, now⟩ = .ok "001".toList ∧
      "0-1".toList ≠ "001".toList := by
  intro arguments now
  have first :
      callFunction Builtin.counter.name arguments [] ⟨0, 2, now⟩ = .ok "0-1".toList := by
    decide +kernel
  have second :
      callFunction Builtin.counter.name arguments [] ⟨1, 2, now⟩ = .ok "001".toList := by
    decide +kernel
  exact ⟨first, second,
    callFunction_counter_distinct [] (by decide) (by decide) first second⟩

/-! ## Reading serial numbers back -/

/-- The numbers that the arguments of a counter stand for. -/
structure Counts
    (arguments : List Text)
    (start step width : Int) : Prop where
  /-- The first argument is the number to start with. -/
  start_eq : leadingInteger (argumentAt arguments 0) 1 = .ok start
  /-- The second argument is the step from row to row. -/
  step_eq : leadingInteger (argumentAt arguments 1) 1 = .ok step
  /-- The third argument is the width of the padding. -/
  width_eq : leadingInteger (argumentAt arguments 2) 0 = .ok width

section
open Numeral

variable {start step width : Int}

theorem Counts.callFunction_eq_ok_iff
    {row : Row}
    (counts : Counts arguments start step width) :
    callFunction Builtin.counter.name arguments row context = .ok serial ↔
      (start + context.rowIndex * step).natAbs < 10 ^ digitLimit ∧ width ≤ lengthLimit ∧
        serial = padLeft width.toNat '0' (ofInt (start + context.rowIndex * step)) := by
  rw [callFunction_counter_eq_ok_iff]
  constructor
  · rintro ⟨_, _, _, started, stepped, padded, short, bounded, rfl⟩
    cases started.symm.trans counts.start_eq
    cases stepped.symm.trans counts.step_eq
    cases padded.symm.trans counts.width_eq
    exact ⟨short, bounded, rfl⟩
  · rintro ⟨short, bounded, rfl⟩
    exact ⟨start, step, width, counts.start_eq, counts.step_eq, counts.width_eq, short, bounded,
      rfl⟩

/--
A serial number is written as wide as it is wanted.  It is a numeral, of the number that it
counts and no other, exactly if no zeros hide its sign, and it is read back as that number
exactly if moreover the padding is not too long for a numeral.
-/
theorem counter_reads_back_iff
    (counts : Counts arguments start step width)
    (row : Row)
    (context : Context) :
    let number := start + context.rowIndex * step
    (Succeeds (callFunction Builtin.counter.name arguments row context) ↔
        number.natAbs < 10 ^ digitLimit ∧ width ≤ lengthLimit) ∧
      ∀ serial, callFunction Builtin.counter.name arguments row context = .ok serial →
        width ≤ serial.length ∧
          (∀ n, Writes n serial ↔ n = number ∧ SignLeads width.toNat number) ∧
          ∀ default, leadingInteger serial default = .ok number ↔
            SignLeads width.toNat number ∧ (number < 0 ∨ width ≤ digitLimit) := by
  intro number
  constructor
  · constructor
    · rintro ⟨serial, made⟩
      obtain ⟨short, bounded, -⟩ := counts.callFunction_eq_ok_iff.1 made
      exact ⟨short, bounded⟩
    · rintro ⟨short, bounded⟩
      exact ⟨_, counts.callFunction_eq_ok_iff.2 ⟨short, bounded, rfl⟩⟩
  · intro serial made
    obtain ⟨short, -, rfl⟩ := counts.callFunction_eq_ok_iff.1 made
    refine ⟨?_, fun n => writes_padLeft_ofInt_iff, fun default => ?_⟩
    · rw [length_padLeft]
      omega
    · rw [leadingInteger_padLeft_ofInt_iff short, Int.toNat_le]

theorem counter_reads_back_iff_signed :
    let arguments : List Text := ["-12".toList, "5".toList, "3".toList]
    let now : Moment := .midnight ⟨2026, 3, 15, by decide, by decide, by decide⟩
    Counts arguments (-12) 5 3 ∧
      callFunction Builtin.counter.name arguments [] ⟨0, 4, now⟩ = .ok "-12".toList ∧
      callFunction Builtin.counter.name arguments [] ⟨3, 4, now⟩ = .ok "003".toList ∧
      ∀ default,
        leadingInteger "-12".toList default = .ok (-12) ∧
          leadingInteger "003".toList default = .ok 3 := by
  intro arguments now
  have counts : Counts arguments (-12) 5 3 := ⟨by decide, by decide, by decide⟩
  have first :
      callFunction Builtin.counter.name arguments [] ⟨0, 4, now⟩ = .ok "-12".toList := by
    decide +kernel
  have last :
      callFunction Builtin.counter.name arguments [] ⟨3, 4, now⟩ = .ok "003".toList := by
    decide +kernel
  obtain ⟨-, -, firstRead⟩ := (counter_reads_back_iff counts [] ⟨0, 4, now⟩).2 _ first
  obtain ⟨-, -, lastRead⟩ := (counter_reads_back_iff counts [] ⟨3, 4, now⟩).2 _ last
  refine ⟨counts, first, last, fun default => ⟨?_, ?_⟩⟩
  · exact (firstRead default).2 ⟨by decide, by decide⟩
  · exact (lastRead default).2 ⟨by decide, by decide⟩

/-- Zeros in front of a minus sign leave no numeral, and zero is read back. -/
theorem counter_hides_sign :
    let arguments : List Text := ["-5".toList, "1".toList, "4".toList]
    let now : Moment := .midnight ⟨2026, 3, 15, by decide, by decide, by decide⟩
    Counts arguments (-5) 1 4 ∧
      callFunction Builtin.counter.name arguments [] ⟨0, 1, now⟩ = .ok "00-5".toList ∧
      (∀ n, ¬ Writes n "00-5".toList) ∧
      leadingInteger "00-5".toList 1 = .ok 0 ∧ (0 : Int) ≠ -5 + 0 * 1 := by
  intro arguments now
  refine ⟨⟨by decide, by decide, by decide⟩, by decide +kernel, fun n => ?_, by decide, by decide⟩
  exact @not_writes_of_hyphen n 1 "5".toList

end
end Builtin
end LabelPress
