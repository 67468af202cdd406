import LabelPress.Proofs.Number.Numeral

/-!
# Padded integers

Integers whose numerals are filled with zeros on the left, which go in front of a minus sign
as well.  Main statements: different integers stay different; but a padded integer is a
numeral, and is read back, only if no zeros hide its sign.
-/

namespace LabelPress

open NumberLiteral

namespace Numeral

variable {width : Nat} {m n : Int}

/-! ## Telling padded integers apart -/

theorem valueOf_ofInt (n : Int) :
    valueOf (ofInt n) = n.natAbs := by
  cases n with
  | ofNat n => exact valueOf_ofNat n
  | negSucc n => exact valueOf_ofNat (n + 1)

/-- The sign of a negative number stays visible behind the padding. -/
theorem hyphen_mem_padLeft_ofInt
    {n : Int} :
    '-' ∈ padLeft width '0' (ofInt n) ↔ n < 0 := by
  cases n with
  | ofNat n =>
      refine iff_of_false (fun member => ?_) (Int.not_lt.2 (Int.natCast_nonneg n))
      exact absurd (isDigit_of_mem_padLeft (fun _ => isDigit_of_mem_ofNat) '-' member) (by decide)
  | negSucc n =>
      exact iff_of_true (List.mem_append_right _ List.mem_cons_self) (Int.negSucc_lt_zero n)

/-- Different integers are different also with padding. -/
theorem padLeft_ofInt_injective (width : Nat) :
    Function.Injective fun n => padLeft width '0' (ofInt n) := by
  intro m n same
  have size : m.natAbs = n.natAbs := by
    have values := congrArg valueOf same
    rwa [valueOf_padLeft, valueOf_padLeft, valueOf_ofInt, valueOf_ofInt] at values
  have sign : m < 0 ↔ n < 0 := by
    rw [← hyphen_mem_padLeft_ofInt, ← hyphen_mem_padLeft_ofInt]
    exact iff_of_eq (congrArg ('-' ∈ ·) same)
  omega

/-! ## Padded integers as numerals -/

/-- A number is written once only by each text. -/
theorem Writes.eq
    {text : Text}
    (writes : Writes m text)
    (otherWrites : Writes n text) :
    m = n := by
  obtain ⟨negative, digits, first, others, signed, scanned, -, rfl⟩ := writes.exists_scan
  obtain ⟨_, _, _, _, otherSigned, otherScanned, -, rfl⟩ := otherWrites.exists_scan
  cases signed.symm.trans otherSigned
  cases scanned.symm.trans otherScanned
  rfl

/-- A padded number with its sign in front: there is no sign, or no zero before it. -/
def SignLeads
    (width : Nat)
    (n : Int) : Prop :=
  0 ≤ n ∨ width ≤ (ofInt n).length

instance (width : Nat) (n : Int) : Decidable (SignLeads width n) :=
  inferInstanceAs (Decidable (_ ∨ _))

theorem allDigits_padLeft_ofNat (width n : Nat) :
    Text.AllDigits (padLeft width '0' (ofNat n)) :=
  .ofAscii (isDigit_of_mem_padLeft fun _ => isDigit_of_mem_ofNat)

theorem padLeft_ofNat_ne_nil (width n : Nat) :
    padLeft width '0' (ofNat n) ≠ [] :=
  List.append_ne_nil_of_right_ne_nil _ (ofNat_ne_nil n)

/-- A natural number is written also with padding. -/
theorem writes_padLeft_ofNat
    (width n : Nat) :
    Writes n (padLeft width '0' (ofNat n)) := by
  have written :=
    Writes.unsigned (padLeft_ofNat_ne_nil width n) (allDigits_padLeft_ofNat width n)
  rwa [valueOf_padLeft, valueOf_ofNat] at written

theorem SignLeads.writes
    (leads : SignLeads width n) :
    Writes n (padLeft width '0' (ofInt n)) := by
  rcases leads with positive | long
  · obtain ⟨n, rfl⟩ := Int.eq_ofNat_of_zero_le positive
    exact writes_padLeft_ofNat width n
  · rw [padLeft_of_length_le long]
    exact writes_ofInt n

/-- The zeros and the numeral of a negative number behind them. -/
theorem exists_padLeft_ofInt
    (hidden : ¬ SignLeads width n) :
    ∃ count digits, padLeft width '0' (ofInt n) =
      List.replicate (count + 1) '0' ++ '-' :: digits := by
  rw [SignLeads, not_or, not_le, not_le] at hidden
  obtain ⟨negative, short⟩ := hidden
  cases n with
  | ofNat n => exact absurd negative (Int.not_lt.2 (Int.natCast_nonneg n))
  | negSucc n =>
      refine ⟨width - (ofInt (.negSucc n)).length - 1, ofNat (n + 1), ?_⟩
      rw [padLeft, Nat.sub_add_cancel (Nat.sub_pos_of_lt short)]
      rfl

/-- A text that starts with a digit and holds a hyphen is no way of writing an integer. -/
theorem not_writes_of_hyphen
    {count : Nat}
    {digits : Text} :
    ¬ Writes m (List.replicate (count + 1) '0' ++ '-' :: digits) := by
  rw [List.replicate_succ, List.cons_append]
  generalize same : '0' :: (List.replicate count '0' ++ '-' :: digits) = text
  intro writes
  cases writes with
  | unsigned nonempty allDigits =>
      have hyphen : Text.isDigit '-' := by
        apply allDigits
        simp [← same]
      exact absurd hyphen (by decide)
  | positive nonempty allDigits => exact absurd (List.cons.inj same).1 (by decide)
  | negative nonempty allDigits => exact absurd (List.cons.inj same).1 (by decide)

/-- A padded number is a numeral exactly if its sign stays in front, and then its own. -/
theorem writes_padLeft_ofInt_iff :
    Writes m (padLeft width '0' (ofInt n)) ↔ m = n ∧ SignLeads width n := by
  by_cases leads : SignLeads width n
  · constructor
    · intro writes
      exact ⟨writes.eq leads.writes, leads⟩
    · rintro ⟨rfl, -⟩
      exact leads.writes
  · obtain ⟨count, digits, padded⟩ := exists_padLeft_ofInt leads
    rw [padded]
    exact iff_of_false not_writes_of_hyphen fun claimed => leads claimed.2

/-- A padded natural number is read back unless the padding itself is too long. -/
theorem leadingInteger_padLeft_ofNat
    (width : Nat)
    {n : Nat}
    (short : n < 10 ^ digitLimit)
    (default : Int) :
    leadingInteger (padLeft width '0' (ofNat n)) default =
      if digitLimit < width then .error .tooManyDigits else .ok n := by
  have digits := allDigits_padLeft_ofNat width n
  have signed : scanSign (padLeft width '0' (ofNat n)) =
      (false, padLeft width '0' (ofNat n) ++ []) := by
    rw [scanSign_of_allDigits digits, List.append_nil]
  have size := length_ofNat_le (by decide) short
  have long : digitLimit < max width (ofNat n).length ↔ digitLimit < width := by omega
  rw [leadingInteger_of_scanSign signed (padLeft_ofNat_ne_nil width n) digits rfl,
    length_padLeft, valueOf_padLeft, valueOf_ofNat]
  simp only [long, Bool.false_eq_true, if_false]

/-- Zeros in front of a hyphen are all that is read. -/
theorem leadingInteger_replicate_hyphen
    (count : Nat)
    (digits : Text)
    (default : Int) :
    leadingInteger (List.replicate (count + 1) '0' ++ '-' :: digits) default =
      if digitLimit < count + 1 then .error .tooManyDigits else .ok 0 := by
  have zeros := allDigits_replicate_zero (count + 1)
  have signed : scanSign (List.replicate (count + 1) '0' ++ '-' :: digits) =
      (false, List.replicate (count + 1) '0' ++ '-' :: digits) :=
    scanSign_cons (by decide) _
  rw [leadingInteger_of_scanSign signed (List.cons_ne_nil _ _) zeros rfl,
    List.length_replicate, valueOf_replicate_zero]
  rfl

/--
A padded number is read back exactly if its sign stays in front and its digits are not too
many, which padding alone can cause.
-/
theorem leadingInteger_padLeft_ofInt_iff
    (short : n.natAbs < 10 ^ digitLimit)
    (default : Int) :
    leadingInteger (padLeft width '0' (ofInt n)) default = .ok n ↔
      SignLeads width n ∧ (n < 0 ∨ width ≤ digitLimit) := by
  by_cases leads : SignLeads width n
  · cases n with
    | ofNat n =>
        have natural : ¬ Int.ofNat n < 0 := Int.not_lt.2 (Int.natCast_nonneg n)
        rw [and_iff_right leads, or_iff_right natural, ofInt,
          leadingInteger_padLeft_ofNat width (n := n) short]
        simp
    | negSucc n =>
        rw [padLeft_of_length_le (leads.resolve_left (by simp)),
          leadingInteger_ofInt short]
        simp [leads]
  · obtain ⟨count, digits, padded⟩ := exists_padLeft_ofInt leads
    rw [padded, leadingInteger_replicate_hyphen]
    refine iff_of_false ?_ fun claimed => leads claimed.1
    split_ifs
    · simp
    · intro same
      cases same
      exact leads (Or.inl (le_refl _))

end Numeral
end LabelPress
