import LabelPress.Expr.Scan
import LabelPress.Proofs.Row.Record

/-!
# Columns that are not found

A column is looked up by its name in any case.  Changing case neither makes nor removes
a quote, so a name with a quote in it finds only keys with a quote in them.
-/

namespace LabelPress
namespace Text

theorem toNat_le_of_isQuote
    {c : Char}
    (quote : isQuote c) :
    c.toNat ≤ 0x27 := by
  simp only [isQuote, Bool.or_eq_true, beq_iff_eq] at quote
  rcases quote with rfl | rfl <;> decide

theorem toNat_ofNat
    {code : Nat}
    (valid : code.isValidChar) :
    (Char.ofNat code).toNat = code := by
  rw [Char.ofNat, dif_pos valid]
  rfl

/-- Quotes lie below all characters that the tables of lower case map to. -/
theorem isQuote_ofNat_eq_false
    {code : Nat}
    (above : 0x27 < code) :
    isQuote (Char.ofNat code) = false := by
  rw [← Bool.not_eq_true]
  intro quote
  by_cases valid : code.isValidChar
  · have below := toNat_le_of_isQuote quote
    rw [toNat_ofNat valid] at below
    exact Nat.not_le.2 above below
  · rw [Char.ofNat, dif_neg valid] at quote
    exact absurd quote (by decide)

/-- An image under a run of a table is at least the first image of that run. -/
theorem exists_le_of_apply?
    {runs : List CaseRun}
    {code image : Nat}
    (applied : CaseRun.apply? runs code = some image) :
    ∃ run ∈ runs, run.image ≤ image := by
  obtain ⟨run, found, rfl⟩ := Option.map_eq_some_iff.1 applied
  exact ⟨run, List.mem_of_find?_eq_some found, Nat.le_add_right _ _⟩

theorem lowerRuns_above : ∀ run ∈ lowerRuns, 0x27 < run.image := by
  decide +kernel

/-- No character beyond ASCII has a quote in its lower case. -/
theorem isQuote_eq_false_of_mem_mapCase
    {c image : Char}
    (beyond : 128 ≤ c.toNat)
    (member : image ∈ mapCase lowerExpansions lowerRuns c) :
    isQuote image = false := by
  unfold mapCase at member
  split at member
  · rename_i images expanded
    obtain ⟨before, after, parted, -⟩ := List.lookup_eq_some_iff.1 expanded
    have listed : (c.toNat, images) ∈ lowerExpansions := by simp [parted]
    obtain ⟨code, inside, rfl⟩ := List.mem_map.1 member
    have above : ∀ entry ∈ lowerExpansions, ∀ code ∈ entry.2, 0x27 < code := by decide
    exact isQuote_ofNat_eq_false (above _ listed code inside)
  · split at member
    · rename_i code applied
      obtain ⟨run, listed, bound⟩ := exists_le_of_apply? applied
      obtain rfl := List.mem_singleton.1 member
      exact isQuote_ofNat_eq_false (Nat.lt_of_lt_of_le (lowerRuns_above run listed) bound)
    · obtain rfl := List.mem_singleton.1 member
      rw [← Char.ofNat_toNat image]
      exact isQuote_ofNat_eq_false (by omega)

/-- Among the ASCII characters the quotes are their own lower case and no other's. -/
theorem toLower_of_isQuote
    {c : Char}
    (ascii : c.toNat < 128)
    (quote : isQuote c ∨ isQuote c.toLower) :
    c.toLower = c := by
  have each :
      ∀ code < 128,
        isQuote (Char.ofNat code) ∨ isQuote (Char.ofNat code).toLower →
          (Char.ofNat code).toLower = Char.ofNat code := by
    decide
  have here := each c.toNat ascii
  rw [Char.ofNat_toNat] at here
  exact here quote

/-- A quote is its own lower case and no other character's. -/
theorem mem_lowerChar_iff_of_isQuote
    {quote : Char}
    (quoting : isQuote quote)
    (c : Char) :
    quote ∈ lowerChar c ↔ quote = c := by
  unfold lowerChar
  split
  · rename_i ascii
    rw [List.mem_singleton]
    constructor
    · rintro rfl
      exact toLower_of_isQuote ascii (Or.inr quoting)
    · rintro rfl
      exact (toLower_of_isQuote ascii (Or.inl quoting)).symm
  · rename_i beyond
    apply iff_of_false
    · intro member
      have plain := isQuote_eq_false_of_mem_mapCase (Nat.not_lt.1 beyond) member
      rw [plain] at quoting
      cases quoting
    · rintro rfl
      exact beyond (Nat.lt_of_le_of_lt (toNat_le_of_isQuote quoting) (by decide))

/-- Lower case keeps the quotes of a text and adds none, whatever stands before it. -/
theorem mem_lowerAfter_iff_of_isQuote
    {quote : Char}
    (quoting : isQuote quote)
    (before text : Text) :
    quote ∈ lowerAfter before text ↔ quote ∈ text := by
  induction text generalizing before with
  | nil => rfl
  | cons c rest inductionHypothesis =>
      rw [lowerAfter, List.mem_append, List.mem_cons, inductionHypothesis]
      apply or_congr_left
      split
      · rename_i sigma
        have different : quote ≠ c := by
          rintro rfl
          have ascii := toNat_le_of_isQuote quoting
          omega
        have above {code : Nat} (bound : 0x27 < code) : quote ∉ [Char.ofNat code] := by
          intro member
          obtain rfl := List.mem_singleton.1 member
          rw [isQuote_ofNat_eq_false bound] at quoting
          cases quoting
        split
        · exact iff_of_false (above (by decide)) different
        · exact iff_of_false (above (by decide)) different
      · exact mem_lowerChar_iff_of_isQuote quoting c

theorem mem_lower_iff_of_isQuote
    {quote : Char}
    (quoting : isQuote quote)
    (text : Text) :
    quote ∈ lower text ↔ quote ∈ text :=
  mem_lowerAfter_iff_of_isQuote quoting [] text

end Text

/-- A name with a quote is in no row whose keys have none. -/
theorem Row.column?_eq_none_of_isQuote
    {row : Row}
    {quote : Char}
    {name : Text}
    (quoting : isQuote quote)
    (member : quote ∈ name)
    (free : ∀ key cell, (ColumnKey.name key, cell) ∈ row → quote ∉ key) :
    row.column? name = .ok none := by
  have absent : row.find? name = none := by
    rw [Option.eq_none_iff_forall_ne_some]
    intro cell found
    obtain ⟨key, listed, -, folded⟩ := mem_record.1 (mem_record_of_find? found)
    apply free key cell listed
    rw [← Text.mem_lower_iff_of_isQuote quoting, folded, Text.mem_lower_iff_of_isQuote quoting]
    exact member
  rw [column?, absent]

end LabelPress
