import LabelPress.Text.Search
import Mathlib.Data.List.Infix

/-!
# Cutting and replacing

How the cut of a text at a character, and the cut before every place of a word, follow the
parts of the text, where the cut around the first place of a word lies, and what the
replacement of a word leaves alone.
-/

namespace LabelPress
namespace Text

/-- Text without the separator joins the first piece of what follows it. -/
theorem splitAt_append
    {separator : Char}
    {left right first : Text}
    {others : List Text}
    (absent : separator ∉ left)
    (cut : splitAt separator right = first :: others) :
    splitAt separator (left ++ right) = (left ++ first) :: others := by
  induction left with
  | nil => exact cut
  | cons c rest inductionHypothesis =>
      have different : c ≠ separator := fun same => absent (by simp [same])
      have later := inductionHypothesis fun member => absent (List.mem_cons_of_mem c member)
      rw [List.cons_append, splitAt, if_neg different, later]
      rfl

/-- A character that the first of two texts lacks stands in the second one. -/
theorem exists_append_of_not_mem
    {c : Char}
    {left right front rest : Text}
    (absent : c ∉ left)
    (same : left ++ right = front ++ c :: rest) :
    ∃ more, front = left ++ more ∧ right = more ++ c :: rest := by
  rcases List.append_eq_append_iff.1 same with ⟨more, parted, behind⟩ | ⟨more, rfl, behind⟩
  · exact ⟨more, parted, behind⟩
  · cases more with
    | nil => exact ⟨[], by simp, behind.symm⟩
    | cons d more =>
        obtain rfl : c = d := (List.cons.inj behind).1
        exact absurd (by simp) absent

/-- Joined pieces end with the last one. -/
theorem isSuffix_join
    (separator : Text)
    (pieces : List Text)
    (last : Text) :
    last <:+ join separator (pieces ++ [last]) := by
  induction pieces with
  | nil => exact List.suffix_rfl
  | cons first others inductionHypothesis =>
      have nonempty : others ++ [last] ≠ [] :=
        List.append_ne_nil_of_right_ne_nil others (List.cons_ne_nil last [])
      obtain ⟨next, rest, split⟩ := List.exists_cons_of_ne_nil nonempty
      rw [split] at inductionHypothesis
      rw [List.cons_append, split, join]
      exact List.suffix_append_of_suffix inductionHypothesis

/-- Text in front of the first piece stands in front of the joined pieces. -/
theorem join_append_first
    (separator front first : Text)
    (others : List Text) :
    join separator ((front ++ first) :: others) = front ++ join separator (first :: others) := by
  cases others with
  | nil => rfl
  | cons second others => simp only [join, List.append_assoc]

/-- Joined pieces begin with the first one. -/
theorem isPrefix_join
    (separator first : Text)
    (others : List Text) :
    first <+: join separator (first :: others) := by
  cases others with
  | nil => exact List.prefix_rfl
  | cons second others => exact ⟨separator ++ join separator (second :: others), by simp [join]⟩

/-- Every piece stands in the joined pieces. -/
theorem isInfix_join
    {separator piece : Text}
    {pieces : List Text}
    (member : piece ∈ pieces) :
    piece <:+: join separator pieces := by
  induction pieces with
  | nil => cases member
  | cons first others inductionHypothesis =>
      rcases List.mem_cons.1 member with rfl | later
      · exact (isPrefix_join separator piece others).isInfix
      · obtain ⟨second, rest, rfl⟩ := List.exists_cons_of_ne_nil (List.ne_nil_of_mem later)
        rw [join]
        exact (inductionHypothesis later).trans (List.suffix_append _ _).isInfix

/-- A character of joined pieces comes from the separator or from one of them. -/
theorem mem_join
    {c : Char}
    {separator : Text}
    {pieces : List Text}
    (member : c ∈ join separator pieces) :
    c ∈ separator ∨ ∃ piece ∈ pieces, c ∈ piece := by
  induction pieces with
  | nil => cases member
  | cons first others inductionHypothesis =>
      cases others with
      | nil => exact Or.inr ⟨first, List.mem_cons_self, member⟩
      | cons second others =>
          rw [join, List.mem_append, List.mem_append] at member
          rcases member with (here | between) | later
          · exact Or.inr ⟨first, List.mem_cons_self, here⟩
          · exact Or.inl between
          · apply (inductionHypothesis later).imp_right
            rintro ⟨piece, behind, inside⟩
            exact ⟨piece, List.mem_cons_of_mem first behind, inside⟩

/-- Two lists of pieces are joined with one more separator between them. -/
theorem join_append
    (separator : Text)
    {front behind : List Text}
    (nonempty : front ≠ [])
    (behindNonempty : behind ≠ []) :
    join separator (front ++ behind) =
      join separator front ++ separator ++ join separator behind := by
  obtain ⟨next, rest, rfl⟩ := List.exists_cons_of_ne_nil behindNonempty
  induction front with
  | nil => exact absurd rfl nonempty
  | cons first others inductionHypothesis =>
      cases others with
      | nil => rfl
      | cons second others =>
          have later := inductionHypothesis (List.cons_ne_nil second others)
          rw [List.cons_append] at later
          rw [List.cons_append, List.cons_append, join, join, later]
          simp only [List.append_assoc]

/-- Pieces that are not longer are not longer when they are joined. -/
theorem length_join_map_le
    (separator : Text)
    {change : Text → Text}
    (shortens : ∀ piece, (change piece).length ≤ piece.length)
    (pieces : List Text) :
    (join separator (pieces.map change)).length ≤ (join separator pieces).length := by
  induction pieces with
  | nil => exact Nat.le_refl _
  | cons first others inductionHypothesis =>
      have here := shortens first
      cases others with
      | nil => exact here
      | cons second others =>
          rw [List.map_cons] at inductionHypothesis
          rw [List.map_cons, List.map_cons, join, join]
          simp only [List.length_append]
          omega

/-- Pieces without the last one are not longer when they are joined. -/
theorem length_join_dropLast_le
    (separator : Text)
    (pieces : List Text) :
    (join separator pieces.dropLast).length ≤ (join separator pieces).length := by
  by_cases alone : pieces.dropLast = []
  · rw [alone]
    exact Nat.zero_le _
  · have nonempty : pieces ≠ [] := by
      rintro rfl
      exact alone rfl
    rw [← List.dropLast_append_getLast nonempty,
      join_append separator alone (List.cons_ne_nil _ _), List.dropLast_concat]
    simp only [List.length_append]
    omega

/-! ## Cutting before a word -/

/-- The number of places at which a word stands in a text. -/
def occurrences
    (word text : Text) : Nat :=
  text.tails.countP fun tail => word.isPrefixOf tail

/-- Cut a text before every place at which a word stands. -/
def cutBefore (word : Text) : Text → List Text
  | [] => []
  | c :: rest =>
      if word.isPrefixOf rest then
        [c] :: cutBefore word rest
      else
        match cutBefore word rest with
        | [] => [[c]]
        | first :: others => (c :: first) :: others

section
variable {word left rest : Text}

theorem occurrences_cons
    (word : Text)
    (c : Char)
    (rest : Text) :
    occurrences word (c :: rest) =
      occurrences word rest + if word.isPrefixOf (c :: rest) then 1 else 0 := by
  rw [occurrences, List.tails_cons, List.countP_cons, occurrences]

theorem occurrences_le_append
    (word left rest : Text) :
    occurrences word rest ≤ occurrences word (left ++ rest) := by
  induction left with
  | nil => exact Nat.le_refl _
  | cons c left inductionHypothesis =>
      rw [List.cons_append, occurrences_cons]
      exact Nat.le_add_right_of_le inductionHypothesis

/-- A word does not begin in a text that lacks its first character. -/
theorem occurrences_append_of_not_mem
    {c : Char}
    (absent : c ∉ left)
    (rest : Text) :
    occurrences (c :: word) (left ++ rest) = occurrences (c :: word) rest := by
  induction left with
  | nil => rfl
  | cons d left inductionHypothesis =>
      rw [List.mem_cons, not_or] at absent
      rw [List.cons_append, occurrences_cons, inductionHypothesis absent.2,
        if_neg (by simp [List.isPrefixOf, absent.1]), Nat.add_zero]

/-- A text in which no word begins but at its start stays whole. -/
theorem cutBefore_append
    (solid : word ≠ [])
    (nonempty : left ≠ [])
    (free : occurrences word (left.tail ++ rest) = occurrences word rest)
    (begins : rest = [] ∨ word <+: rest) :
    cutBefore word (left ++ rest) = left :: cutBefore word rest := by
  induction left with
  | nil => exact absurd rfl nonempty
  | cons c tail inductionHypothesis =>
      rw [List.cons_append, cutBefore]
      cases tail with
      | nil =>
          rcases begins with rfl | begins
          · have apart : ¬ word.isPrefixOf [] := by
              rw [List.isPrefixOf_iff_prefix, List.prefix_nil]
              exact solid
            rw [List.nil_append, if_neg apart]
            rfl
          · rw [List.nil_append, if_pos (List.isPrefixOf_iff_prefix.2 begins)]
      | cons d others =>
          rw [List.tail_cons, List.cons_append, occurrences_cons] at free
          have least := occurrences_le_append word others rest
          have apart : ¬ word.isPrefixOf (d :: (others ++ rest)) := by
            intro here
            rw [if_pos here] at free
            omega
          rw [if_neg apart] at free
          rw [List.cons_append, if_neg apart, ← List.cons_append,
            inductionHypothesis (List.cons_ne_nil d others) free]

end

/-- A word lies in the second of two texts if the first one shares no character with it. -/
theorem isInfix_append_right
    {word left right : Text}
    (solid : word ≠ [])
    (apart : ∀ c ∈ left, c ∉ word)
    (found : word <:+: left ++ right) :
    word <:+: right := by
  induction left with
  | nil => exact found
  | cons c left inductionHypothesis =>
      rw [List.forall_mem_cons] at apart
      rcases List.infix_cons_iff.1 found with begins | later
      · obtain ⟨d, rest, rfl⟩ := List.exists_cons_of_ne_nil solid
        obtain ⟨rfl, -⟩ := List.cons_prefix_cons.1 begins
        exact absurd List.mem_cons_self apart.1
      · exact inductionHypothesis apart.2 later

/-- A word lies in the first of two texts if the second one shares no character with it. -/
theorem isInfix_append_left
    {word left right : Text}
    (solid : word ≠ [])
    (apart : ∀ c ∈ right, c ∉ word)
    (found : word <:+: left ++ right) :
    word <:+: left := by
  have turned : word.reverse <:+: right.reverse ++ left.reverse := by
    simpa using List.reverse_infix.2 found
  have inside : word.reverse <:+: left.reverse :=
    isInfix_append_right (by simpa using solid) (by simpa using apart) turned
  exact List.reverse_infix.1 inside

/-! ## The first place of a word -/

section
variable {word text left right : Text}

theorem splitOnce?_eq_none_iff
    (solid : word ≠ []) :
    splitOnce? word text = none ↔ ¬ word <:+: text := by
  induction text with
  | nil => simp [splitOnce?, solid]
  | cons c rest inductionHypothesis =>
      rw [splitOnce?, List.infix_cons_iff, not_or, ← inductionHypothesis,
        ← List.isPrefixOf_iff_prefix]
      split <;> simp_all

/-- A text holds a word exactly if the word is a part of it. -/
theorem contains_iff
    (solid : word ≠ []) :
    contains word text = true ↔ word <:+: text := by
  rw [contains, Option.isSome_iff_ne_none, Ne, splitOnce?_eq_none_iff solid, not_not]

theorem append_dropLast_isPrefix
    (left word right : Text) :
    left ++ word.dropLast <+: left ++ word ++ right := by
  rw [List.append_assoc, List.prefix_append_right_inj]
  exact (List.dropLast_prefix word).trans (List.prefix_append word right)

theorem exists_of_splitOnce?
    (solid : word ≠ [])
    (cut : splitOnce? word text = some (left, right)) :
    text = left ++ word ++ right ∧ ¬ word <:+: left ++ word.dropLast := by
  induction text generalizing left with
  | nil => simp [splitOnce?, solid] at cut
  | cons c rest inductionHypothesis =>
      rw [splitOnce?] at cut
      split at cut
      · rename_i here
        obtain ⟨behind, parted⟩ := List.isPrefixOf_iff_prefix.1 here
        rw [← parted, List.drop_left, Option.some.injEq, Prod.mk.injEq] at cut
        obtain ⟨rfl, rfl⟩ := cut
        refine ⟨parted.symm, fun inside => ?_⟩
        have size := inside.length_le
        have positive := List.length_pos_iff.2 solid
        simp only [List.nil_append, List.length_dropLast] at size
        omega
      · rename_i later
        obtain ⟨⟨front, behind⟩, found, same⟩ := Option.map_eq_some_iff.1 cut
        simp only [Prod.mk.injEq] at same
        obtain ⟨rfl, rfl⟩ := same
        obtain ⟨rfl, first⟩ := inductionHypothesis found
        refine ⟨rfl, fun inside => ?_⟩
        rcases List.infix_cons_iff.1 inside with begins | further
        · have reaches := append_dropLast_isPrefix (c :: front) word behind
          exact later (List.isPrefixOf_iff_prefix.2 (begins.trans reaches))
        · exact first further

theorem splitOnce?_append
    (solid : word ≠ [])
    (first : ¬ word <:+: left ++ word.dropLast) :
    splitOnce? word (left ++ word ++ right) = some (left, right) := by
  induction left with
  | nil =>
      obtain ⟨c, rest, rfl⟩ := List.exists_cons_of_ne_nil solid
      simp [splitOnce?]
  | cons c left inductionHypothesis =>
      have positive := List.length_pos_iff.2 solid
      have later : ¬ word.isPrefixOf (c :: (left ++ word ++ right)) := by
        rw [List.isPrefixOf_iff_prefix]
        intro begins
        have short : word.length ≤ (c :: left ++ word.dropLast).length := by
          simp only [List.length_append, List.length_cons, List.length_dropLast]
          omega
        have reaches := append_dropLast_isPrefix (c :: left) word right
        exact first (List.prefix_of_prefix_length_le begins reaches short).isInfix
      have inner : ¬ word <:+: left ++ word.dropLast := fun inside =>
        first (inside.trans (List.suffix_cons c _).isInfix)
      rw [List.cons_append, List.cons_append, splitOnce?, if_neg later, inductionHypothesis inner]
      rfl

/-- A text is cut around a word where the word ends for the first time. -/
theorem splitOnce?_eq_some_iff
    (solid : word ≠ []) :
    splitOnce? word text = some (left, right) ↔
      text = left ++ word ++ right ∧ ¬ word <:+: left ++ word.dropLast := by
  constructor
  · exact exists_of_splitOnce? solid
  · rintro ⟨rfl, first⟩
    exact splitOnce?_append solid first

end

/-- A text without a line break at its end. -/
def dropBreak (text : Text) : Text :=
  if text.getLast? = some '\n' then text.dropLast else text

theorem dropBreak_append_break (text : Text) :
    dropBreak (text ++ ['\n']) = text := by
  simp [dropBreak]

/-- A part that shares no character with a word is passed over in the search for it. -/
theorem replaceAll_append_of_apart
    {word kept : Text}
    (apart : ∀ c ∈ kept, c ∉ word)
    (replacement rest : Text) :
    replaceAll word replacement (kept ++ rest) = kept ++ replaceAll word replacement rest := by
  induction kept with
  | nil => rfl
  | cons c kept inductionHypothesis =>
      have elsewhere : ¬ (!word.isEmpty && word.isPrefixOf (c :: (kept ++ rest))) := by
        cases word with
        | nil => simp
        | cons d word =>
            have different : d ≠ c := by
              rintro rfl
              exact apart d List.mem_cons_self List.mem_cons_self
            simp [List.isPrefixOf, different]
      rw [List.cons_append, replaceAll, if_neg elsewhere,
        inductionHypothesis fun d member => apart d (List.mem_cons_of_mem c member)]
      rfl

/-- A character that the word lacks is kept. -/
theorem mem_replaceAll
    {word text : Text}
    {c : Char}
    (absent : c ∉ word)
    (member : c ∈ text)
    (replacement : Text) :
    c ∈ replaceAll word replacement text := by
  fun_induction replaceAll word replacement text with
  | case1 => exact member
  | case2 d rest found inductionHypothesis =>
      rw [Bool.and_eq_true, List.isPrefixOf_iff_prefix] at found
      have solid : word ≠ [] := by simpa using found.1
      obtain ⟨e, others, rfl⟩ := List.exists_cons_of_ne_nil solid
      obtain ⟨rfl, behind, rfl⟩ := List.cons_prefix_cons.1 found.2
      rw [← List.cons_append, List.mem_append] at member
      refine List.mem_append_right _ (inductionHypothesis ?_)
      simpa using member.resolve_left absent
  | case3 d rest _ inductionHypothesis =>
      rcases List.mem_cons.1 member with rfl | later
      · exact List.mem_cons_self
      · exact List.mem_cons_of_mem d (inductionHypothesis later)

end Text
end LabelPress
