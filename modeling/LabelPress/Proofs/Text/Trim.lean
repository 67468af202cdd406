import LabelPress.Text.Blank
import Mathlib.Data.List.DropRight

/-!
# Trimming

How trimming acts on texts with blanks around them.  Trimming looks only at the outer
blanks of a text: blanks put around a text do not change its trimmed form, and a
character that is not blank stops trimming from both sides.
-/

namespace LabelPress
namespace Text

/-- What every character of a text is to satisfy is decided along the text, and not over
all the characters that there are. -/
instance decidableForallMem
    {p : Char → Prop}
    [DecidablePred p]
    (text : Text) :
    Decidable (∀ c ∈ text, p c) :=
  List.decidableBAll p text

/-- Every character of a text is blank. -/
def AllBlank (text : Text) : Prop :=
  ∀ c ∈ text, isBlank c

instance (text : Text) : Decidable (AllBlank text) :=
  inferInstanceAs (Decidable (∀ c ∈ text, isBlank c))

theorem AllBlank.not_mem
    {c : Char}
    {blanks : Text}
    (blank : AllBlank blanks)
    (solid : isBlank c = false) :
    c ∉ blanks := by
  intro member
  rw [blank c member] at solid
  cases solid

/-- A text is another one between blanks. -/
def Spaced
    (core text : Text) : Prop :=
  ∃ before after, AllBlank before ∧ AllBlank after ∧ text = before ++ core ++ after

theorem Spaced.refl (text : Text) :
    Spaced text text :=
  ⟨[], [], by decide, by decide, (List.append_nil text).symm⟩

@[simp] theorem trimLeft_nil : trimLeft [] = [] := rfl

@[simp] theorem trimRight_nil : trimRight [] = [] := rfl

@[simp] theorem trim_nil : trim [] = [] := rfl

/-- Blanks in front of a text are dropped. -/
theorem trimLeft_append_of_allBlank
    {before : Text}
    (blank : AllBlank before)
    (text : Text) :
    trimLeft (before ++ text) = trimLeft text :=
  List.dropWhile_append_of_pos blank

/-- Blanks behind a text are dropped. -/
theorem trimRight_append_of_allBlank
    {after : Text}
    (blank : AllBlank after)
    (text : Text) :
    trimRight (text ++ after) = trimRight text := by
  unfold trimRight
  rw [List.reverse_append, List.dropWhile_append_of_pos]
  intro c member
  exact blank c (List.mem_reverse.1 member)

/-- Trimming the start leaves nothing of blanks. -/
theorem trimLeft_of_allBlank
    {text : Text}
    (blank : AllBlank text) :
    trimLeft text = [] :=
  List.dropWhile_eq_nil_iff.2 blank

/-- Trimming the end leaves nothing of blanks. -/
theorem trimRight_of_allBlank
    {text : Text}
    (blank : AllBlank text) :
    trimRight text = [] := by
  simpa using trimRight_append_of_allBlank blank []

/-- Trimming the start stops at a character that is not blank. -/
theorem trimLeft_append_cons
    {c : Char}
    (solid : isBlank c = false)
    (text rest : Text) :
    trimLeft (text ++ c :: rest) = trimLeft text ++ c :: rest := by
  unfold trimLeft
  rw [List.dropWhile_append]
  split
  · rename_i empty
    rw [List.isEmpty_iff] at empty
    simp [empty, solid]
  · rfl

/-- Trimming the end stops at a character that is not blank. -/
theorem trimRight_append_cons
    {c : Char}
    (solid : isBlank c = false)
    (text rest : Text) :
    trimRight (text ++ c :: rest) = text ++ c :: trimRight rest := by
  have reversed :
      (text ++ c :: rest).reverse = rest.reverse ++ c :: text.reverse := by
    simp
  have stops := trimLeft_append_cons solid rest.reverse text.reverse
  unfold trimLeft at stops
  unfold trimRight
  rw [reversed, stops]
  simp

/-- A text is its trimmed start behind blanks. -/
theorem exists_append_trimLeft (text : Text) :
    ∃ before, AllBlank before ∧ text = before ++ trimLeft text := by
  refine ⟨text.takeWhile isBlank, ?_, (List.takeWhile_append_dropWhile).symm⟩
  intro c member
  exact List.mem_takeWhile_imp member

/-- A text is its trimmed end before blanks. -/
theorem exists_trimRight_append (text : Text) :
    ∃ after, AllBlank after ∧ text = trimRight text ++ after := by
  obtain ⟨before, blank, reversed⟩ := exists_append_trimLeft text.reverse
  refine ⟨before.reverse, ?_, ?_⟩
  · intro c member
    exact blank c (List.mem_reverse.1 member)
  · have turned := congrArg List.reverse reversed
    simpa [trimLeft, trimRight] using turned

/-- Blanks in front of a text do not change its trimmed form. -/
theorem trim_append_left
    {before : Text}
    (blank : AllBlank before)
    (text : Text) :
    trim (before ++ text) = trim text := by
  unfold trim
  rw [trimLeft_append_of_allBlank blank]

/-- Blanks behind a text do not change its trimmed form. -/
theorem trim_append_right
    {after : Text}
    (blank : AllBlank after)
    (text : Text) :
    trim (text ++ after) = trim text := by
  unfold trim trimLeft
  rw [List.dropWhile_append]
  split
  · rename_i empty
    rw [List.isEmpty_iff] at empty
    have gone : after.dropWhile isBlank = [] := trimLeft_of_allBlank blank
    rw [empty, gone]
  · exact trimRight_append_of_allBlank blank _

/-- Blanks around a text do not change its trimmed form. -/
theorem Spaced.trim_eq
    {core text : Text}
    (spaced : Spaced core text) :
    trim text = trim core := by
  obtain ⟨before, after, blankBefore, blankAfter, rfl⟩ := spaced
  rw [trim_append_right blankAfter, trim_append_left blankBefore]

/-- Trimming the start first changes nothing for trimming. -/
theorem trim_trimLeft (text : Text) :
    trim (trimLeft text) = trim text := by
  obtain ⟨before, blank, parted⟩ := exists_append_trimLeft text
  conv_rhs => rw [parted]
  exact (trim_append_left blank _).symm

/-- Trimming the end first changes nothing for trimming. -/
theorem trim_trimRight (text : Text) :
    trim (trimRight text) = trim text := by
  obtain ⟨after, blank, parted⟩ := exists_trimRight_append text
  conv_rhs => rw [parted]
  exact (trim_append_right blank _).symm

/-- A text is its trimmed form between blanks. -/
theorem spaced_trim (text : Text) :
    Spaced (trim text) text := by
  obtain ⟨before, blankBefore, left⟩ := exists_append_trimLeft text
  obtain ⟨after, blankAfter, right⟩ := exists_trimRight_append (trimLeft text)
  refine ⟨before, after, blankBefore, blankAfter, ?_⟩
  unfold trim
  rw [List.append_assoc, ← right, ← left]

/-- Only blanks are trimmed away altogether. -/
theorem trim_eq_nil_iff {text : Text} :
    trim text = [] ↔ AllBlank text := by
  constructor
  · intro empty
    obtain ⟨before, after, blankBefore, blankAfter, parted⟩ := spaced_trim text
    rw [empty, List.append_nil] at parted
    rw [parted]
    intro c member
    exact (List.mem_append.1 member).elim (blankBefore c) (blankAfter c)
  · intro blank
    rw [trim, trimLeft_of_allBlank blank, trimRight_nil]

/-- Trimming twice is trimming once. -/
@[simp] theorem trim_trim (text : Text) :
    trim (trim text) = trim text :=
  (spaced_trim text).trim_eq.symm

/-- A text between two characters that are not blank is trimmed. -/
theorem trim_cons_append_singleton
    {first last : Char}
    (solidFirst : isBlank first = false)
    (solidLast : isBlank last = false)
    (text : Text) :
    trim (first :: text ++ [last]) = first :: text ++ [last] := by
  unfold trim
  rw [List.cons_append, ← List.nil_append (first :: (text ++ [last])),
    trimLeft_append_cons solidFirst, trimLeft_nil, List.nil_append, ← List.cons_append,
    trimRight_append_cons solidLast, trimRight_nil]

/-- A text without blanks is trimmed. -/
theorem trim_eq_self
    {text : Text}
    (solid : ∀ c ∈ text, isBlank c = false) :
    trim text = text := by
  cases text using List.reverseRecOn with
  | nil => rfl
  | append_singleton rest last _ =>
      cases rest with
      | nil =>
          have lastSolid : isBlank last = false := solid last (by simp)
          simp [trim, trimLeft, trimRight, lastSolid]
      | cons first middle =>
          exact trim_cons_append_singleton (solid first (by simp))
            (solid last (by simp)) middle

theorem trim_isInfix (text : Text) :
    trim text <:+: text := by
  have front : trimRight (trimLeft text) <+: trimLeft text := by
    simpa [trimRight] using
      List.reverse_prefix.2 (List.dropWhile_suffix isBlank (l := (trimLeft text).reverse))
  exact front.isInfix.trans (List.dropWhile_suffix isBlank).isInfix

end Text
end LabelPress
