import LabelPress.CommandLine.Arguments
import LabelPress.Proofs.Outcome

/-!
# Command lines without an output file

What is left of a command line when the options that name an output file are taken out.
Main statement: it asks for the same labels, to be printed.

A value always stands right behind its option, so each option is taken out with it.  What
is left may have two dashes alone behind another word than before, which reads the same.
-/

namespace LabelPress
namespace CommandLine

/-- The arguments without the options that name an output file. -/
def withoutOut : List Text → List Text
  | [] => []
  | text :: others =>
      if text = "--".toList then
        text :: others
      else
        match Word.ofText text with
        | .ok (.switch .out (some _)) => withoutOut others
        | .ok (.switch .out none) =>
            match others with
            | [] => []
            | _ :: behind => withoutOut behind
        | _ => text :: withoutOut others

/-- The words without the options that name an output file. -/
def dropOut : List Word → List Word
  | .switch .out none :: .plain _ :: others => dropOut others
  | .switch .out (some _) :: others => dropOut others
  | word :: others => word :: dropOut others
  | [] => []

example :
    withoutOut ["d".toList, "--out".toList, "x".toList, "--dpi=3".toList, "--o=y".toList] =
      ["d".toList, "--dpi=3".toList] := by
  decide

section
variable {text value : Text} {others : List Text}

theorem withoutOut_given
    (single : text ≠ "--".toList)
    (given : Word.ofText text = .ok (.switch .out (some value))) :
    withoutOut (text :: others) = withoutOut others := by
  rw [withoutOut.eq_def]
  simp only [if_neg single, given]

theorem withoutOut_alone
    (single : text ≠ "--".toList)
    (alone : Word.ofText text = .ok (.switch .out none)) :
    withoutOut (text :: value :: others) = withoutOut others := by
  rw [withoutOut.eq_def]
  simp only [if_neg single, alone]

theorem withoutOut_other
    (single : text ≠ "--".toList)
    (other : ∀ value, Word.ofText text ≠ .ok (.switch .out value)) :
    withoutOut (text :: others) = text :: withoutOut others := by
  rw [withoutOut.eq_def]
  simp only [if_neg single]
  split
  · rename_i value given
    exact absurd given (other (some value))
  · rename_i alone
    exact absurd alone (other none)
  · rfl

end

namespace Draft

variable {draft next final : Draft} {words : List Word}

/-- The arguments that are read so far, but for an output file. -/
def bare (draft : Draft) : Draft :=
  { draft with out := [] }

@[simp] theorem takePlain_bare
    (draft : Draft)
    (text : Text) :
    draft.bare.takePlain text = (draft.takePlain text).bare := by
  unfold takePlain bare
  cases draft.design <;> rfl

/-- Any option but the one for the output file is read alike. -/
theorem set_bare
    {switch : Switch}
    {value : Text}
    (other : switch ≠ .out)
    (done : draft.set switch value = .ok next) :
    draft.bare.set switch value = .ok next.bare := by
  cases switch with
  | help => cases done
  | rows =>
      cases done
      rfl
  | dpi =>
      simp only [set] at done ⊢
      split at done
      · cases done
        rfl
      · cases done
  | out => exact absurd rfl other

/-! ## Reading with success -/

/--
The ways in which words are read from a draft to the final one.  Any word may be taken for one
that means nothing, since whatever is read behind it, the arguments are wrong.
-/
inductive Reads (final : Draft) : Draft → List Word → Prop where
  | done : Reads final final []
  | plain
      {draft : Draft}
      {text : Text}
      {others : List Word}
      (noDivider : ∀ behind, others ≠ .divider :: behind)
      (rest : Reads final (draft.takePlain text) others) :
      Reads final draft (.plain text :: others)
  | plainDivider
      {draft : Draft}
      {text : Text}
      {others : List Word}
      (rest : Reads final (draft.takePlain text) others) :
      Reads final draft (.plain text :: .divider :: others)
  | dividerPlain
      {draft : Draft}
      {text : Text}
      {others : List Word}
      (rest : Reads final (draft.takePlain text) others) :
      Reads final draft (.divider :: .plain text :: others)
  | meaningless
      {draft : Draft}
      {word : Word}
      {others : List Word}
      (rest : Reads final { draft with extra := true } others) :
      Reads final draft (word :: others)
  | given
      {draft next : Draft}
      {switch : Switch}
      {value : Text}
      {others : List Word}
      (taken : draft.set switch value = .ok next)
      (rest : Reads final next others) :
      Reads final draft (.switch switch (some value) :: others)
  | behind
      {draft next : Draft}
      {switch : Switch}
      {value : Text}
      {others : List Word}
      (taken : draft.set switch value = .ok next)
      (rest : Reads final next others) :
      Reads final draft (.switch switch none :: .plain value :: others)

theorem reads_of_read (done : draft.read words = .ok final) :
    Reads final draft words := by
  induction draft, words using Draft.read.induct with
  | case1 draft =>
      rw [read] at done
      cases done
      exact .done
  | case2 draft text others inductionHypothesis =>
      rw [read] at done
      exact .plainDivider (inductionHypothesis done)
  | case3 draft text others noDivider inductionHypothesis =>
      rw [read] at done
      · exact .plain noDivider (inductionHypothesis done)
      · exact noDivider
  | case4 draft text others inductionHypothesis =>
      rw [read] at done
      exact .dividerPlain (inductionHypothesis done)
  | case5 draft others noPlain inductionHypothesis =>
      rw [read] at done
      · exact .meaningless (inductionHypothesis done)
      · exact noPlain
  | case6 draft others inductionHypothesis =>
      rw [read] at done
      exact .meaningless (inductionHypothesis done)
  | case7 draft text others onlyHelp =>
      rw [read, if_pos onlyHelp] at done
      cases done
  | case8 draft text others notOnlyHelp =>
      rw [read, if_neg notOnlyHelp] at done
      cases done
  | case9 draft others =>
      rw [read] at done
      cases done
  | case10 draft switch value others inductionHypothesis =>
      rw [read] at done
      obtain ⟨next, taken, done⟩ := bind_eq_ok.1 done
      exact .given taken (inductionHypothesis next done)
  | case11 draft switch value others noHelp inductionHypothesis =>
      rw [read] at done
      · obtain ⟨next, taken, done⟩ := bind_eq_ok.1 done
        exact .behind taken (inductionHypothesis next done)
      · exact noHelp
  | case12 draft switch others noHelp noValue =>
      rw [read] at done
      · cases done
      · exact noHelp
      · exact noValue

theorem extra_takePlain
    {text : Text}
    (extra : draft.extra = true) :
    (draft.takePlain text).extra = true := by
  unfold takePlain
  cases draft.design with
  | none => exact extra
  | some design => rfl

theorem extra_of_set
    {switch : Switch}
    {value : Text}
    (taken : draft.set switch value = .ok next) :
    next.extra = draft.extra := by
  cases switch with
  | help => cases taken
  | rows | out =>
      cases taken
      rfl
  | dpi =>
      rw [set] at taken
      split at taken <;> cases taken
      rfl

/-- Words that mean nothing are not forgotten. -/
theorem Reads.extra_eq
    (reads : Reads final draft words)
    (extra : draft.extra = true) :
    final.extra = true := by
  induction reads with
  | done => exact extra
  | plain _ _ inductionHypothesis => exact inductionHypothesis (extra_takePlain extra)
  | plainDivider _ inductionHypothesis => exact inductionHypothesis (extra_takePlain extra)
  | dividerPlain _ inductionHypothesis => exact inductionHypothesis (extra_takePlain extra)
  | meaningless _ inductionHypothesis => exact inductionHypothesis rfl
  | given taken _ inductionHypothesis =>
      exact inductionHypothesis ((extra_of_set taken).trans extra)
  | behind taken _ inductionHypothesis =>
      exact inductionHypothesis ((extra_of_set taken).trans extra)

/-- Two dashes alone behind a plain word make no difference. -/
theorem read_plain
    {draft : Draft}
    {text : Text}
    {words : List Word}
    (meaningful : final.extra = false)
    (done : (draft.takePlain text).read words = .ok final) :
    draft.read (.plain text :: words) = .ok final := by
  by_cases divided : ∃ others, words = .divider :: others
  · obtain ⟨others, rfl⟩ := divided
    rw [read]
    cases reads_of_read done with
    | @dividerPlain _ inner behind _ =>
        rw [read] at done
        exact read_plain meaningful done
    | meaningless rest => simp [rest.extra_eq rfl] at meaningful
  · rw [read]
    · exact done
    · exact fun others same => divided ⟨others, same⟩
termination_by words.length

/-! ## Reading without an output file -/

theorem dropOut_cons
    {word : Word}
    (other : ∀ value, word ≠ .switch .out value)
    (others : List Word) :
    dropOut (word :: others) = word :: dropOut others := by
  rw [dropOut]
  · rintro text behind same
    exact absurd same (other none)
  · rintro value same
    exact absurd same (other (some value))

@[simp] theorem dropOut_plain
    (text : Text)
    (others : List Word) :
    dropOut (.plain text :: others) = .plain text :: dropOut others := rfl

@[simp] theorem dropOut_divider (others : List Word) :
    dropOut (.divider :: others) = .divider :: dropOut others := rfl

theorem dropOut_map_plain (texts : List Text) :
    dropOut (texts.map .plain) = texts.map .plain := by
  induction texts with
  | nil => rfl
  | cons text others inductionHypothesis =>
      rw [List.map_cons, dropOut_plain, inductionHypothesis]

/-- What is left of the words is read to the final draft without its output file. -/
theorem Reads.read_dropOut
    (reads : Reads final draft words)
    (meaningful : final.extra = false) :
    draft.bare.read (dropOut words) = .ok final.bare := by
  have bareMeaningful : final.bare.extra = false := meaningful
  induction reads with
  | done => rw [dropOut, read]
  | plain _ _ inductionHypothesis =>
      rw [dropOut_plain]
      apply read_plain bareMeaningful
      rw [takePlain_bare]
      exact inductionHypothesis
  | plainDivider _ inductionHypothesis =>
      rw [dropOut_plain, dropOut_divider, read, takePlain_bare]
      exact inductionHypothesis
  | dividerPlain _ inductionHypothesis =>
      rw [dropOut_divider, dropOut_plain, read, takePlain_bare]
      exact inductionHypothesis
  | meaningless rest _ => simp [rest.extra_eq rfl] at meaningful
  | @given draft next switch value others taken _ inductionHypothesis =>
      by_cases out : switch = .out
      · subst out
        cases taken
        rw [dropOut]
        exact inductionHypothesis
      · rw [dropOut_cons (by simpa using out), read, set_bare out taken]
        exact inductionHypothesis
  | @behind draft next switch value others taken _ inductionHypothesis =>
      by_cases out : switch = .out
      · subst out
        cases taken
        rw [dropOut]
        exact inductionHypothesis
      · have noHelp : switch ≠ .help := by
          rintro rfl
          cases taken
        rw [dropOut_cons (by simpa using out), dropOut_plain, read, set_bare out taken]
        · exact inductionHypothesis
        · exact noHelp

/-- Every option that stands without a value is followed by it. -/
theorem Reads.exists_value
    {switch : Switch}
    {others : List Word}
    (reads : Reads final draft words)
    (meaningful : final.extra = false)
    (alone : .switch switch none :: others <:+ words) :
    ∃ value behind, others = .plain value :: behind := by
  induction reads with
  | done => simp at alone
  | plain _ _ inductionHypothesis =>
      exact inductionHypothesis (by simpa [List.suffix_cons_iff] using alone)
  | plainDivider _ inductionHypothesis =>
      exact inductionHypothesis (by simpa [List.suffix_cons_iff] using alone)
  | dividerPlain _ inductionHypothesis =>
      exact inductionHypothesis (by simpa [List.suffix_cons_iff] using alone)
  | meaningless rest _ => simp [rest.extra_eq rfl] at meaningful
  | given _ _ inductionHypothesis =>
      exact inductionHypothesis (by simpa [List.suffix_cons_iff] using alone)
  | @behind _ _ _ value rest _ _ inductionHypothesis =>
      simp only [List.suffix_cons_iff, List.cons.injEq, reduceCtorEq, false_and, false_or]
        at alone
      rcases alone with ⟨-, here⟩ | later
      · exact ⟨value, rest, here⟩
      · exact inductionHypothesis later

end Draft

open Draft

/-! ## Texts -/

theorem wordsOf_cons_eq_ok
    {text : Text}
    {others : List Text}
    {words : List Word}
    (single : text ≠ "--".toList) :
    wordsOf (text :: others) = .ok words ↔
      ∃ word behind, Word.ofText text = .ok word ∧ wordsOf others = .ok behind ∧
        words = word :: behind := by
  rw [wordsOf, if_neg single, bind_eq_ok]
  constructor
  · rintro ⟨word, made, rest⟩
    obtain ⟨behind, read, same⟩ := bind_eq_ok.1 rest
    cases same
    exact ⟨word, behind, made, read, rfl⟩
  · rintro ⟨word, behind, made, read, rfl⟩
    exact ⟨word, made, bind_eq_ok.2 ⟨behind, read, rfl⟩⟩

/-- If every option has its value, the texts that are left are the words that are left. -/
theorem wordsOf_withoutOut
    {texts : List Text}
    {words : List Word}
    (made : wordsOf texts = .ok words)
    (valued : ∀ others, .switch .out none :: others <:+ words →
      ∃ value behind, others = .plain value :: behind) :
    wordsOf (withoutOut texts) = .ok (dropOut words) := by
  induction texts using withoutOut.induct generalizing words with
  | case1 =>
      cases made
      rfl
  | case2 others =>
      cases made
      rw [dropOut_divider, dropOut_map_plain]
      rfl
  | case3 text others single value given inductionHypothesis =>
      obtain ⟨word, behind, same, rest, rfl⟩ := (wordsOf_cons_eq_ok single).1 made
      cases given.symm.trans same
      rw [withoutOut_given single given, dropOut]
      refine inductionHypothesis rest ?_
      intro others inside
      exact valued others (inside.trans (List.suffix_cons _ _))
  | case4 text single alone =>
      obtain ⟨word, behind, same, rest, rfl⟩ := (wordsOf_cons_eq_ok single).1 made
      cases alone.symm.trans same
      cases rest
      obtain ⟨_, _, impossible⟩ := valued [] List.suffix_rfl
      cases impossible
  | case5 text single alone value others inductionHypothesis =>
      obtain ⟨word, behind, same, rest, rfl⟩ := (wordsOf_cons_eq_ok single).1 made
      cases alone.symm.trans same
      obtain ⟨plain, behind, rfl⟩ := valued behind List.suffix_rfl
      have noDivider : value ≠ "--".toList := by
        rintro rfl
        cases rest
      obtain ⟨word, left, -, rest, same⟩ := (wordsOf_cons_eq_ok noDivider).1 rest
      cases same
      rw [withoutOut_alone single alone, dropOut]
      refine inductionHypothesis rest ?_
      intro others inside
      exact valued others (inside.trans ⟨[_, _], rfl⟩)
  | case6 text others single notGiven notAlone inductionHypothesis =>
      obtain ⟨word, behind, same, rest, rfl⟩ := (wordsOf_cons_eq_ok single).1 made
      have other : ∀ value, Word.ofText text ≠ .ok (.switch .out value)
        | none => notAlone
        | some value => notGiven value
      have otherWord : ∀ value, word ≠ .switch .out value := by
        rintro value rfl
        exact other value same
      rw [withoutOut_other single other, dropOut_cons otherWord, wordsOf_cons_eq_ok single]
      refine ⟨word, _, same, inductionHypothesis rest ?_, rfl⟩
      intro others inside
      exact valued others (inside.trans (List.suffix_cons _ _))

/-! ## Arguments -/

theorem Arguments.parse_eq_ok
    {texts : List Text}
    {arguments : Arguments} :
    Arguments.parse texts = .ok arguments ↔
      ∃ words final design, wordsOf texts = .ok words ∧ Draft.start.read words = .ok final ∧
        final.design = some design ∧ final.extra = false ∧
          arguments = ⟨design, final.rows, final.dpi, final.out⟩ := by
  rw [Arguments.parse, bind_eq_ok]
  apply exists_congr
  intro words
  rw [bind_eq_ok]
  constructor
  · rintro ⟨made, final, read, taken⟩
    split at taken
    · rename_i design known
      split at taken
      · cases taken
      · rename_i meaningful
        cases taken
        exact ⟨final, design, made, read, known, Bool.eq_false_iff.2 meaningful, rfl⟩
    · cases taken
  · rintro ⟨final, design, made, read, known, meaningful, rfl⟩
    refine ⟨made, final, read, ?_⟩
    simp only [known, meaningful]
    rfl

/-- Without an output file, a command line asks for the same labels, to be printed. -/
theorem parse_withoutOut
    {texts : List Text}
    {arguments : Arguments}
    (parsed : Arguments.parse texts = .ok arguments) :
    Arguments.parse (withoutOut texts) = .ok { arguments with out := [] } := by
  obtain ⟨words, final, design, made, read, known, meaningful, rfl⟩ :=
    Arguments.parse_eq_ok.1 parsed
  have reads := reads_of_read read
  have left : wordsOf (withoutOut texts) = .ok (dropOut words) :=
    wordsOf_withoutOut made fun others => reads.exists_value meaningful
  exact Arguments.parse_eq_ok.2
    ⟨_, final.bare, design, left, reads.read_dropOut meaningful, known, meaningful, rfl⟩

end CommandLine
end LabelPress
