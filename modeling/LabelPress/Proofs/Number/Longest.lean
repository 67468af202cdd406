import LabelPress.Proofs.Number.Literal
import LabelPress.Proofs.Number.Numeral

/-!
# The longest number at the start of a text

How numbers are spelled, said without the scanner: a sign that may be missing and digits, and
in a literal also a fraction and an exponent, each of which may be missing.  Main statement:
what is read off the start of a text is the longest beginning that is spelled so.

The scanner never gives back what it has taken, so it could stop short of the longest
beginning.  It does not, because no part can go on with a character that the part behind it
starts with: a beginning that is spelled out is taken as a whole, whatever stands behind it.
-/

namespace LabelPress

open NumberLiteral

/-- A beginning of a text that has a property and is the longest one to have it. -/
structure Text.IsLongestPrefix
    (property : Text → Prop)
    (text front : Text) : Prop where
  /-- The text starts with it. -/
  isPrefix : front <+: text
  /-- It has the property. -/
  holds : property front
  /-- No longer beginning has the property. -/
  length_le : ∀ other, other <+: text → property other → other.length ≤ front.length

/-- A beginning is the longest one if all others leave at least as much behind them. -/
theorem Text.isLongestPrefix_append
    {property : Text → Prop}
    {front rest : Text}
    (holds : property front)
    (leaves : ∀ other behind, front ++ rest = other ++ behind → property other →
      rest.length ≤ behind.length) :
    IsLongestPrefix property (front ++ rest) front := by
  refine ⟨List.prefix_append front rest, holds, ?_⟩
  rintro other ⟨behind, parted⟩ otherHolds
  have less := leaves other behind parted.symm otherHolds
  have size := congrArg List.length parted
  rw [List.length_append, List.length_append] at size
  omega

namespace NumberLiteral

/-! ## Spellings -/

/-- A sign that may be missing, and whether it is a minus sign. -/
inductive SpellsSign : Bool → Text → Prop where
  | missing : SpellsSign false []
  | plus : SpellsSign false ['+']
  | minus : SpellsSign true ['-']

/-- One or more digits, and their values. -/
inductive SpellsDigits : List Nat → Text → Prop where
  | all
      {digits : Text}
      (nonempty : digits ≠ [])
      (allDigits : Text.AllDigits digits) :
      SpellsDigits (Text.digitValues digits) digits

/-- A point with digits behind it, or nothing. -/
inductive SpellsFraction : List Nat → Text → Prop where
  | missing : SpellsFraction [] []
  | point
      {values : List Nat}
      {digits : Text}
      (spelled : SpellsDigits values digits) :
      SpellsFraction values ('.' :: digits)

/-- A power mark with an integer behind it, or nothing. -/
inductive SpellsExponent : Bool → List Nat → Text → Prop where
  | missing : SpellsExponent false [] []
  | mark
      {c : Char}
      {negative : Bool}
      {values : List Nat}
      {sign digits : Text}
      (isMark : c = 'e' ∨ c = 'E')
      (signed : SpellsSign negative sign)
      (spelled : SpellsDigits values digits) :
      SpellsExponent negative values (c :: (sign ++ digits))

/-- The text of a literal with all its parts. -/
inductive Spells : NumberLiteral → Text → Prop where
  | parts
      {negative exponentNegative : Bool}
      {whole fraction exponent : List Nat}
      {sign digits point power : Text}
      (signed : SpellsSign negative sign)
      (spelled : SpellsDigits whole digits)
      (pointed : SpellsFraction fraction point)
      (powered : SpellsExponent exponentNegative exponent power) :
      Spells ⟨negative, whole, fraction, exponentNegative, exponent⟩
        (sign ++ (digits ++ (point ++ power)))

/-! ## What the scanners take is spelled -/

theorem exists_scanSign (text : Text) :
    ∃ sign, SpellsSign (scanSign text).1 sign ∧ text = sign ++ (scanSign text).2 := by
  unfold scanSign
  split
  · exact ⟨['+'], .plus, rfl⟩
  · exact ⟨['-'], .minus, rfl⟩
  · exact ⟨[], .missing, rfl⟩

/-- The digits that a text starts with end where no digit follows. -/
theorem exists_scanDigits (text : Text) :
    ∃ front rest, text = front ++ rest ∧ Text.AllDigits front ∧
      scanDigits rest = ([], rest) := by
  induction text with
  | nil => exact ⟨[], [], rfl, nofun, rfl⟩
  | cons c others inductionHypothesis =>
      cases found : Text.digitValue? c with
      | none => exact ⟨[], c :: others, rfl, nofun, by rw [scanDigits, found]⟩
      | some digit =>
          obtain ⟨front, rest, rfl, digits, ends⟩ := inductionHypothesis
          refine ⟨c :: front, rest, rfl, ?_, ends⟩
          exact List.forall_mem_cons.2 ⟨by rw [Text.isDigit, found]; rfl, digits⟩

theorem exists_of_scanDigits
    {text rest : Text}
    {values : List Nat}
    (scanned : scanDigits text = (values, rest))
    (nonempty : values ≠ []) :
    ∃ digits, SpellsDigits values digits ∧ text = digits ++ rest := by
  obtain ⟨digits, behind, rfl, allDigits, ends⟩ := exists_scanDigits text
  cases (scanDigits_append allDigits ends).symm.trans scanned
  refine ⟨digits, .all ?_ allDigits, rfl⟩
  rintro rfl
  exact nonempty rfl

theorem exists_scanFraction (text : Text) :
    ∃ fraction, SpellsFraction (scanFraction text).1 fraction ∧
      text = fraction ++ (scanFraction text).2 := by
  unfold scanFraction
  split
  · rename_i rest
    split
    · exact ⟨[], .missing, rfl⟩
    · rename_i found
      obtain ⟨digits, spelled, parted⟩ :=
        exists_of_scanDigits rfl fun none => found _ (Prod.ext none rfl)
      exact ⟨'.' :: digits, .point spelled, congrArg ('.' :: ·) parted⟩
  · exact ⟨[], .missing, rfl⟩

theorem exists_scanExponent (text : Text) :
    ∃ exponent, SpellsExponent (scanExponent text).1 (scanExponent text).2.1 exponent ∧
      text = exponent ++ (scanExponent text).2.2 := by
  unfold scanExponent
  split
  · rename_i c rest
    split
    · rename_i isMark
      obtain ⟨sign, signed, parted⟩ := exists_scanSign rest
      dsimp only
      split
      · exact ⟨[], .missing, rfl⟩
      · rename_i found
        obtain ⟨digits, spelled, behind⟩ :=
          exists_of_scanDigits rfl fun none => found _ (Prod.ext none rfl)
        refine ⟨c :: (sign ++ digits), .mark isMark signed spelled, ?_⟩
        rw [List.cons_append, List.append_assoc, ← behind, ← parted]
    · exact ⟨[], .missing, rfl⟩
  · exact ⟨[], .missing, rfl⟩

/-! ## What is spelled is taken -/

theorem scanDigits_isSuffix (text : Text) :
    (scanDigits text).2 <:+ text := by
  obtain ⟨digits, rest, rfl, allDigits, ends⟩ := exists_scanDigits text
  rw [scanDigits_append allDigits ends]
  exact List.suffix_append digits rest

/-- Behind the digits that are taken there is no digit left to take. -/
theorem scanDigits_rest (text : Text) :
    scanDigits (scanDigits text).2 = ([], (scanDigits text).2) := by
  obtain ⟨digits, rest, rfl, allDigits, ends⟩ := exists_scanDigits text
  rw [scanDigits_append allDigits ends, ends]

theorem scanFraction_isSuffix (text : Text) :
    (scanFraction text).2 <:+ text := by
  obtain ⟨fraction, -, parted⟩ := exists_scanFraction text
  exact ⟨fraction, parted.symm⟩

theorem scanExponent_isSuffix (text : Text) :
    (scanExponent text).2.2 <:+ text := by
  obtain ⟨exponent, -, parted⟩ := exists_scanExponent text
  exact ⟨exponent, parted.symm⟩

section
variable {values : List Nat} {digits : Text}

theorem SpellsDigits.ne_nil (spelled : SpellsDigits values digits) :
    values ≠ [] := by
  obtain ⟨nonempty, allDigits⟩ := spelled
  rw [← List.length_pos_iff, allDigits.length_digitValues, List.length_pos_iff]
  exact nonempty

/-- Digits are taken together with all the digits behind them. -/
theorem SpellsDigits.scanDigits_append
    (spelled : SpellsDigits values digits)
    (behind : Text) :
    scanDigits (digits ++ behind) =
      (values ++ (scanDigits behind).1, (scanDigits behind).2) := by
  obtain ⟨-, allDigits⟩ := spelled
  obtain ⟨more, rest, rfl, moreDigits, ends⟩ := exists_scanDigits behind
  have together : Text.AllDigits (digits ++ more) := by
    intro c member
    exact (List.mem_append.1 member).elim (allDigits c) (moreDigits c)
  have values : Text.digitValues (digits ++ more) =
      Text.digitValues digits ++ Text.digitValues more := List.filterMap_append
  rw [← List.append_assoc, NumberLiteral.scanDigits_append together ends,
    NumberLiteral.scanDigits_append moreDigits ends, values]

theorem SpellsSign.scanSign_append
    {negative : Bool}
    {sign : Text}
    (signed : SpellsSign negative sign)
    (spelled : SpellsDigits values digits)
    (behind : Text) :
    scanSign (sign ++ (digits ++ behind)) = (negative, digits ++ behind) := by
  obtain ⟨nonempty, allDigits⟩ := spelled
  obtain ⟨c, others, rfl⟩ := List.exists_cons_of_ne_nil nonempty
  cases signed with
  | missing => exact scanSign_cons (allDigits c List.mem_cons_self) (others ++ behind)
  | plus => rfl
  | minus => rfl

theorem scanFraction_point
    (spelled : SpellsDigits values digits)
    (behind : Text) :
    scanFraction ('.' :: (digits ++ behind)) =
      (values ++ (scanDigits behind).1, (scanDigits behind).2) := by
  have found := spelled.scanDigits_append behind
  obtain ⟨first, others, rfl⟩ := List.exists_cons_of_ne_nil spelled.ne_nil
  simp only [scanFraction, found, List.cons_append]

theorem scanExponent_mark
    {c : Char}
    {negative : Bool}
    {sign : Text}
    (isMark : c = 'e' ∨ c = 'E')
    (signed : SpellsSign negative sign)
    (spelled : SpellsDigits values digits)
    (behind : Text) :
    scanExponent (c :: (sign ++ (digits ++ behind))) =
      (negative, values ++ (scanDigits behind).1, (scanDigits behind).2) := by
  have found := spelled.scanDigits_append behind
  obtain ⟨first, others, rfl⟩ := List.exists_cons_of_ne_nil spelled.ne_nil
  simp only [scanExponent, if_pos isMark, signed.scanSign_append spelled, found,
    List.cons_append]

/-- In front of a power mark the digits before the point end, and so does the fraction. -/
theorem SpellsFraction.scan_of_mark
    {fraction : Text}
    {c : Char}
    (point : SpellsFraction values fraction)
    (isMark : c = 'e' ∨ c = 'E')
    (behind : Text) :
    scanDigits (fraction ++ c :: behind) = ([], fraction ++ c :: behind) ∧
      scanFraction (fraction ++ c :: behind) = (values, c :: behind) := by
  have ends : scanDigits (c :: behind) = ([], c :: behind) := by
    rcases isMark with rfl | rfl <;> rfl
  cases point with
  | missing =>
      refine ⟨ends, ?_⟩
      rcases isMark with rfl | rfl <;> rfl
  | point spelled =>
      refine ⟨rfl, ?_⟩
      rw [List.cons_append, scanFraction_point spelled, ends, List.append_nil]

/-- A literal is taken part by part, each one from where the part before it ended. -/
theorem scan?_append
    {negative : Bool}
    {sign after : Text}
    {more : List Nat}
    (signed : SpellsSign negative sign)
    (spelled : SpellsDigits values digits)
    {behind : Text}
    (next : scanDigits behind = (more, after)) :
    scan? (sign ++ (digits ++ behind)) =
      some (⟨negative, values ++ more, (scanFraction after).1,
          (scanExponent (scanFraction after).2).1, (scanExponent (scanFraction after).2).2.1⟩,
        (scanExponent (scanFraction after).2).2.2) := by
  have taken := spelled.scanDigits_append behind
  rw [next] at taken
  obtain ⟨first, others, rfl⟩ := List.exists_cons_of_ne_nil spelled.ne_nil
  simp only [scan?, signed.scanSign_append spelled, taken, List.cons_append]

end

/--
A literal that is spelled out is taken as a whole, with more digits or parts if they stand
behind it, and as it is if nothing does.
-/
theorem Spells.exists_scan?
    {literal : NumberLiteral}
    {front : Text}
    (spells : literal.Spells front)
    (behind : Text) :
    ∃ other rest, scan? (front ++ behind) = some (other, rest) ∧ rest <:+ behind ∧
      (behind = [] → other = literal) := by
  obtain ⟨signed, spelled, pointed, powered⟩ := spells
  have afterDigits := scanDigits_isSuffix behind
  have afterFraction := (scanFraction_isSuffix (scanDigits behind).2).trans afterDigits
  simp only [List.append_assoc]
  -- Only the last part that is there can go on behind the spelled text, so it makes the cases.
  cases powered with
  | mark isMark powerSigned powerSpelled =>
      simp only [List.cons_append, List.append_assoc]
      rw [scan?_append signed spelled (pointed.scan_of_mark isMark _).1,
        (pointed.scan_of_mark isMark _).2, scanExponent_mark isMark powerSigned powerSpelled]
      refine ⟨_, _, rfl, afterDigits, ?_⟩
      rintro rfl
      simp [scanDigits]
  | missing =>
      cases pointed with
      | point pointSpelled =>
          simp only [List.cons_append, List.nil_append]
          have ends (rest : Text) : scanDigits ('.' :: rest) = ([], '.' :: rest) := rfl
          rw [scan?_append signed spelled (ends _), scanFraction_point pointSpelled]
          refine ⟨_, _, rfl, (scanExponent_isSuffix _).trans afterDigits, ?_⟩
          rintro rfl
          simp [scanDigits, scanExponent]
      | missing =>
          rw [List.nil_append, List.nil_append, scan?_append signed spelled rfl]
          refine ⟨_, _, rfl, (scanExponent_isSuffix _).trans afterFraction, ?_⟩
          rintro rfl
          simp [scanDigits, scanFraction, scanExponent]

/-- What is taken is spelled, and the rest stays. -/
theorem exists_spells_of_scan?
    {text rest : Text}
    {literal : NumberLiteral}
    (found : scan? text = some (literal, rest)) :
    ∃ front, literal.Spells front ∧ text = front ++ rest := by
  obtain ⟨negative, whole, fraction, exponentNegative, exponent⟩ := literal
  obtain ⟨afterWhole, sign, digits, nonempty, point, power⟩ := scan?_eq_some_iff.1 found
  obtain ⟨signText, signed, parted⟩ := exists_scanSign text
  obtain ⟨digitText, spelled, afterSign⟩ := exists_of_scanDigits digits nonempty
  obtain ⟨pointText, pointed, afterDigits⟩ := exists_scanFraction afterWhole
  obtain ⟨powerText, powered, afterPoint⟩ := exists_scanExponent (scanFraction afterWhole).2
  rw [sign] at signed
  rw [point] at pointed
  rw [power] at powered afterPoint
  refine ⟨signText ++ (digitText ++ (pointText ++ powerText)),
    .parts signed spelled pointed powered, ?_⟩
  rw [parted, afterSign, afterDigits, afterPoint]
  simp only [List.append_assoc]

/-- What is taken is the longest beginning that is spelled as a literal. -/
theorem exists_isLongestPrefix_of_scan?
    {text rest : Text}
    {literal : NumberLiteral}
    (found : scan? text = some (literal, rest)) :
    ∃ front, literal.Spells front ∧
      Text.IsLongestPrefix (fun front => ∃ literal : NumberLiteral, literal.Spells front)
        text front := by
  obtain ⟨front, spells, rfl⟩ := exists_spells_of_scan? found
  refine ⟨front, spells, Text.isLongestPrefix_append ⟨literal, spells⟩ ?_⟩
  rintro other behind parted ⟨otherLiteral, otherSpells⟩
  -- The scan takes the other beginning as a whole, so it leaves no more than what is behind it.
  obtain ⟨taken, left, again, isSuffix, -⟩ := otherSpells.exists_scan? behind
  rw [← parted, found] at again
  cases again
  exact isSuffix.length_le

/-- A text is a number as a whole exactly if it spells a literal. -/
theorem parseNumber?_eq_some_iff_spells
    {text : Text}
    {number : Double} :
    parseNumber? text = some number ↔
      ∃ literal : NumberLiteral, literal.Spells text ∧ literal.value = number := by
  rw [parseNumber?_eq_some_iff]
  apply exists_congr
  intro literal
  apply and_congr_left'
  constructor
  · intro found
    obtain ⟨front, spells, rfl⟩ := exists_spells_of_scan? found
    rwa [List.append_nil]
  · intro spells
    obtain ⟨other, rest, found, isSuffix, same⟩ := spells.exists_scan? []
    rw [List.append_nil, List.eq_nil_of_suffix_nil isSuffix, same rfl] at found
    exact found

theorem isSome_parseNumber?_iff_spells {text : Text} :
    (parseNumber? text).isSome ↔ ∃ literal : NumberLiteral, literal.Spells text := by
  rw [Option.isSome_iff_exists]
  constructor
  · rintro ⟨number, parsed⟩
    obtain ⟨literal, spells, -⟩ := parseNumber?_eq_some_iff_spells.1 parsed
    exact ⟨literal, spells⟩
  · rintro ⟨literal, spells⟩
    exact ⟨literal.value, parseNumber?_eq_some_iff_spells.2 ⟨literal, spells, rfl⟩⟩

end NumberLiteral

namespace Numeral

/-! ## Integers -/

/-- An integer is written by a sign that may be missing and digits. -/
theorem writes_iff
    {n : Int}
    {text : Text} :
    Writes n text ↔
      ∃ negative sign values digits, SpellsSign negative sign ∧ SpellsDigits values digits ∧
        text = sign ++ digits ∧
        n = if negative then -(valueOf digits : Int) else valueOf digits := by
  constructor
  · rintro (⟨nonempty, allDigits⟩ | ⟨nonempty, allDigits⟩ | ⟨nonempty, allDigits⟩)
    · exact ⟨false, [], _, _, .missing, .all nonempty allDigits, rfl, rfl⟩
    · exact ⟨false, ['+'], _, _, .plus, .all nonempty allDigits, rfl, rfl⟩
    · exact ⟨true, ['-'], _, _, .minus, .all nonempty allDigits, rfl, rfl⟩
  · rintro ⟨negative, sign, values, digits, signed, ⟨nonempty, allDigits⟩, rfl, rfl⟩
    cases signed with
    | missing => exact .unsigned nonempty allDigits
    | plus => exact .positive nonempty allDigits
    | minus => exact .negative nonempty allDigits

/-- A written integer is taken with its sign and all the digits behind it. -/
theorem Writes.exists_scan_append
    {n : Int}
    {text : Text}
    (writes : Writes n text)
    (behind : Text) :
    ∃ values rest, scanDigits (scanSign (text ++ behind)).2 = (values, rest) ∧ values ≠ [] ∧
      rest <:+ behind := by
  obtain ⟨negative, sign, values, digits, signed, spelled, rfl, -⟩ := writes_iff.1 writes
  refine ⟨values ++ (scanDigits behind).1, (scanDigits behind).2, ?_,
    List.append_ne_nil_of_left_ne_nil spelled.ne_nil _, scanDigits_isSuffix behind⟩
  rw [List.append_assoc, signed.scanSign_append spelled, spelled.scanDigits_append]

theorem digitValues_sign_append
    {negative : Bool}
    {sign : Text}
    (signed : SpellsSign negative sign)
    (digits : Text) :
    Text.digitValues (sign ++ digits) = Text.digitValues digits := by
  cases signed <;> rfl

/-- A text that starts with no integer is read as the default. -/
theorem leadingInteger_of_not_writes
    {text : Text}
    (unwritten : ∀ front n, front <+: text → ¬ Writes n front)
    (default : Int) :
    leadingInteger text default = .ok default := by
  obtain ⟨sign, signed, parted⟩ := exists_scanSign text
  cases scanned : scanDigits (scanSign text).2 with
  | mk values rest =>
      cases values with
      | nil => simp only [leadingInteger, scanned]
      | cons first others =>
          obtain ⟨digits, spelled, behind⟩ :=
            exists_of_scanDigits scanned (List.cons_ne_nil first others)
          refine absurd (writes_iff.2 ⟨_, sign, _, digits, signed, spelled, rfl, rfl⟩) ?_
          apply unwritten
          rw [parted, behind, ← List.append_assoc]
          exact List.prefix_append _ _

/-- A text that starts with an integer is read as the longest one. -/
theorem exists_isLongestPrefix_of_writes
    {text front : Text}
    {n : Int}
    (isPrefix : front <+: text)
    (writes : Writes n front)
    (default : Int) :
    ∃ longest n, Text.IsLongestPrefix (fun front => ∃ n, Writes n front) text longest ∧
      Writes n longest ∧
      leadingInteger text default =
        if digitLimit < (Text.digitValues longest).length then
          .error .tooManyDigits
        else
          .ok n := by
  obtain ⟨behind, rfl⟩ := isPrefix
  obtain ⟨values, rest, scanned, nonempty, -⟩ := writes.exists_scan_append behind
  generalize front ++ behind = text at scanned
  obtain ⟨sign, signed, parted⟩ := exists_scanSign text
  obtain ⟨digits, spelled, unsigned⟩ := exists_of_scanDigits scanned nonempty
  have longestWrites := writes_iff.2 ⟨_, sign, values, digits, signed, spelled, rfl, rfl⟩
  refine ⟨sign ++ digits, _, ?_, longestWrites, ?_⟩
  · rw [parted, unsigned, ← List.append_assoc]
    apply Text.isLongestPrefix_append ⟨_, longestWrites⟩
    rintro other otherBehind otherParted ⟨m, otherWrites⟩
    obtain ⟨_, left, again, -, isSuffix⟩ := otherWrites.exists_scan_append otherBehind
    rw [← otherParted, List.append_assoc, ← unsigned, ← parted, scanned] at again
    cases again
    exact isSuffix.length_le
  · obtain ⟨someDigit, allDigits⟩ := spelled
    have ends := scanDigits_rest (scanSign text).2
    rw [scanned] at ends
    rw [leadingInteger_of_scanSign (Prod.ext rfl unsigned) someDigit allDigits ends,
      digitValues_sign_append signed, allDigits.length_digitValues]

end Numeral

namespace NumberLiteral

/-- A number is read off the longest beginning that is a number, or there is no such beginning. -/
theorem leadingNumber_longest (text : Text) :
    (∃ front, Text.IsLongestPrefix (fun front => (parseNumber? front).isSome) text front ∧
        parseNumber? front = some (leadingNumber text)) ∨
      (∀ front, front <+: text → parseNumber? front = none) ∧
        leadingNumber text = Double.zero false := by
  cases found : scan? text with
  | some taken =>
      obtain ⟨literal, rest⟩ := taken
      obtain ⟨front, spells, longest⟩ := exists_isLongestPrefix_of_scan? found
      have value : leadingNumber text = literal.value := by rw [leadingNumber, found]
      refine Or.inl ⟨front, ?_, ?_⟩
      · simpa only [isSome_parseNumber?_iff_spells] using longest
      · exact parseNumber?_eq_some_iff_spells.2 ⟨literal, spells, value.symm⟩
  | none =>
      refine Or.inr ⟨?_, by rw [leadingNumber, found]⟩
      rintro front ⟨behind, rfl⟩
      rw [Option.eq_none_iff_forall_ne_some]
      intro number parsed
      obtain ⟨literal, spells, -⟩ := parseNumber?_eq_some_iff_spells.1 parsed
      obtain ⟨other, rest, taken, -⟩ := spells.exists_scan? behind
      rw [found] at taken
      cases taken

/-- A text that is a number as a whole is read as that number. -/
theorem leadingNumber_of_parseNumber?
    {text : Text}
    {number : Double}
    (parsed : parseNumber? text = some number) :
    leadingNumber text = number := by
  obtain ⟨literal, found, rfl⟩ := parseNumber?_eq_some_iff.1 parsed
  rw [leadingNumber, found]

end NumberLiteral

namespace Numeral

/-- An integer is read off the longest beginning that writes one, or there is no such beginning. -/
theorem leadingInteger_longest
    (text : Text)
    (default : Int) :
    (∃ front n, Text.IsLongestPrefix (fun front => ∃ n, Writes n front) text front ∧
        Writes n front ∧
        leadingInteger text default =
          if digitLimit < (Text.digitValues front).length then
            .error .tooManyDigits
          else
            .ok n) ∨
      (∀ front n, front <+: text → ¬ Writes n front) ∧
        leadingInteger text default = .ok default := by
  by_cases starts : ∃ front n, front <+: text ∧ Writes n front
  · obtain ⟨front, n, isPrefix, writes⟩ := starts
    exact Or.inl (exists_isLongestPrefix_of_writes isPrefix writes default)
  · have unwritten : ∀ front n, front <+: text → ¬ Writes n front :=
      fun front n isPrefix writes => starts ⟨front, n, isPrefix, writes⟩
    exact Or.inr ⟨unwritten, leadingInteger_of_not_writes unwritten default⟩

end Numeral

/--
What is read off the start of a text is its longest beginning that is a number, or its longest
one that is an integer, which the language's limit on digits may refuse to convert.  What
counts as a number is what spells a literal.
-/
theorem leading_longest
    (text : Text)
    (default : Int) :
    ((∃ front, Text.IsLongestPrefix (fun front => (parseNumber? front).isSome) text front ∧
          parseNumber? front = some (leadingNumber text)) ∨
        (∀ front, front <+: text → parseNumber? front = none) ∧
          leadingNumber text = Double.zero false) ∧
      (∀ number, parseNumber? text = some number → leadingNumber text = number) ∧
      ((∃ front n,
          Text.IsLongestPrefix (fun front => ∃ n, Numeral.Writes n front) text front ∧
          Numeral.Writes n front ∧
          leadingInteger text default =
            if Numeral.digitLimit < (Text.digitValues front).length then
              .error .tooManyDigits
            else
              .ok n) ∨
        (∀ front n, front <+: text → ¬ Numeral.Writes n front) ∧
          leadingInteger text default = .ok default) ∧
      ∀ front number, parseNumber? front = some number ↔
        ∃ literal : NumberLiteral, literal.Spells front ∧ literal.value = number :=
  ⟨leadingNumber_longest text, fun _ => leadingNumber_of_parseNumber?,
    Numeral.leadingInteger_longest text default, fun _ _ => parseNumber?_eq_some_iff_spells⟩

/-- Beyond the limit on digits the longest integer is not the value that is read. -/
theorem leadingInteger_beyond_limit :
    Text.IsLongestPrefix (fun front => ∃ n, Numeral.Writes n front)
        (List.replicate 4301 '0') (List.replicate 4301 '0') ∧
      Numeral.Writes 0 (List.replicate 4301 '0') ∧
      leadingInteger (List.replicate 4301 '0') 1 ≠ .ok 0 := by
  have digits := Numeral.allDigits_replicate_zero 4301
  have nonempty : List.replicate 4301 '0' ≠ [] := List.cons_ne_nil '0' (List.replicate 4300 '0')
  have writes := Numeral.Writes.unsigned nonempty digits
  rw [Numeral.valueOf_replicate_zero] at writes
  refine ⟨⟨List.prefix_refl _, ⟨0, writes⟩, fun other isPrefix _ => isPrefix.length_le⟩,
    writes, ?_⟩
  have signed : scanSign (List.replicate 4301 '0') = (false, List.replicate 4301 '0' ++ []) := by
    rw [List.append_nil]
    exact scanSign_of_allDigits digits
  rw [Numeral.leadingInteger_of_scanSign signed nonempty digits rfl, List.length_replicate,
    if_pos (by decide)]
  exact nofun

end LabelPress
