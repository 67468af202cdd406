import LabelPress.Proofs.Text.Search
import Mathlib.Data.List.MinMax
import Mathlib.Data.List.Nodup

/-!
# Filling a text in one pass

A pass goes over a text once from left to right, puts a value in the place of each token
that it comes to, and never looks at what it has put in.  Tokens are the words of a list of
fields, the longest at each place, or maximal runs of a mark.

Main statement: replacing a run of one character everywhere before a pass is the same as
taking it as the first choice of the pass, if no token starts with a character of its value.
For that a token has to depend only on the run of one character that it starts with and not
to reach beyond it: this run is what a replacement behind it is sure to keep.
-/

namespace LabelPress
namespace Text

/-- Characters at the start of a text that are replaced together. -/
structure Token where
  /-- The number of characters. -/
  length : Nat
  /-- What takes their place. -/
  value : Text

/--
Replace tokens in one pass from left to right: at each place the token that starts there is
replaced, and a character where none starts is copied.
-/
def fillTokens (tokenAt? : Text → Option Token) : Text → Text
  | [] => []
  | c :: rest =>
      match tokenAt? (c :: rest) with
      | some token => token.value ++ fillTokens tokenAt? (rest.drop (token.length - 1))
      | none => c :: fillTokens tokenAt? rest
termination_by text => text.length
decreasing_by all_goals grind

/-- The field with the longest of the words that a text begins with. -/
def longestField?
    (fields : List (Text × Text))
    (text : Text) : Option (Text × Text) :=
  (fields.filter fun field => field.1.isPrefixOf text).argmax fun field => field.1.length

/-- The longest word of some fields at the start of a text, with its value. -/
def fieldAt?
    (fields : List (Text × Text))
    (text : Text) : Option Token :=
  (longestField? fields text).map fun field => ⟨field.1.length, field.2⟩

/-- The maximal run of a mark at the start of a text, with a value for its length. -/
def runAt?
    (mark : Char)
    (value : Nat → Text)
    (text : Text) : Option Token :=
  let length := (text.takeWhile fun c => c == mark).length
  if length = 0 then none else some ⟨length, value length⟩

/-! ## Passes -/

section
variable {tokenAt? otherAt? : Text → Option Token} {c : Char} {text kept rest : Text}

@[simp] theorem fillTokens_nil :
    fillTokens tokenAt? [] = [] := by
  rw [fillTokens]

theorem fillTokens_cons_of_some
    {token : Token}
    (found : tokenAt? (c :: rest) = some token) :
    fillTokens tokenAt? (c :: rest) =
      token.value ++ fillTokens tokenAt? (rest.drop (token.length - 1)) := by
  rw [fillTokens, found]

theorem fillTokens_cons_of_none
    (absent : tokenAt? (c :: rest) = none) :
    fillTokens tokenAt? (c :: rest) = c :: fillTokens tokenAt? rest := by
  rw [fillTokens, absent]

/-- Characters that no token starts with are copied. -/
theorem fillTokens_append
    (absent : ∀ c ∈ kept, ∀ rest, tokenAt? (c :: rest) = none)
    (rest : Text) :
    fillTokens tokenAt? (kept ++ rest) = kept ++ fillTokens tokenAt? rest := by
  induction kept with
  | nil => rfl
  | cons c kept inductionHypothesis =>
      rw [List.forall_mem_cons] at absent
      rw [List.cons_append, fillTokens_cons_of_none (absent.1 _), inductionHypothesis absent.2]
      rfl

theorem fillTokens_none (text : Text) :
    fillTokens (fun _ => none) text = text := by
  have copied : fillTokens (fun _ => none) (text ++ []) = _ :=
    fillTokens_append (fun _ _ _ => rfl) []
  rwa [List.append_nil, fillTokens, List.append_nil] at copied

/-- A pass only asks for the tokens at the ends of the text. -/
theorem fillTokens_congr
    (same : ∀ tail, tail <:+ text → tokenAt? tail = otherAt? tail) :
    fillTokens tokenAt? text = fillTokens otherAt? text := by
  induction size : text.length using Nat.strongRecOn generalizing text with
  | ind length inductionHypothesis =>
      subst size
      cases text with
      | nil => rw [fillTokens_nil, fillTokens_nil]
      | cons c rest =>
          have here := same _ List.suffix_rfl
          have later {tail : Text} (behind : tail <:+ rest) :
              fillTokens tokenAt? tail = fillTokens otherAt? tail :=
            inductionHypothesis _ (Nat.lt_succ_of_le behind.length_le)
              (fun _ inside => same _ ((inside.trans behind).trans (List.suffix_cons c rest))) rfl
          cases found : otherAt? (c :: rest) with
          | none =>
              rw [fillTokens_cons_of_none found, fillTokens_cons_of_none (here.trans found),
                later List.suffix_rfl]
          | some token =>
              rw [fillTokens_cons_of_some found, fillTokens_cons_of_some (here.trans found),
                later (List.drop_suffix _ rest)]

end

/-! ## The longest word -/

section
variable {fields others : List (Text × Text)} {field : Text × Text} {text : Text}

theorem mem_of_longestField?
    (found : longestField? fields text = some field) :
    field ∈ fields ∧ field.1 <+: text := by
  have member := List.mem_filter.1 (List.argmax_mem found)
  exact ⟨member.1, List.isPrefixOf_iff_prefix.1 member.2⟩

/-- Of fields with different words the longest is found. -/
theorem longestField?_eq_some_iff
    (distinct : (fields.map Prod.fst).Nodup) :
    longestField? fields text = some field ↔
      field ∈ fields ∧ field.1 <+: text ∧
        ∀ other ∈ fields, other.1 <+: text → other.1.length ≤ field.1.length := by
  rw [longestField?, ← Option.mem_def, List.mem_argmax_iff]
  simp only [List.mem_filter, List.isPrefixOf_iff_prefix, and_imp]
  constructor
  · rintro ⟨⟨member, begins⟩, longest, -⟩
    exact ⟨member, begins, longest⟩
  · rintro ⟨member, begins, longest⟩
    refine ⟨⟨member, begins⟩, longest, fun other otherMember otherBegins longer => ?_⟩
    -- Words of one length at one place are the same word, and it belongs to one field only.
    have sameWord : field.1 = other.1 :=
      (List.prefix_of_prefix_length_le begins otherBegins longer).eq_of_length_le
        (longest other otherMember otherBegins)
    rw [List.inj_on_of_nodup_map distinct member otherMember sameWord]

/-- A character that is in none of the words starts no token. -/
theorem fieldAt?_cons_of_not_mem
    {c : Char}
    (solid : ∀ field ∈ fields, field.1 ≠ [])
    (absent : ∀ field ∈ fields, c ∉ field.1)
    (rest : Text) :
    fieldAt? fields (c :: rest) = none := by
  cases found : longestField? fields (c :: rest) with
  | none => rw [fieldAt?, found, Option.map_none]
  | some field =>
      obtain ⟨member, begins⟩ := mem_of_longestField? found
      obtain ⟨d, others, word⟩ := List.exists_cons_of_ne_nil (solid field member)
      rw [word, List.cons_prefix_cons] at begins
      exact absurd (by rw [word, begins.1]; exact List.mem_cons_self) (absent field member)

/-- Fields whose words do not start a text are not looked at. -/
theorem longestField?_append
    (absent : ∀ other ∈ others, ¬ other.1 <+: text) :
    longestField? (fields ++ others) text = longestField? fields text := by
  have skipped : others.filter (fun other => other.1.isPrefixOf text) = [] :=
    List.filter_eq_nil_iff.2 fun other member => by
      rw [List.isPrefixOf_iff_prefix]
      exact absent other member
  rw [longestField?, List.filter_append, skipped, List.append_nil, longestField?]

/-- The order in which fields are listed does not matter. -/
theorem longestField?_perm
    (rearranged : fields.Perm others)
    (distinct : (fields.map Prod.fst).Nodup) :
    longestField? fields text = longestField? others text := by
  have otherDistinct := (rearranged.map Prod.fst).nodup_iff.1 distinct
  apply Option.ext
  intro field
  rw [longestField?_eq_some_iff distinct, longestField?_eq_some_iff otherDistinct]
  simp only [rearranged.mem_iff]

theorem fieldAt?_singleton_of_isPrefix
    (begins : field.1 <+: text) :
    fieldAt? [field] text = some ⟨field.1.length, field.2⟩ := by
  simp [fieldAt?, longestField?, List.isPrefixOf_iff_prefix.2 begins]

theorem fieldAt?_singleton_of_not_isPrefix
    (elsewhere : ¬ field.1 <+: text) :
    fieldAt? [field] text = none := by
  simp [fieldAt?, longestField?, elsewhere]

/-- A field comes first if no word behind it begins with its word. -/
theorem fieldAt?_cons
    (longer : ∀ other ∈ others, ¬ field.1 <+: other.1)
    (text : Text) :
    fieldAt? (field :: others) text = (fieldAt? [field] text).or (fieldAt? others text) := by
  by_cases begins : field.1 <+: text
  · have first : longestField? (field :: others) text = some field := by
      rw [longestField?, List.filter_cons, if_pos (List.isPrefixOf_iff_prefix.2 begins),
        List.argmax_cons]
      cases found : List.argmax (fun field => field.1.length)
          (others.filter fun field => field.1.isPrefixOf text) with
      | none => rfl
      | some other =>
          obtain ⟨member, otherBegins⟩ := mem_of_longestField? found
          have shorter : ¬ field.1.length < other.1.length := fun less =>
            longer other member (List.prefix_of_prefix_length_le begins otherBegins less.le)
          exact if_neg shorter
    rw [fieldAt?_singleton_of_isPrefix begins, fieldAt?, first]
    rfl
  · have absent : ¬ field.1.isPrefixOf text := by rwa [List.isPrefixOf_iff_prefix]
    rw [fieldAt?_singleton_of_not_isPrefix begins, Option.none_or, fieldAt?, longestField?,
      List.filter_cons, if_neg absent]
    rfl

end

/-! ## Runs of one character -/

/-- A word is a run of one character. -/
def IsRun (word : Text) : Prop :=
  ∃ c n, word = List.replicate (n + 1) c

section
variable {c : Char} {count : Nat} {word value text rest : Text}

theorem IsRun.ne_nil
    (isRun : IsRun word) :
    word ≠ [] := by
  obtain ⟨c, n, rfl⟩ := isRun
  exact List.cons_ne_nil _ _

/-- A text goes on with another character, or ends, behind some copies of a character. -/
theorem exists_run
    (c : Char)
    (tail : Text) :
    ∃ count rest, tail = List.replicate count c ++ rest ∧ rest.head? ≠ some c := by
  induction tail with
  | nil => exact ⟨0, [], rfl, by simp⟩
  | cons d tail inductionHypothesis =>
      by_cases same : d = c
      · obtain ⟨count, rest, rfl, ends⟩ := inductionHypothesis
        exact ⟨count + 1, rest, by rw [same]; rfl, ends⟩
      · exact ⟨0, d :: tail, rfl, by simpa using same⟩

/-- A run lies at the start of a text if it is no longer than the run there. -/
theorem replicate_isPrefix_iff
    {d : Char}
    {n : Nat}
    (ends : rest.head? ≠ some c) :
    List.replicate (n + 1) d <+: List.replicate (count + 1) c ++ rest ↔ d = c ∧ n ≤ count := by
  constructor
  · intro begins
    obtain ⟨rfl, -⟩ := List.cons_prefix_cons.1 begins
    refine ⟨rfl, not_lt.1 fun less => ends ?_⟩
    obtain ⟨more, rfl⟩ := Nat.exists_eq_add_of_lt less
    have parted :
        List.replicate (count + more + 1 + 1) d =
          List.replicate (count + 1) d ++ List.replicate (more + 1) d := by
      rw [List.replicate_append_replicate]
      congr 1
      omega
    rw [parted, List.prefix_append_right_inj] at begins
    obtain ⟨others, rfl⟩ := begins
    rfl
  · rintro ⟨rfl, short⟩
    refine List.IsPrefix.trans ?_ (List.prefix_append _ rest)
    refine ⟨List.replicate (count - n) d, ?_⟩
    rw [List.replicate_append_replicate]
    congr 1
    omega

theorem replaceAll_cons_of_isPrefix
    (solid : word ≠ [])
    (begins : word <+: c :: rest) :
    replaceAll word value (c :: rest) =
      value ++ replaceAll word value (rest.drop (word.length - 1)) := by
  rw [replaceAll, if_pos (by simpa [solid] using begins)]

theorem replaceAll_cons_of_not_isPrefix
    (elsewhere : ¬ word <+: c :: rest) :
    replaceAll word value (c :: rest) = c :: replaceAll word value rest := by
  rw [replaceAll, if_neg (by simp [elsewhere])]

/-- A run that lies at the end of a run of its character lies at its start as well. -/
theorem IsRun.isPrefix_of_le
    {fewer : Nat}
    (isRun : IsRun word)
    (le : fewer ≤ count)
    (begins : word <+: List.replicate (fewer + 1) c ++ rest) :
    word <+: List.replicate (count + 1) c ++ rest := by
  obtain ⟨d, n, rfl⟩ := isRun
  obtain ⟨others, rest, rfl, ends⟩ := exists_run c rest
  have joined (front : Nat) :
      List.replicate (front + 1) c ++ (List.replicate others c ++ rest) =
        List.replicate (front + others + 1) c ++ rest := by
    rw [← List.append_assoc, List.replicate_append_replicate, Nat.add_right_comm]
  rw [joined, replicate_isPrefix_iff ends] at begins ⊢
  exact ⟨begins.1, by omega⟩

/-- Where a run is not found at the start of a longer one, no end of that one is replaced. -/
theorem IsRun.replaceAll_append
    {fewer : Nat}
    (isRun : IsRun word)
    (elsewhere : ¬ word <+: List.replicate (count + 1) c ++ rest)
    (le : fewer ≤ count + 1)
    (value : Text) :
    replaceAll word value (List.replicate fewer c ++ rest) =
      List.replicate fewer c ++ replaceAll word value rest := by
  induction fewer with
  | zero => rfl
  | succ fewer inductionHypothesis =>
      have here : ¬ word <+: c :: (List.replicate fewer c ++ rest) := fun begins =>
        elsewhere (isRun.isPrefix_of_le (Nat.le_of_succ_le_succ le) begins)
      rw [List.replicate_succ, List.cons_append, replaceAll_cons_of_not_isPrefix here,
        inductionHypothesis (Nat.le_of_succ_le le)]
      rfl

/-- Replacing does not lengthen a run in front of the text if the value lacks its character. -/
theorem head?_replaceAll_ne
    (filled : value ≠ [])
    (apart : c ∉ value)
    (ends : rest.head? ≠ some c) :
    (replaceAll word value rest).head? ≠ some c := by
  cases rest with
  | nil => simp [replaceAll]
  | cons d rest =>
      obtain ⟨first, others, rfl⟩ := List.exists_cons_of_ne_nil filled
      rw [replaceAll]
      split
      · rw [List.mem_cons, not_or] at apart
        simpa using Ne.symm apart.1
      · exact ends

end

/-! ## Tokens inside runs -/

/-- A token depends on the run of one character at its start and does not reach beyond it. -/
structure ByRuns (tokenAt? : Text → Option Token) : Prop where
  /-- Behind the run, the text does not matter. -/
  same :
    ∀ {c : Char} {count : Nat} {rest other : Text},
      rest.head? ≠ some c → other.head? ≠ some c →
        tokenAt? (List.replicate (count + 1) c ++ rest) =
          tokenAt? (List.replicate (count + 1) c ++ other)
  /-- The token ends with the run or before. -/
  inside :
    ∀ {c : Char} {count : Nat} {rest : Text} {token : Token},
      rest.head? ≠ some c → tokenAt? (List.replicate (count + 1) c ++ rest) = some token →
        token.length ≤ count + 1

namespace ByRuns

variable {tokenAt? otherAt? : Text → Option Token}

theorem none :
    ByRuns fun _ => .none where
  same _ _ := rfl
  inside _ found := by cases found

theorem or
    (first : ByRuns tokenAt?)
    (second : ByRuns otherAt?) :
    ByRuns fun text => (tokenAt? text).or (otherAt? text) where
  same ends otherEnds := by rw [first.same ends otherEnds, second.same ends otherEnds]
  inside ends found := by
    rcases Option.or_eq_some_iff.1 found with here | ⟨-, here⟩
    · exact first.inside ends here
    · exact second.inside ends here

theorem fieldAt?
    {fields : List (Text × Text)}
    (runs : ∀ field ∈ fields, IsRun field.1) :
    ByRuns (fieldAt? fields) where
  same ends otherEnds := by
    rw [Text.fieldAt?, Text.fieldAt?, longestField?, longestField?]
    congr 2
    refine List.filter_congr fun field member => ?_
    obtain ⟨d, n, isRun⟩ := runs field member
    rw [Bool.eq_iff_iff, List.isPrefixOf_iff_prefix, List.isPrefixOf_iff_prefix, isRun,
      replicate_isPrefix_iff ends, replicate_isPrefix_iff otherEnds]
  inside ends found := by
    obtain ⟨field, longest, rfl⟩ := Option.map_eq_some_iff.1 found
    obtain ⟨member, begins⟩ := mem_of_longestField? longest
    obtain ⟨d, n, isRun⟩ := runs field member
    rw [isRun, replicate_isPrefix_iff ends] at begins
    rw [isRun, List.length_replicate]
    exact Nat.succ_le_succ begins.2

end ByRuns

theorem takeWhile_replicate_append
    {c : Char}
    {count : Nat}
    {rest : Text}
    (ends : rest.head? ≠ some c) :
    (List.replicate count c ++ rest).takeWhile (fun d => d == c) = List.replicate count c := by
  rw [List.takeWhile_append_of_pos (by simp)]
  cases rest with
  | nil => simp
  | cons d rest => simp_all

theorem runAt?_cons_of_ne
    {c mark : Char}
    (different : c ≠ mark)
    (value : Nat → Text)
    (rest : Text) :
    runAt? mark value (c :: rest) = none := by
  simp [runAt?, different]

theorem runAt?_append
    {mark : Char}
    {count : Nat}
    {rest : Text}
    (ends : rest.head? ≠ some mark)
    (value : Nat → Text) :
    runAt? mark value (List.replicate (count + 1) mark ++ rest) =
      some ⟨count + 1, value (count + 1)⟩ := by
  rw [runAt?, takeWhile_replicate_append ends, List.length_replicate]
  rfl

theorem ByRuns.runAt?
    (mark : Char)
    (value : Nat → Text) :
    ByRuns (runAt? mark value) where
  same := by
    intro c count rest other ends otherEnds
    by_cases same : c = mark
    · subst same
      rw [runAt?_append ends, runAt?_append otherEnds]
    · rw [List.replicate_succ, List.cons_append, List.cons_append, runAt?_cons_of_ne same,
        runAt?_cons_of_ne same]
  inside := by
    intro c count rest token ends found
    by_cases same : c = mark
    · subst same
      rw [runAt?_append ends] at found
      cases found
      exact le_refl _
    · rw [List.replicate_succ, List.cons_append, runAt?_cons_of_ne same] at found
      cases found

/-! ## Replacing before a pass -/

section
variable {tokenAt? : Text → Option Token} {word value : Text} {c : Char} {tail : Text}

/-- Behind a place without the word, replacing it does not change the token there. -/
theorem tokenAt?_replaceAll
    (byRuns : ByRuns tokenAt?)
    (isRun : IsRun word)
    (filled : value ≠ [])
    (apart : ∀ c ∈ value, ∀ rest, tokenAt? (c :: rest) = none)
    (elsewhere : ¬ word <+: c :: tail) :
    tokenAt? (c :: replaceAll word value tail) = tokenAt? (c :: tail) := by
  by_cases inValue : c ∈ value
  · rw [apart c inValue, apart c inValue]
  · obtain ⟨count, rest, rfl, ends⟩ := exists_run c tail
    rw [isRun.replaceAll_append elsewhere (Nat.le_succ count)]
    exact byRuns.same (head?_replaceAll_ne filled inValue ends) ends

/-- Behind a token that is not the word, the search for the word goes on as before. -/
theorem drop_replaceAll
    {token : Token}
    (byRuns : ByRuns tokenAt?)
    (isRun : IsRun word)
    (elsewhere : ¬ word <+: c :: tail)
    (found : tokenAt? (c :: tail) = some token) :
    (replaceAll word value tail).drop (token.length - 1) =
      replaceAll word value (tail.drop (token.length - 1)) := by
  obtain ⟨count, rest, rfl, ends⟩ := exists_run c tail
  have inside : token.length - 1 ≤ count := Nat.sub_le_of_le_add (byRuns.inside ends found)
  rw [isRun.replaceAll_append elsewhere (Nat.le_succ count),
    List.drop_append_of_le_length (by simpa using inside),
    List.drop_append_of_le_length (by simpa using inside), List.drop_replicate,
    isRun.replaceAll_append elsewhere (by omega)]

/--
A run that is replaced everywhere before a pass is taken as the first choice of the pass,
if no token starts with a character of the value.
-/
theorem fillTokens_replaceAll
    (byRuns : ByRuns tokenAt?)
    (isRun : IsRun word)
    (filled : value ≠ [])
    (apart : ∀ c ∈ value, ∀ rest, tokenAt? (c :: rest) = none)
    (text : Text) :
    fillTokens tokenAt? (replaceAll word value text) =
      fillTokens (fun text => (fieldAt? [(word, value)] text).or (tokenAt? text)) text := by
  generalize chosen : (fun text => (fieldAt? [(word, value)] text).or (tokenAt? text)) = choice?
  have choice (text : Text) :
      choice? text = (fieldAt? [(word, value)] text).or (tokenAt? text) := by
    rw [← chosen]
  induction size : text.length using Nat.strongRecOn generalizing text with
  | ind length inductionHypothesis =>
      subst size
      cases text with
      | nil => rw [replaceAll, fillTokens_nil, fillTokens_nil]
      | cons c tail =>
          have later {rest : Text} (behind : rest <:+ tail) :
              fillTokens tokenAt? (replaceAll word value rest) = fillTokens choice? rest :=
            inductionHypothesis _ (Nat.lt_succ_of_le behind.length_le) rest rfl
          by_cases begins : word <+: c :: tail
          · have first : choice? (c :: tail) = some ⟨word.length, value⟩ := by
              rw [choice, fieldAt?_singleton_of_isPrefix begins, Option.some_or]
            rw [replaceAll_cons_of_isPrefix isRun.ne_nil begins, fillTokens_append apart,
              fillTokens_cons_of_some first, later (List.drop_suffix _ tail)]
          · have here : choice? (c :: tail) = tokenAt? (c :: tail) := by
              rw [choice, fieldAt?_singleton_of_not_isPrefix begins, Option.none_or]
            have there := tokenAt?_replaceAll byRuns isRun filled apart begins
            rw [replaceAll_cons_of_not_isPrefix begins]
            cases found : tokenAt? (c :: tail) with
            | none =>
                rw [fillTokens_cons_of_none (there.trans found),
                  fillTokens_cons_of_none (here.trans found), later List.suffix_rfl]
            | some token =>
                rw [fillTokens_cons_of_some (there.trans found),
                  fillTokens_cons_of_some (here.trans found),
                  drop_replaceAll byRuns isRun begins found, later (List.drop_suffix _ tail)]

end

end Text
end LabelPress
