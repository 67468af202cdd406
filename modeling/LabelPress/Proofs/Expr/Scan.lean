import LabelPress.Expr.Scan
import LabelPress.Proofs.Text.Trim
import Mathlib.Tactic.Common

/-!
# What a scan sees

A scan remembers a quote and a depth.  `ScanState.Along` says that something holds at
every character of a text together with the state before it; the other notions of this
module are cases of it.  A text is balanced if a scan at any depth comes back to the
depth at which it began and never goes below it.  Main statement: a token whose first
character a text hides is found exactly where it is found behind that text.
-/

namespace LabelPress

/-- The quotes and parentheses are the only characters that are not plain. -/
theorem isPlain_of_not_mem
    {c : Char}
    (absent : c ∉ ['\x22', '\x27', '(', ')']) :
    isPlain c := by
  simpa [isPlain, isQuote, and_assoc] using absent

theorem isQuote_eq_false_of_isPlain
    {c : Char}
    (plain : isPlain c) :
    isQuote c = false := by
  simp only [isPlain, Bool.and_eq_true, Bool.not_eq_true'] at plain
  exact plain.1.1

theorem ne_of_isQuote
    {quote c : Char}
    (quoting : isQuote quote)
    (plain : isQuote c = false) :
    quote ≠ c := by
  rintro rfl
  simp [plain] at quoting

theorem isPlain_of_isBlank
    {c : Char}
    (blank : Text.isBlank c) :
    isPlain c := by
  apply isPlain_of_not_mem
  intro member
  revert blank
  revert c
  decide

theorem isBlank_eq_false_of_isQuote
    {quote : Char}
    (quoting : isQuote quote) :
    Text.isBlank quote = false := by
  rw [← Bool.not_eq_true]
  intro blank
  have plain := isQuote_eq_false_of_isPlain (isPlain_of_isBlank blank)
  exact ne_of_isQuote quoting plain rfl

theorem isPlain_of_allBlank
    {text : Text}
    (blank : Text.AllBlank text) :
    ∀ c ∈ text, isPlain c :=
  fun c member => isPlain_of_isBlank (blank c member)

namespace ScanState

/-- Outside quotes, at a depth. -/
def atDepth (depth : Int) : ScanState :=
  ⟨none, depth⟩

theorem start_eq_atDepth : start = atDepth 0 := rfl

@[simp] theorem quote_atDepth (depth : Int) : (atDepth depth).quote = none := rfl

@[simp] theorem depth_atDepth (depth : Int) : (atDepth depth).depth = depth := rfl

@[simp] theorem next_atDepth_open (depth : Int) :
    (atDepth depth).next '(' = atDepth (depth + 1) := rfl

@[simp] theorem next_atDepth_close (depth : Int) :
    (atDepth depth).next ')' = atDepth (depth - 1) := rfl

/-- A plain character does not change the state outside quotes. -/
theorem next_atDepth_of_isPlain
    {c : Char}
    (plain : isPlain c)
    (depth : Int) :
    (atDepth depth).next c = atDepth depth := by
  simp only [isPlain, Bool.and_eq_true, Bool.not_eq_true', bne_iff_ne] at plain
  simp [next, atDepth, plain]

/-- A quote character opens a quoted piece. -/
theorem next_atDepth_of_isQuote
    {c : Char}
    (quote : isQuote c)
    (depth : Int) :
    (atDepth depth).next c = ⟨some c, depth⟩ := by
  simp [next, atDepth, quote]

/-- Only quote characters open a quoted piece. -/
theorem quote_next_of_isQuote_eq_false
    {state : ScanState}
    {c : Char}
    (outside : state.quote = none)
    (plain : isQuote c = false) :
    (state.next c).quote = none := by
  simp only [next, outside, plain, Bool.false_eq_true, if_false]
  split
  · rfl
  · split
    · rfl
    · exact outside

/-- Only its own quote character ends a quoted piece. -/
theorem next_of_ne_quote
    {c quote : Char}
    (different : c ≠ quote)
    (depth : Int) :
    next ⟨some quote, depth⟩ c = ⟨some quote, depth⟩ := by
  simp [next, different]

/-- The quote character that opened a quoted piece ends it. -/
theorem next_self_quote
    (quote : Char)
    (depth : Int) :
    next ⟨some quote, depth⟩ quote = atDepth depth := by
  simp [next, atDepth]

@[simp] theorem run_nil (state : ScanState) : state.run [] = state := rfl

@[simp] theorem run_cons
    (state : ScanState)
    (c : Char)
    (rest : Text) :
    state.run (c :: rest) = (state.next c).run rest := rfl

/-- A scan of two texts is a scan of the second after the first. -/
@[simp] theorem run_append
    (state : ScanState)
    (left right : Text) :
    state.run (left ++ right) = (state.run left).run right :=
  List.foldl_append

/-- A property of states and characters holds at every character of a scanned text. -/
def Along (holds : ScanState → Char → Prop) : ScanState → Text → Prop
  | _, [] => True
  | state, c :: rest => holds state c ∧ Along holds (state.next c) rest

section
variable {holds : ScanState → Char → Prop}

@[simp] theorem along_nil (state : ScanState) : Along holds state [] := trivial

@[simp] theorem along_cons
    (state : ScanState)
    (c : Char)
    (rest : Text) :
    Along holds state (c :: rest) ↔
      holds state c ∧ Along holds (state.next c) rest := Iff.rfl

/-- Along two texts is along the first, and along the second after the first. -/
@[simp] theorem along_append
    (state : ScanState)
    (left right : Text) :
    Along holds state (left ++ right) ↔
      Along holds state left ∧ Along holds (state.run left) right := by
  induction left generalizing state with
  | nil => simp
  | cons c rest inductionHypothesis =>
      simp only [List.cons_append, along_cons, run_cons, inductionHypothesis, and_assoc]

/-- What implies another property along a text carries it along. -/
theorem Along.mono
    {weaker : ScanState → Char → Prop}
    {state : ScanState}
    {text : Text}
    (along : Along holds state text)
    (implies : ∀ state c, holds state c → weaker state c) :
    Along weaker state text := by
  induction text generalizing state with
  | nil => trivial
  | cons c rest inductionHypothesis =>
      exact ⟨implies state c along.1, inductionHypothesis along.2⟩

/-- What holds of states and characters is decided along a text. -/
def decideAlong
    (decides : ∀ state c, Decidable (holds state c)) :
    ∀ state text, Decidable (Along holds state text)
  | _, [] => .isTrue trivial
  | state, c :: rest =>
      @instDecidableAnd _ _ (decides state c) (decideAlong decides (state.next c) rest)

instance
    [decides : ∀ state c, Decidable (holds state c)]
    (state : ScanState)
    (text : Text) :
    Decidable (Along holds state text) :=
  decideAlong decides state text

/-- Plain characters keep a scan outside quotes at its depth. -/
theorem run_atDepth_of_isPlain
    {text : Text}
    (plain : ∀ c ∈ text, isPlain c)
    (depth : Int) :
    (atDepth depth).run text = atDepth depth := by
  induction text with
  | nil => rfl
  | cons c rest inductionHypothesis =>
      rw [run_cons, next_atDepth_of_isPlain (plain c List.mem_cons_self),
        inductionHypothesis fun d member => plain d (List.mem_cons_of_mem c member)]

/-- Along plain characters the state stays the same. -/
theorem along_atDepth_of_isPlain
    {text : Text}
    {depth : Int}
    (plain : ∀ c ∈ text, isPlain c)
    (each : ∀ c ∈ text, holds (atDepth depth) c) :
    Along holds (atDepth depth) text := by
  induction text with
  | nil => trivial
  | cons c rest inductionHypothesis =>
      refine ⟨each c List.mem_cons_self, ?_⟩
      rw [next_atDepth_of_isPlain (plain c List.mem_cons_self)]
      exact inductionHypothesis (fun d member => plain d (List.mem_cons_of_mem c member))
        (fun d member => each d (List.mem_cons_of_mem c member))

/-- A quoted piece without its quote character keeps the scan inside it. -/
theorem run_quoted
    {quote : Char}
    {content : Text}
    (free : quote ∉ content)
    (depth : Int) :
    run ⟨some quote, depth⟩ content = ⟨some quote, depth⟩ := by
  induction content with
  | nil => rfl
  | cons c rest inductionHypothesis =>
      simp only [List.mem_cons, not_or] at free
      rw [run_cons, next_of_ne_quote (Ne.symm free.1), inductionHypothesis free.2]

/-- Along a quoted piece without its quote character the state stays the same. -/
theorem along_quoted
    {quote : Char}
    {content : Text}
    {depth : Int}
    (free : quote ∉ content)
    (each : ∀ c ∈ content, holds ⟨some quote, depth⟩ c) :
    Along holds ⟨some quote, depth⟩ content := by
  induction content with
  | nil => trivial
  | cons c rest inductionHypothesis =>
      simp only [List.mem_cons, not_or] at free
      refine ⟨each c List.mem_cons_self, ?_⟩
      rw [next_of_ne_quote (Ne.symm free.1)]
      exact inductionHypothesis free.2
        (fun d member => each d (List.mem_cons_of_mem c member))

end

/-- Blanks keep a scan at the start. -/
theorem run_of_allBlank
    {text : Text}
    (blank : Text.AllBlank text) :
    start.run text = start :=
  run_atDepth_of_isPlain (isPlain_of_allBlank blank) 0

/-- What holds along a text and at blanks before it holds along it between blanks. -/
theorem along_spaced
    {holds : ScanState → Char → Prop}
    {core text : Text}
    (blanks : ∀ c, Text.isBlank c → holds start c)
    (along : Along holds start core)
    (closed : start.run core = start)
    (spaced : Text.Spaced core text) :
    Along holds start text := by
  obtain ⟨before, after, blankBefore, blankAfter, rfl⟩ := spaced
  have aside {text : Text} (blank : Text.AllBlank text) : Along holds start text := by
    apply along_atDepth_of_isPlain (isPlain_of_allBlank blank)
    intro c member
    exact blanks c (blank c member)
  rw [along_append, along_append, run_append, run_of_allBlank blankBefore, closed]
  exact ⟨⟨aside blankBefore, along⟩, aside blankAfter⟩

/-- A character never stands at the top level of a text. -/
def Hides (c : Char) : ScanState → Text → Prop :=
  Along fun state d => state.isTop → d ≠ c

instance
    (c : Char)
    (state : ScanState)
    (text : Text) :
    Decidable (Hides c state text) :=
  inferInstanceAs (Decidable (Along _ state text))

/-- The same state a number of parentheses deeper. -/
def deeper
    (depth : Int)
    (state : ScanState) : ScanState :=
  { state with depth := state.depth + depth }

theorem next_deeper
    (depth : Int)
    (state : ScanState)
    (c : Char) :
    (state.deeper depth).next c = (state.next c).deeper depth := by
  obtain ⟨quote, level⟩ := state
  cases quote with
  | some quote =>
      simp only [next, deeper]
      split <;> rfl
  | none =>
      simp only [next, deeper]
      split
      · rfl
      · split
        · simp [Int.add_right_comm]
        · split
          · simp only [mk.injEq, true_and]
            omega
          · rfl

/-- A scan sees of a text the same at every depth. -/
theorem run_deeper
    (depth : Int)
    (state : ScanState)
    (text : Text) :
    (state.deeper depth).run text = (state.run text).deeper depth := by
  induction text generalizing state with
  | nil => rfl
  | cons c rest inductionHypothesis =>
      rw [run_cons, next_deeper, inductionHypothesis, run_cons]

theorem along_deeper
    {holds : ScanState → Char → Prop}
    {depth : Int}
    {state : ScanState}
    {text : Text}
    (along : Along (fun state c => holds (state.deeper depth) c) state text) :
    Along holds (state.deeper depth) text := by
  induction text generalizing state with
  | nil => trivial
  | cons c rest inductionHypothesis =>
      refine ⟨along.1, ?_⟩
      rw [next_deeper]
      exact inductionHypothesis along.2

end ScanState

open ScanState

/-- A text in parentheses. -/
def parenthesized (inner : Text) : Text :=
  '(' :: inner ++ [')']

/-- A scan of the text comes back to its depth and never goes below it. -/
structure Balanced (text : Text) : Prop where
  /-- The scan ends outside quotes at the depth at which it began. -/
  returns : ∀ depth, (atDepth depth).run text = atDepth depth
  /-- The scan is never below the depth at which it began. -/
  stays : ∀ depth, Along (fun state _ => depth ≤ state.depth) (atDepth depth) text

namespace Balanced

theorem ofPlain
    {text : Text}
    (plain : ∀ c ∈ text, isPlain c) :
    Balanced text where
  returns := run_atDepth_of_isPlain plain
  stays depth := along_atDepth_of_isPlain plain fun _ _ => Int.le_refl depth

theorem ofBlank
    {text : Text}
    (blank : Text.AllBlank text) :
    Balanced text :=
  .ofPlain (isPlain_of_allBlank blank)

theorem append
    {left right : Text}
    (first : Balanced left)
    (second : Balanced right) :
    Balanced (left ++ right) where
  returns depth := by
    rw [run_append, first.returns, second.returns]
  stays depth := by
    rw [along_append, first.returns]
    exact ⟨first.stays depth, second.stays depth⟩

/-- Blanks around a balanced text leave it balanced. -/
theorem spaced
    {core text : Text}
    (balanced : Balanced core)
    (spaced : Text.Spaced core text) :
    Balanced text := by
  obtain ⟨before, after, blankBefore, blankAfter, rfl⟩ := spaced
  exact ((ofBlank blankBefore).append balanced).append (ofBlank blankAfter)

/-- Parentheses around a balanced text leave it balanced. -/
theorem parenthesized
    {inner : Text}
    (balanced : Balanced inner) :
    Balanced (LabelPress.parenthesized inner) where
  returns depth := by
    rw [LabelPress.parenthesized, List.cons_append, run_cons, next_atDepth_open,
      run_append, balanced.returns, run_cons, next_atDepth_close, run_nil,
      Int.add_sub_cancel]
  stays depth := by
    rw [LabelPress.parenthesized, List.cons_append, along_cons, next_atDepth_open,
      along_append, balanced.returns]
    refine ⟨Int.le_refl depth, (balanced.stays (depth + 1)).mono ?_, ?_, trivial⟩
    · intro state _ bound
      omega
    · simp only [depth_atDepth]
      omega

/-- A quoted piece is balanced. -/
theorem quoted
    {quote : Char}
    {content : Text}
    (isQuote : isQuote quote)
    (free : quote ∉ content) :
    Balanced (quote :: content ++ [quote]) where
  returns depth := by
    rw [List.cons_append, run_cons, next_atDepth_of_isQuote isQuote, run_append,
      run_quoted free, run_cons, next_self_quote, run_nil]
  stays depth := by
    rw [List.cons_append, along_cons, next_atDepth_of_isQuote isQuote, along_append,
      run_quoted free]
    exact ⟨Int.le_refl depth, along_quoted free fun _ _ => Int.le_refl depth,
      Int.le_refl depth, trivial⟩

theorem atDepth_eq_deeper (depth : Int) :
    atDepth depth = start.deeper depth := by
  simp [atDepth, deeper, start]

/-- It is enough to scan a text from the start. -/
theorem iff_start {text : Text} :
    Balanced text ↔
      start.run text = start ∧ Along (fun state _ => 0 ≤ state.depth) start text := by
  constructor
  · intro balanced
    exact ⟨balanced.returns 0, balanced.stays 0⟩
  · rintro ⟨returns, stays⟩
    refine ⟨?_, ?_⟩
    · intro depth
      rw [atDepth_eq_deeper, run_deeper, returns]
    · intro depth
      rw [atDepth_eq_deeper]
      apply along_deeper
      apply stays.mono
      intro state _ above
      simp only [deeper]
      omega

instance (text : Text) : Decidable (Balanced text) :=
  decidable_of_iff' _ iff_start

/-- A scan from the start comes back to the start. -/
theorem run_start
    {text : Text}
    (balanced : Balanced text) :
    start.run text = start :=
  balanced.returns 0

end Balanced

/-- A quoted piece hides every character but its quotes. -/
theorem hides_quoted
    {c quote : Char}
    {content : Text}
    (isQuote : isQuote quote)
    (free : quote ∉ content)
    (different : quote ≠ c) :
    Hides c start (quote :: content ++ [quote]) := by
  refine ⟨fun _ => different, ?_⟩
  rw [start_eq_atDepth, next_atDepth_of_isQuote isQuote]
  refine (along_append _ _ _).2 ⟨along_quoted free ?_, fun _ => different, trivial⟩
  intro d _ top
  simp [isTop] at top

/-- Outside parentheses a text shows only allowed characters, and none of them in quotes. -/
def Shows (allowed : Char → Bool) : ScanState → Text → Prop :=
  Along fun state c => 0 < state.depth ∨ state = start ∧ allowed c

namespace Shows

variable {allowed : Char → Bool} {text : Text}

theorem ofPlain
    (plain : ∀ c ∈ text, isPlain c)
    (each : ∀ c ∈ text, allowed c) :
    Shows allowed start text :=
  along_atDepth_of_isPlain plain fun c member => Or.inr ⟨rfl, each c member⟩

theorem append
    {left right : Text}
    (first : Shows allowed start left)
    (closed : start.run left = start)
    (second : Shows allowed start right) :
    Shows allowed start (left ++ right) := by
  refine (along_append _ _ _).2 ⟨first, ?_⟩
  rw [closed]
  exact second

/-- Of a text in parentheses only the first of them is seen from outside. -/
theorem parenthesized
    {inner : Text}
    (balanced : Balanced inner)
    (opens : allowed '(') :
    Shows allowed start (LabelPress.parenthesized inner) := by
  have inside : Along (fun state _ => 0 < state.depth) (atDepth 1) inner :=
    (balanced.stays 1).mono fun _ _ bound => by omega
  rw [LabelPress.parenthesized]
  refine ⟨Or.inr ⟨rfl, opens⟩, (along_append _ _ _).2 ⟨?_, ?_, trivial⟩⟩
  · exact inside.mono fun _ _ above => Or.inl above
  · rw [start_eq_atDepth, next_atDepth_open, balanced.returns]
    exact Or.inl (by decide)

theorem mono
    {others : Char → Bool}
    (shows : Shows allowed start text)
    (more : ∀ c, allowed c → others c) :
    Shows others start text :=
  Along.mono shows fun _ c => Or.imp_right (And.imp_right (more c))

/-- What a text does not show it hides. -/
theorem hides
    {c : Char}
    (shows : Shows allowed start text)
    (absent : allowed c = false) :
    Hides c start text := by
  refine Along.mono shows ?_
  rintro state d (above | ⟨rfl, shown⟩) top rfl
  · simp only [isTop, Bool.and_eq_true, beq_iff_eq] at top
    omega
  · simp [absent] at shown

end Shows

/-- A token is found behind a text that hides its first character. -/
theorem findTopLevelFrom_append
    {c : Char}
    {token : Text}
    {state : ScanState}
    {left : Text}
    (hidden : Hides c state left)
    (right : Text) :
    findTopLevelFrom (c :: token) state (left ++ right) =
      (findTopLevelFrom (c :: token) (state.run left) right).map (· + left.length) := by
  induction left generalizing state with
  | nil => simp
  | cons d rest inductionHypothesis =>
      obtain ⟨different, hiddenRest⟩ := hidden
      have passed :
          ¬(state.isTop && isPlain d && (c :: token).isPrefixOf (d :: (rest ++ right))) := by
        intro found
        simp only [List.isPrefixOf, Bool.and_eq_true, beq_iff_eq] at found
        exact different found.1.1 found.2.1.symm
      rw [List.cons_append, findTopLevelFrom, if_neg passed,
        inductionHypothesis hiddenRest, Option.map_map, run_cons]
      rfl

/-- A token is not found in a text that hides its first character. -/
theorem findTopLevelFrom_eq_none
    {c : Char}
    {token : Text}
    {state : ScanState}
    {text : Text}
    (hidden : Hides c state text) :
    findTopLevelFrom (c :: token) state text = none := by
  rw [← List.append_nil text, findTopLevelFrom_append hidden]
  rfl

theorem findTopLevelFrom_eq_none_of_not_isInfix
    {token text : Text}
    (state : ScanState)
    (absent : ¬ token <:+: text) :
    findTopLevelFrom token state text = none := by
  induction text generalizing state with
  | nil => rfl
  | cons c rest inductionHypothesis =>
      have notHere : ¬ token.isPrefixOf (c :: rest) := by
        intro found
        exact absent (List.isPrefixOf_iff_prefix.1 found).isInfix
      have notLater : ¬ token <:+: rest := by
        intro found
        exact absent (found.trans (List.suffix_cons c rest).isInfix)
      rw [findTopLevelFrom, if_neg, inductionHypothesis _ notLater, Option.map_none]
      intro found
      rw [Bool.and_eq_true] at found
      exact notHere found.2

/-- A token stands where it is found. -/
theorem isPrefix_drop_of_findTopLevelFrom
    {token : Text}
    {state : ScanState}
    {text : Text}
    {place : Nat}
    (found : findTopLevelFrom token state text = some place) :
    token <+: text.drop place := by
  induction text generalizing state place with
  | nil => simp [findTopLevelFrom] at found
  | cons c rest inductionHypothesis =>
      rw [findTopLevelFrom] at found
      split at found
      · rename_i here
        obtain rfl : 0 = place := Option.some.inj found
        rw [Bool.and_eq_true, List.isPrefixOf_iff_prefix] at here
        exact here.2
      · obtain ⟨later, laterFound, rfl⟩ := Option.map_eq_some_iff.1 found
        exact inductionHypothesis laterFound

/-- A text with a token at the top level is parted by its first one. -/
theorem exists_append_of_findTopLevel?
    {text token : Text}
    (found : (findTopLevel? text token).isSome) :
    ∃ left right, text = left ++ token ++ right ∧ findTopLevel? text token = some left.length := by
  obtain ⟨place, here⟩ := Option.isSome_iff_exists.1 found
  obtain ⟨right, behind⟩ := isPrefix_drop_of_findTopLevelFrom here
  refine ⟨text.take place, right, ?_, ?_⟩
  · rw [List.append_assoc, behind, List.take_append_drop]
  · rw [here, List.length_take_of_le (Nat.le_of_lt (findTopLevel?_lt here))]

/-- A token at the top level is found where it stands. -/
theorem findTopLevelFrom_of_isPrefixOf
    {c : Char}
    {token rest : Text}
    {state : ScanState}
    (top : state.isTop)
    (plain : isPlain c)
    (begins : token.isPrefixOf rest) :
    findTopLevelFrom (c :: token) state (c :: rest) = some 0 := by
  simp [findTopLevelFrom, top, plain, begins, List.isPrefixOf]

/-- What follows a token does not matter for where the token is found. -/
theorem findTopLevelFrom_append_right
    {c : Char}
    {token : Text}
    {state : ScanState}
    {left right : Text}
    (found :
      findTopLevelFrom (c :: token) state (left ++ c :: token ++ right) = some left.length)
    (other : Text) :
    findTopLevelFrom (c :: token) state (left ++ c :: token ++ other) = some left.length := by
  induction left generalizing state with
  | nil =>
      simp only [List.nil_append, List.cons_append, List.length_nil] at found ⊢
      rw [findTopLevelFrom] at found ⊢
      split at found
      · rename_i here
        rw [Bool.and_eq_true] at here
        rw [if_pos (by simp [here.1, List.isPrefixOf])]
      · obtain ⟨later, -, impossible⟩ := Option.map_eq_some_iff.1 found
        omega
  | cons d rest inductionHypothesis =>
      simp only [List.cons_append, List.length_cons] at found ⊢
      rw [findTopLevelFrom] at found ⊢
      split at found
      · simp at found
      · rename_i passed
        obtain ⟨place, later, same⟩ := Option.map_eq_some_iff.1 found
        obtain rfl : place = rest.length := by omega
        have passedOther :
            ¬(state.isTop && isPlain d &&
              (c :: token).isPrefixOf (d :: (rest ++ c :: token ++ other))) := by
          intro here
          apply passed
          rw [Bool.and_eq_true, List.isPrefixOf_iff_prefix] at here ⊢
          refine ⟨here.1, ?_⟩
          have short : (c :: token).length ≤ (d :: (rest ++ c :: token)).length := by
            simp only [List.length_cons, List.length_append]
            omega
          have inside : c :: token <+: d :: (rest ++ c :: token) :=
            List.prefix_of_prefix_length_le here.2
              (List.prefix_append (d :: (rest ++ c :: token)) other) short
          exact inside.trans (List.prefix_append (d :: (rest ++ c :: token)) right)
        rw [if_neg passedOther, inductionHypothesis later]
        rfl

end LabelPress
