import LabelPress.Calendar.Date
import Mathlib.Algebra.Group.Nat.Defs
import Mathlib.Data.Int.Init
import Mathlib.Data.Prod.Lex
import Mathlib.Order.Monotone.Basic

/-!
# The count of days

The order of dates, the date after a date, and the count of days between them.  Main
statements: day numbers grow with dates and count one for each step to the next date, every
number from that of the first date to that of the last one belongs to a date, and adding
days gives the date that many steps away or, outside the calendar, none.
-/

namespace LabelPress

/-- The number of days of a year. -/
def daysInYear (year : Nat) : Nat :=
  if isLeapYear year then 366 else 365

theorem daysInMonth_pos
    (year month : Nat) :
    0 < daysInMonth year month := by
  unfold daysInMonth
  split_ifs <;> decide

namespace Date

/-! ## Years and months in the count -/

theorem daysBeforeYear_succ
    {year : Nat}
    (positive : 1 ≤ year) :
    daysBeforeYear (year + 1) = daysBeforeYear year + daysInYear year := by
  have grows (period : Nat) :
      year / period = (year - 1) / period + if year % period = 0 then 1 else 0 := by
    obtain ⟨past, rfl⟩ := Nat.exists_eq_add_of_le' positive
    simp only [Nat.add_sub_cancel, Nat.succ_div, Nat.dvd_iff_mod_eq_zero]
  have fourth := grows 4
  have century := grows 100
  have cycle := grows 400
  simp only [daysBeforeYear, daysInYear, isLeapYear, Bool.and_eq_true, Bool.or_eq_true,
    beq_iff_eq, bne_iff_ne, Nat.add_sub_cancel]
  split_ifs at fourth century cycle ⊢ <;> omega

theorem daysBeforeYear_mono :
    Monotone daysBeforeYear := by
  refine monotone_nat_of_le_succ fun year => ?_
  cases year with
  | zero => decide
  | succ year =>
      rw [daysBeforeYear_succ (Nat.succ_pos year)]
      exact Nat.le_add_right _ _

theorem daysBeforeMonth_succ
    {year month : Nat}
    (positive : 1 ≤ month) :
    daysBeforeMonth year (month + 1) = daysBeforeMonth year month + daysInMonth year month := by
  obtain ⟨past, rfl⟩ := Nat.exists_eq_add_of_le' positive
  simp only [daysBeforeMonth, Nat.add_sub_cancel]
  rw [List.range'_concat, List.foldl_append, Nat.one_mul, Nat.add_comm 1]
  rfl

theorem daysBeforeMonth_mono (year : Nat) :
    Monotone (daysBeforeMonth year) := by
  refine monotone_nat_of_le_succ fun month => ?_
  cases month with
  | zero => exact le_refl _
  | succ month =>
      rw [daysBeforeMonth_succ (Nat.succ_pos month)]
      exact Nat.le_add_right _ _

/-- The months of a year make up its days. -/
theorem daysBeforeMonth_thirteen (year : Nat) :
    daysBeforeMonth year 13 = daysInYear year := by
  simp only [daysBeforeMonth, daysInYear, daysInMonth, List.range'_eq_map_range, List.range_succ]
  cases isLeapYear year <;> rfl

/-- The number of a date among the days of its year. -/
def dayOfYear (date : Date) : Nat :=
  daysBeforeMonth date.year date.month + date.day

theorem dayNumber_eq (date : Date) :
    date.dayNumber = daysBeforeYear date.year + date.dayOfYear :=
  Nat.add_assoc _ _ _

theorem daysBeforeMonth_lt_dayOfYear (date : Date) :
    daysBeforeMonth date.year date.month < date.dayOfYear :=
  Nat.lt_add_of_pos_right date.day_mem.1

theorem dayOfYear_le (date : Date) :
    date.dayOfYear ≤ daysBeforeMonth date.year (date.month + 1) := by
  rw [daysBeforeMonth_succ date.month_mem.1]
  exact Nat.add_le_add_left date.day_mem.2 _

theorem dayOfYear_le_daysInYear (date : Date) :
    date.dayOfYear ≤ daysInYear date.year := by
  rw [← daysBeforeMonth_thirteen]
  exact date.dayOfYear_le.trans
    (daysBeforeMonth_mono date.year (Nat.succ_le_succ date.month_mem.2))

theorem daysBeforeYear_lt_dayNumber (date : Date) :
    daysBeforeYear date.year < date.dayNumber := by
  have later := date.daysBeforeMonth_lt_dayOfYear
  rw [dayNumber_eq]
  omega

theorem dayNumber_le (date : Date) :
    date.dayNumber ≤ daysBeforeYear (date.year + 1) := by
  rw [dayNumber_eq, daysBeforeYear_succ date.year_mem.1]
  exact Nat.add_le_add_left date.dayOfYear_le_daysInYear _

/-! ## The order of dates -/

@[ext]
theorem ext
    {date other : Date}
    (year : date.year = other.year)
    (month : date.month = other.month)
    (day : date.day = other.day) :
    date = other := by
  cases date
  cases other
  congr

/-- The year, month and day of a date, the earlier ones before the later. -/
def key (date : Date) : Nat ×ₗ Nat ×ₗ Nat :=
  toLex (date.year, toLex (date.month, date.day))

theorem key_injective :
    Function.Injective key := by
  intro date other same
  simp only [key, EmbeddingLike.apply_eq_iff_eq, Prod.mk.injEq] at same
  exact ext same.1 same.2.1 same.2.2

/-- Dates are ordered by year, then by month, then by day. -/
instance : LinearOrder Date :=
  LinearOrder.lift' key key_injective

theorem lt_iff
    {date other : Date} :
    date < other ↔
      date.year < other.year ∨ date.year = other.year ∧
        (date.month < other.month ∨ date.month = other.month ∧ date.day < other.day) := by
  change key date < key other ↔ _
  rw [key, key, Prod.Lex.toLex_lt_toLex, Prod.Lex.toLex_lt_toLex]

theorem dayOfYear_lt
    {date other : Date}
    (sameYear : date.year = other.year)
    (lt : date < other) :
    date.dayOfYear < other.dayOfYear := by
  rcases lt_iff.1 lt with year | ⟨-, month | ⟨month, day⟩⟩
  · omega
  · calc date.dayOfYear ≤ daysBeforeMonth date.year (date.month + 1) := date.dayOfYear_le
      _ ≤ daysBeforeMonth date.year other.month := daysBeforeMonth_mono _ month
      _ = daysBeforeMonth other.year other.month := by rw [sameYear]
      _ < other.dayOfYear := other.daysBeforeMonth_lt_dayOfYear
  · rw [dayOfYear, dayOfYear, sameYear, month]
    exact Nat.add_lt_add_left day _

/-- A later date has a greater number. -/
theorem dayNumber_strictMono :
    StrictMono dayNumber := by
  intro date other lt
  rcases lt_or_ge date.year other.year with year | year
  · calc date.dayNumber ≤ daysBeforeYear (date.year + 1) := date.dayNumber_le
      _ ≤ daysBeforeYear other.year := daysBeforeYear_mono year
      _ < other.dayNumber := other.daysBeforeYear_lt_dayNumber
  · have sameYear : date.year = other.year := by
      rcases lt_iff.1 lt with earlier | ⟨same, -⟩ <;> omega
    rw [dayNumber_eq, dayNumber_eq, sameYear]
    exact Nat.add_lt_add_left (dayOfYear_lt sameYear lt) _

/-! ## Finding the date of a number -/

/-- The estimate by the mean length of a year is never off by more than one year. -/
theorem yearOfDayNumber_eq
    {number year : Nat}
    (positive : 1 ≤ year)
    (began : daysBeforeYear year < number)
    (lasts : number ≤ daysBeforeYear (year + 1)) :
    yearOfDayNumber number = year := by
  have hasBegun {other : Nat} : daysBeforeYear other < number ↔ other ≤ year := by
    constructor
    · intro before
      by_contra later
      have after := daysBeforeYear_mono (Nat.succ_le_of_lt (not_le.1 later))
      exact absurd (lasts.trans after) (not_le.2 before)
    · intro before
      exact (daysBeforeYear_mono before).trans_lt began
  -- Four hundred years have 146097 days, and no shorter span strays by a whole year from that.
  have estimate :
      year ≤ (number - 1) * 400 / 146097 + 2 ∧ (number - 1) * 400 / 146097 ≤ year := by
    simp only [daysBeforeYear] at began lasts
    omega
  simp only [yearOfDayNumber, hasBegun]
  split_ifs <;> omega

theorem monthOfDay_eq
    {year month day : Nat}
    (bounds : 1 ≤ month ∧ month ≤ 12)
    (began : daysBeforeMonth year month < day)
    (lasts : day ≤ daysBeforeMonth year (month + 1)) :
    monthOfDay year day = month := by
  have parted : List.range' 1 12 = List.range' 1 month ++ List.range' (1 + month) (12 - month) := by
    rw [List.range'_append_1, Nat.add_sub_cancel' bounds.2]
  have earlier :
      (List.range' 1 month).filter (fun other => daysBeforeMonth year other < day) =
        List.range' 1 month := by
    refine List.filter_eq_self.2 fun other member => decide_eq_true ?_
    have below := (List.mem_range'_1.1 member).2
    exact (daysBeforeMonth_mono year (by omega)).trans_lt began
  have later :
      (List.range' (1 + month) (12 - month)).filter
        (fun other => daysBeforeMonth year other < day) = [] := by
    refine List.filter_eq_nil_iff.2 fun other member => ?_
    have above := (List.mem_range'_1.1 member).1
    simpa using lasts.trans (daysBeforeMonth_mono year (by omega))
  rw [monthOfDay, parted, List.filter_append, earlier, later, List.append_nil, List.length_range']

theorem ofYearMonthDay?_eq_some_iff
    {year month day : Nat}
    {date : Date} :
    ofYearMonthDay? year month day = some date ↔
      date.year = year ∧ date.month = month ∧ date.day = day := by
  constructor
  · intro found
    unfold ofYearMonthDay? at found
    split_ifs at found
    cases found
    exact ⟨rfl, rfl, rfl⟩
  · rintro ⟨rfl, rfl, rfl⟩
    rw [ofYearMonthDay?, dif_pos date.year_mem, dif_pos date.month_mem, dif_pos date.day_mem]

theorem ofYearMonthDay?_eq_none_iff
    {year month day : Nat} :
    ofYearMonthDay? year month day = none ↔
      ¬ ((1 ≤ year ∧ year ≤ 9999) ∧ (1 ≤ month ∧ month ≤ 12) ∧
        1 ≤ day ∧ day ≤ daysInMonth year month) := by
  unfold ofYearMonthDay?
  split_ifs with yearMem monthMem dayMem <;> simp [*]

/-- A number is that of the date which is found for it. -/
theorem ofDayNumber?_eq_some_iff
    {number : Int}
    {date : Date} :
    ofDayNumber? number = some date ↔ (date.dayNumber : Int) = number := by
  constructor
  · intro found
    unfold ofDayNumber? at found
    split_ifs at found with before
    obtain ⟨year, month, day⟩ := ofYearMonthDay?_eq_some_iff.1 found
    have positive := date.day_mem.1
    rw [dayNumber, year, month, day]
    rw [day] at positive
    omega
  · rintro rfl
    have positive := date.daysBeforeYear_lt_dayNumber
    have year : yearOfDayNumber date.dayNumber = date.year :=
      yearOfDayNumber_eq date.year_mem.1 date.daysBeforeYear_lt_dayNumber date.dayNumber_le
    have inYear : date.dayNumber - daysBeforeYear date.year = date.dayOfYear := by
      rw [dayNumber_eq, Nat.add_sub_cancel_left]
    have month : monthOfDay date.year date.dayOfYear = date.month :=
      monthOfDay_eq date.month_mem date.daysBeforeMonth_lt_dayOfYear date.dayOfYear_le
    rw [ofDayNumber?, if_neg (by omega), Int.toNat_natCast]
    dsimp only
    rw [year, inYear, month, ofYearMonthDay?_eq_some_iff]
    exact ⟨rfl, rfl, (Nat.add_sub_cancel_left ..).symm⟩

/-! ## From one date to the next -/

/-- The last date of the calendar. -/
def last : Date :=
  ⟨9999, 12, 31, by decide, by decide, by decide⟩

theorem dayNumber_le_last (date : Date) :
    date.dayNumber ≤ last.dayNumber := by
  have whole : last.dayNumber = daysBeforeYear 10000 := by decide
  rw [whole]
  exact date.dayNumber_le.trans (daysBeforeYear_mono (Nat.succ_le_succ date.year_mem.2))

/-- The date after a date: the next day of its month, or else the first of the next month. -/
def next? (date : Date) : Option Date :=
  if date.day < daysInMonth date.year date.month then
    ofYearMonthDay? date.year date.month (date.day + 1)
  else if date.month < 12 then
    ofYearMonthDay? date.year (date.month + 1) 1
  else
    ofYearMonthDay? (date.year + 1) 1 1

/-- The next date has the next number. -/
theorem dayNumber_of_next?
    {date other : Date}
    (next : date.next? = some other) :
    other.dayNumber = date.dayNumber + 1 := by
  have inMonth := date.day_mem.2
  have inYear := date.month_mem.2
  have full : daysBeforeMonth date.year (date.month + 1) = _ :=
    daysBeforeMonth_succ date.month_mem.1
  unfold next? at next
  split_ifs at next with dayLeft monthLeft
  · obtain ⟨year, month, day⟩ := ofYearMonthDay?_eq_some_iff.1 next
    rw [dayNumber, year, month, day]
    rfl
  · obtain ⟨year, month, day⟩ := ofYearMonthDay?_eq_some_iff.1 next
    rw [dayNumber, dayNumber, year, month, day, full]
    omega
  · obtain ⟨year, month, day⟩ := ofYearMonthDay?_eq_some_iff.1 next
    have december : date.month = 12 := by omega
    have yearEnds := daysBeforeYear_succ date.year_mem.1
    have january : daysBeforeMonth (date.year + 1) 1 = 0 := rfl
    rw [december, daysBeforeMonth_thirteen] at full
    rw [december] at inMonth dayLeft
    rw [dayNumber, dayNumber, year, month, day, december, yearEnds, january]
    omega

/-- Only the last date has no next one. -/
theorem eq_last_of_next?_eq_none
    {date : Date}
    (next : date.next? = none) :
    date = last := by
  have inMonth := date.day_mem.2
  have inYear := date.month_mem
  have year := date.year_mem
  have positive := daysInMonth_pos date.year (date.month + 1)
  have january : 0 < daysInMonth (date.year + 1) 1 := daysInMonth_pos _ _
  unfold next? at next
  split_ifs at next with dayLeft monthLeft <;> rw [ofYearMonthDay?_eq_none_iff] at next
  · omega
  · omega
  · have lastYear : date.year = 9999 := by omega
    have december : date.month = 12 := by omega
    have lastDay : date.day = daysInMonth date.year 12 := by
      rw [december] at inMonth dayLeft
      omega
    exact ext lastYear december lastDay

theorem next?_eq_some_iff
    {date other : Date} :
    date.next? = some other ↔ other.dayNumber = date.dayNumber + 1 := by
  constructor
  · exact dayNumber_of_next?
  · intro number
    cases next : date.next? with
    | some found =>
        have same := dayNumber_of_next? next
        rw [dayNumber_strictMono.injective (same.trans number.symm)]
    | none =>
        have bound := other.dayNumber_le_last
        rw [number, eq_last_of_next?_eq_none next] at bound
        omega

/-- Every number up to that of the last date belongs to a date. -/
theorem exists_dayNumber_eq_iff
    {number : Nat} :
    (∃ date : Date, date.dayNumber = number) ↔ 1 ≤ number ∧ number ≤ last.dayNumber := by
  constructor
  · rintro ⟨date, rfl⟩
    exact ⟨date.daysBeforeYear_lt_dayNumber.trans_le' (Nat.zero_le _), date.dayNumber_le_last⟩
  · rintro ⟨positive, bound⟩
    induction number, positive using Nat.le_induction with
    | base => exact ⟨⟨1, 1, 1, by decide, by decide, by decide⟩, rfl⟩
    | succ number positive inductionHypothesis =>
        obtain ⟨date, rfl⟩ := inductionHypothesis (by omega)
        cases next : date.next? with
        | some other => exact ⟨other, dayNumber_of_next? next⟩
        | none =>
            rw [eq_last_of_next?_eq_none next] at bound
            omega

/-! ## Dates some days apart -/

/-- A date is a number of days after another one, or before it for a negative number. -/
inductive DaysAfter (date : Date) : Int → Date → Prop where
  | same : DaysAfter date 0 date
  | forth
      {days : Int}
      {other following : Date}
      (reached : DaysAfter date days other)
      (next : other.next? = some following) :
      DaysAfter date (days + 1) following
  | back
      {days : Int}
      {other previous : Date}
      (reached : DaysAfter date days other)
      (next : previous.next? = some other) :
      DaysAfter date (days - 1) previous

variable {date other : Date} {days : Int}

theorem DaysAfter.dayNumber_eq
    (after : DaysAfter date days other) :
    (other.dayNumber : Int) = date.dayNumber + days := by
  induction after with
  | same => rw [Int.add_zero]
  | forth _ next inductionHypothesis =>
      have step := dayNumber_of_next? next
      omega
  | back _ next inductionHypothesis =>
      have step := dayNumber_of_next? next
      omega

/-- Between two dates there is a date for every number on the way. -/
theorem daysAfter_iff :
    DaysAfter date days other ↔ (other.dayNumber : Int) = date.dayNumber + days := by
  constructor
  · exact DaysAfter.dayNumber_eq
  · -- A number on the way lies between those of the two dates, so some date has it.
    have within (date : Date) := exists_dayNumber_eq_iff.1 ⟨date, rfl⟩
    intro number
    have here := within date
    have there := within other
    induction days using Int.induction_on generalizing other with
    | zero =>
        rw [Int.add_zero, Int.ofNat_inj] at number
        rw [dayNumber_strictMono.injective number]
        exact .same
    | succ days inductionHypothesis =>
        obtain ⟨previous, before⟩ : ∃ found : Date, found.dayNumber = date.dayNumber + days :=
          exists_dayNumber_eq_iff.2 (by omega)
        have reached : DaysAfter date days previous :=
          inductionHypothesis (by omega) (within previous)
        exact reached.forth (next?_eq_some_iff.2 (by omega))
    | pred days inductionHypothesis =>
        obtain ⟨following, after⟩ : ∃ found : Date, found.dayNumber = date.dayNumber - days :=
          exists_dayNumber_eq_iff.2 (by omega)
        have reached : DaysAfter date (-days) following :=
          inductionHypothesis (by omega) (within following)
        exact reached.back (next?_eq_some_iff.2 (by omega))

/-- Adding days walks that many dates forth or back. -/
theorem addDays?_eq_some_iff :
    date.addDays? days = some other ↔ DaysAfter date days other := by
  rw [addDays?, ofDayNumber?_eq_some_iff, daysAfter_iff]

theorem addDays?_eq_none_iff :
    date.addDays? days = none ↔ ∀ other, ¬ DaysAfter date days other := by
  simp only [Option.eq_none_iff_forall_ne_some, ne_eq, addDays?_eq_some_iff]

/-- On the way to a date the days that are left lead there. -/
theorem DaysAfter.rest
    {last : Date}
    {more : Int}
    (after : DaysAfter date days other)
    (whole : DaysAfter date (days + more) last) :
    DaysAfter other more last := by
  rw [daysAfter_iff] at *
  omega

/-- No two dates are ten million days apart. -/
theorem DaysAfter.natAbs_lt
    (after : DaysAfter date days other) :
    days.natAbs < 10 ^ 7 := by
  have number := after.dayNumber_eq
  have here := date.dayNumber_le_last
  have there := other.dayNumber_le_last
  have total : last.dayNumber = 3652059 := by decide
  omega

end Date
end LabelPress
