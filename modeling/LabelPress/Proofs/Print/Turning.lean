import LabelPress.Proofs.Number.Nearest
import LabelPress.Proofs.Print.Dots

/-!
# Turning by quarters

Orientations as a cycle of four quarter turns.  Main statements: rotations that are a number
of quarter turns apart have orientations that are as many places apart, and a rotation and
the one a full turn further have the same orientation unless rounding to whole degrees parts
them.  It does so in two ways: an angle half way between two whole degrees is rounded down
before zero and up behind it, and an integer of more than 53 bits becomes a double first.
-/

namespace LabelPress

open Double

/-! ## Rotations in whole degrees -/

/-- The rational number that a number is; one that is not finite is none. -/
def Number.Denotes : Number → ℚ → Prop
  | .integer n, x => x = n
  | .real double, x => double.isFinite = true ∧ x = double.value

section Degrees

variable {n degrees : Int} {angle : Double}

namespace Orientation

theorem ofRotation_real
    (finite : angle.isFinite = true)
    (rounds : RoundsTo angle.value degrees) :
    ofRotation (some (.real angle)) = .ok (ofDegrees degrees) := by
  rw [ofRotation, Number.isFinite?, Number.round?, finite, round?_eq_ok_iff.2 ⟨finite, rounds⟩]
  rfl

theorem ofRotation_integer
    (below : (n.natAbs : ℚ) < overflowBound)
    (rounds : RoundsTo (Double.ofInt n).value degrees) :
    ofRotation (some (.integer n)) = .ok (ofDegrees degrees) := by
  have finite := isFinite_ofInt.2 below
  rw [ofRotation, Number.isFinite?, Number.round?, ofInt?_eq_ok below]
  change (do return ofDegrees (← (Double.ofInt n).round?)) = _
  rw [round?_eq_ok_iff.2 ⟨finite, rounds⟩]
  rfl

/-- A whole number of degrees is taken as it is up to `2 ^ 53`, integer or double. -/
theorem ofRotation_of_denotes
    {rotation : Number}
    (denotes : rotation.Denotes degrees)
    (short : degrees.natAbs ≤ 2 ^ 53) :
    ofRotation (some rotation) = .ok (ofDegrees degrees) := by
  cases rotation with
  | integer n =>
      have same : (degrees : ℚ) = n := denotes
      obtain rfl : degrees = n := by exact_mod_cast same
      have below := abs_lt_overflowBound_of_short short
      rw [← Int.cast_abs, ← Nat.cast_natAbs] at below
      apply ofRotation_integer below
      rw [value_ofInt below, signedRounded_intCast short]
      exact .intCast degrees
  | real angle =>
      obtain ⟨finite, same⟩ := denotes
      apply ofRotation_real finite
      rw [← same]
      exact .intCast degrees

end Orientation
end Degrees

/-! ## The cycle of orientations -/

namespace Orientation

/-- The quarter turns that lead from upright to an orientation. -/
def turns : Orientation → Int
  | .normal => 0
  | .quarter => 1
  | .half => 2
  | .threeQuarters => 3

/-- The orientation after some quarter turns, backwards if there are fewer than none. -/
def ofTurns (count : Int) : Orientation :=
  if count % 4 = 0 then
    .normal
  else if count % 4 = 1 then
    .quarter
  else if count % 4 = 2 then
    .half
  else
    .threeQuarters

/-- The orientation some quarter turns further. -/
def advance
    (orientation : Orientation)
    (count : Int) : Orientation :=
  ofTurns (orientation.turns + count)

theorem turns_ofTurns (count : Int) :
    (ofTurns count).turns = count % 4 := by
  unfold ofTurns
  split_ifs <;> simp only [turns] <;> omega

theorem ofTurns_eq_iff {count count' : Int} :
    ofTurns count = ofTurns count' ↔ count % 4 = count' % 4 := by
  constructor
  · intro same
    rw [← turns_ofTurns, same, turns_ofTurns]
  · intro same
    rw [ofTurns, ofTurns, same]

theorem advance_ofTurns (count count' : Int) :
    (ofTurns count).advance count' = ofTurns (count + count') := by
  rw [advance, turns_ofTurns, ofTurns_eq_iff, Int.emod_add_emod]

/-- Four buckets of ninety degrees around the quarter turns tile the circle. -/
theorem ofDegrees_eq (degrees : Int) :
    ofDegrees degrees = ofTurns ((degrees + 45) / 90) := by
  unfold ofDegrees ofTurns
  dsimp only
  split_ifs <;> first | rfl | omega

theorem ofDegrees_add (degrees count : Int) :
    ofDegrees (degrees + 90 * count) = (ofDegrees degrees).advance count := by
  rw [ofDegrees_eq, ofDegrees_eq, advance_ofTurns, ofTurns_eq_iff]
  omega

theorem ofDegrees_eq_iff {degrees degrees' : Int} :
    ofDegrees degrees = ofDegrees degrees' ↔
      (degrees + 45) / 90 % 4 = (degrees' + 45) / 90 % 4 := by
  rw [ofDegrees_eq, ofDegrees_eq, ofTurns_eq_iff]

/-- Rotations some quarter turns apart have orientations as many places apart. -/
theorem ofRotation_advance
    {rotation turned : Number}
    {degrees count : Int}
    (here : rotation.Denotes degrees)
    (there : turned.Denotes (degrees + 90 * count : Int))
    (short : degrees.natAbs ≤ 2 ^ 53)
    (short' : (degrees + 90 * count).natAbs ≤ 2 ^ 53) :
    ∃ orientation,
      ofRotation (some rotation) = .ok orientation ∧
        ofRotation (some turned) = .ok (orientation.advance count) := by
  refine ⟨_, ofRotation_of_denotes here short, ?_⟩
  rw [ofRotation_of_denotes there short', ofDegrees_add]

theorem ofRotation_advance_from_before_zero :
    let rotation : Number := .real (.finite true (58 * 2 ^ 47) (-47) (by decide))
    let turned : Number := .integer (2 ^ 53)
    let count : Int := 100079991719345
    rotation.Denotes (-58 : Int) ∧ turned.Denotes (-58 + 90 * count : Int) ∧
      (-58 : Int).natAbs ≤ 2 ^ 53 ∧ (-58 + 90 * count).natAbs ≤ 2 ^ 53 ∧
      ofRotation (some rotation) = .ok .threeQuarters ∧
      ofRotation (some turned) = .ok (advance .threeQuarters count) ∧
      advance .threeQuarters count = .normal := by
  intro rotation turned count
  have here : rotation.Denotes (-58 : Int) := by
    refine ⟨rfl, ?_⟩
    norm_num [value, isNegative, magnitude]
  have there : turned.Denotes (-58 + 90 * count : Int) := by
    norm_num [turned, count, Number.Denotes]
  have short : (-58 : Int).natAbs ≤ 2 ^ 53 := by decide
  have short' : (-58 + 90 * count).natAbs ≤ 2 ^ 53 := by decide
  obtain ⟨orientation, made, advanced⟩ := ofRotation_advance here there short short'
  have outcome : ofRotation (some rotation) = .ok .threeQuarters := by decide +kernel
  obtain rfl : orientation = .threeQuarters := Except.ok.inj (made.symm.trans outcome)
  exact ⟨here, there, short, short', made, advanced, by decide⟩

end Orientation

/-! ## Full turns -/

section FullTurn

variable {x : ℚ} {m n : Int}

/-- Half way between two whole degrees, before zero and less than a full turn from it. -/
structure CrossesZero
    (x : ℚ)
    (n : Int) : Prop where
  after : -360 < x
  before : x < 0
  halfWay : x = n + 1 / 2

theorem RoundsTo.half
    {k : Int}
    (natural : 0 ≤ k) :
    RoundsTo (k + 1 / 2) (k + 1 : Int) := by
  have natural' : (0 : ℚ) ≤ k := by exact_mod_cast natural
  constructor
  · norm_num
  · intro _
    rw [Int.cast_add, Int.cast_one, abs_of_nonneg (by linarith), abs_of_nonneg (by linarith)]
    linarith

/-- A full turn further rounding gives a full turn more, or one degree beyond that. -/
theorem RoundsTo.fullTurn
    (rounds : RoundsTo x n)
    (rounds' : RoundsTo (x + 360) m) :
    (¬ CrossesZero x n ∧ m = n + 360) ∨ (CrossesZero x n ∧ m = n + 361) := by
  rcases le_or_gt 0 x with front | before
  · left
    refine ⟨fun crosses => absurd crosses.before (not_lt.2 front), ?_⟩
    exact rounds'.eq (by exact_mod_cast rounds.add_of_nonneg front (by norm_num : (0 : Int) ≤ 360))
  rcases le_or_gt x (-360) with back | after
  · left
    refine ⟨fun crosses => absurd crosses.after (not_lt.2 back), ?_⟩
    have mirrored := rounds'.neg.add_of_nonneg (by linarith) (by norm_num : (0 : Int) ≤ 360)
    have same : -(x + 360) + ((360 : Int) : ℚ) = -x := by
      push_cast
      ring
    rw [same] at mirrored
    have opposite := mirrored.eq rounds.neg
    omega
  rcases rounds.close.lt_or_eq with close | halfWay
  · left
    constructor
    · intro crosses
      rw [crosses.halfWay, abs_sub_comm] at close
      norm_num at close
    · refine rounds'.eq (.of_lt ?_)
      have moved : ((n + 360 : Int) : ℚ) - (x + 360) = n - x := by
        push_cast
        ring
      rwa [moved]
  · right
    have mirrored : |((-n : Int) : ℚ) - -x| = 1 / 2 := by
      rwa [Int.cast_neg, ← neg_sub', abs_neg]
    have down := rounds.neg.eq_add_half (by linarith) mirrored
    rw [Int.cast_neg] at down
    have split : x = n + 1 / 2 := by linarith
    refine ⟨⟨after, before, split⟩, ?_⟩
    have reach : (-361 : ℚ) < n := by linarith
    have reach' : -361 < n := by exact_mod_cast reach
    have natural : 0 ≤ n + 360 := by omega
    have ahead := RoundsTo.half natural
    have same : ((n + 360 : Int) : ℚ) + 1 / 2 = x + 360 := by
      rw [split]
      push_cast
      ring
    rw [same] at ahead
    rw [rounds'.eq ahead]
    ring

/-- The degrees at which one orientation ends and the next one begins. -/
def boundaries : List Int :=
  [45, 135, 225, 315]

theorem crossesZero_of_eq
    {k : Int}
    (rounds : RoundsTo x n)
    (natural : 0 ≤ k)
    (below : k < 360)
    (halfWay : x = -(k + 1 / 2)) :
    CrossesZero x n := by
  have natural' : (0 : ℚ) ≤ k := by exact_mod_cast natural
  have below' : (k : ℚ) + 1 ≤ 360 := by exact_mod_cast below
  have down := (RoundsTo.half natural).neg
  rw [← halfWay] at down
  obtain rfl := rounds.eq down
  refine ⟨by linarith, by linarith, ?_⟩
  rw [halfWay]
  push_cast
  ring

/-- A full turn keeps the orientation except half a degree behind a boundary before zero. -/
theorem Orientation.ofDegrees_eq_fullTurn_iff
    (rounds : RoundsTo x n)
    (rounds' : RoundsTo (x + 360) m) :
    ofDegrees n = ofDegrees m ↔ ∀ boundary ∈ boundaries, x ≠ -(boundary + 1 / 2) := by
  rcases rounds.fullTurn rounds' with ⟨apart, rfl⟩ | ⟨crosses, rfl⟩
  · refine iff_of_true ?_ ?_
    · rw [ofDegrees_eq_iff]
      omega
    · intro boundary member halfWay
      simp only [boundaries, List.mem_cons, List.not_mem_nil, or_false] at member
      exact apart (crossesZero_of_eq rounds (by omega) (by omega) halfWay)
  · have reach : (-361 : ℚ) < n := by linarith [crosses.after, crosses.halfWay]
    have before : (n : ℚ) < 0 := by linarith [crosses.before, crosses.halfWay]
    have reach' : -361 < n := by exact_mod_cast reach
    have before' : n < 0 := by exact_mod_cast before
    have behind (boundary : Int) : x = -(boundary + 1 / 2) ↔ n = -(boundary + 1) := by
      have cast : x = -(boundary + 1 / 2) ↔ (n : ℚ) = -(boundary + 1) := by
        rw [crosses.halfWay]
        constructor <;> intro same <;> linarith
      rw [cast]
      exact_mod_cast Iff.rfl
    have step : (n + 361 + 45) / 90 = (n + 46) / 90 + 4 := by omega
    have near : (n + 46) / 90 = (n + 45) / 90 ∨ (n + 46) / 90 = (n + 45) / 90 + 1 := by omega
    simp only [ne_eq, behind, boundaries, List.forall_mem_cons, List.not_mem_nil, false_imp_iff,
      implies_true, and_true, ofDegrees_eq_iff, step]
    omega

/-- The rotation a full turn further, a sum of two numbers of one kind. -/
def Number.fullTurn : Number → Number
  | .integer degrees => .integer (degrees + 360)
  | .real degrees => .real (degrees.add (Double.ofInt 360))

namespace Orientation

variable {degrees : Int}

/-- A full turn keeps the orientation of a rotation. -/
inductive KeptByFullTurn : Number → Prop
  /-- An angle that does not lie half a degree behind a boundary before zero. -/
  | angle
      {angle : Double}
      (apart : ∀ boundary ∈ boundaries, angle.value ≠ -(boundary + 1 / 2)) :
      KeptByFullTurn (.real angle)
  /-- Two integers whose nearest doubles lie in one quarter of the circle. -/
  | whole
      {degrees here there : Int}
      (denotes : (Number.real (Double.ofInt degrees)).Denotes here)
      (denotes' : (Number.real (Double.ofInt (degrees + 360))).Denotes there)
      (same : (here + 45) / 90 % 4 = (there + 45) / 90 % 4) :
      KeptByFullTurn (.integer degrees)

/-- An integer rotation that can be used has a nearest double, which is whole as well. -/
theorem ofRotation_integer_eq_ok_iff
    {orientation : Orientation} :
    ofRotation (some (.integer degrees)) = .ok orientation ↔
      ∃ here : Int, (Number.real (Double.ofInt degrees)).Denotes here ∧
        ofDegrees here = orientation := by
  have taken {here : Int} (denotes : (Number.real (Double.ofInt degrees)).Denotes here) :
      ofRotation (some (.integer degrees)) = .ok (ofDegrees here) := by
    apply ofRotation_integer (isFinite_ofInt.1 denotes.1)
    rw [← denotes.2]
    exact .intCast here
  constructor
  · intro made
    have below := succeeds_ofRotation.1 ⟨orientation, made⟩ degrees rfl
    obtain ⟨here, whole⟩ := exists_signedRounded_intCast degrees
    have denotes : (Number.real (Double.ofInt degrees)).Denotes here :=
      ⟨isFinite_ofInt.2 below, by rw [value_ofInt below, whole]⟩
    rw [taken denotes, Except.ok.injEq] at made
    exact ⟨here, denotes, made⟩
  · rintro ⟨here, denotes, rfl⟩
    exact taken denotes

/--
A rotation and the one a full turn further, of which both are exact, have the same orientation
exactly if it is kept by a full turn.  Whole numbers of degrees are so up to `2 ^ 53`.
-/
theorem ofRotation_fullTurn_iff
    {rotation : Number}
    {x : ℚ}
    (denotes : rotation.Denotes x)
    (sum : rotation.fullTurn.Denotes (x + 360)) :
    ((∃ orientation, ofRotation (some rotation) = .ok orientation ∧
        ofRotation (some rotation.fullTurn) = .ok orientation) ↔ KeptByFullTurn rotation) ∧
      ∀ degrees : Int, x = degrees → degrees.natAbs ≤ 2 ^ 53 → (degrees + 360).natAbs ≤ 2 ^ 53 →
        KeptByFullTurn rotation := by
  have kept : (∃ orientation, ofRotation (some rotation) = .ok orientation ∧
      ofRotation (some rotation.fullTurn) = .ok orientation) ↔ KeptByFullTurn rotation := by
    cases rotation with
    | integer degrees =>
        rw [Number.fullTurn]
        constructor
        · rintro ⟨orientation, made, made'⟩
          obtain ⟨here, denotes, rfl⟩ := ofRotation_integer_eq_ok_iff.1 made
          obtain ⟨there, denotes', same⟩ := ofRotation_integer_eq_ok_iff.1 made'
          exact .whole denotes denotes' (ofDegrees_eq_iff.1 same.symm)
        · rintro (_ | ⟨denotes, denotes', same⟩)
          exact ⟨_, ofRotation_integer_eq_ok_iff.2 ⟨_, denotes, rfl⟩,
            ofRotation_integer_eq_ok_iff.2 ⟨_, denotes', (ofDegrees_eq_iff.2 same).symm⟩⟩
    | real angle =>
        obtain ⟨finite, rfl⟩ := denotes
        obtain ⟨finite', sum⟩ := sum
        have rounds := angle.roundsTo_nearestInt
        have rounds' := (angle.add (Double.ofInt 360)).roundsTo_nearestInt
        rw [Number.fullTurn, ofRotation_real finite rounds, ofRotation_real finite' rounds']
        rw [← sum] at rounds'
        have crossing := ofDegrees_eq_fullTurn_iff rounds rounds'
        constructor
        · rintro ⟨orientation, made, made'⟩
          exact .angle (crossing.1 (Except.ok.inj (made.trans made'.symm)))
        · rintro (apart | _)
          exact ⟨_, rfl, congrArg _ (crossing.2 apart).symm⟩
  refine ⟨kept, fun degrees whole short short' => kept.1 ?_⟩
  subst whole
  refine ⟨_, ofRotation_of_denotes denotes short, ?_⟩
  have there : rotation.fullTurn.Denotes (degrees + 360 : Int) := by
    rwa [Int.cast_add, Int.cast_ofNat]
  rw [ofRotation_of_denotes there short', Except.ok.injEq, ofDegrees_eq_iff]
  omega

theorem ofRotation_fullTurn_iff_between_degrees :
    let angle : Double := .finite true (89 * 2 ^ 46) (-47) (by decide)
    let edge : Int := -2 ^ 53
    (Number.real angle).Denotes (-89 / 2) ∧
      (Number.real angle).fullTurn.Denotes (-89 / 2 + 360) ∧
      (∃ orientation, ofRotation (some (.real angle)) = .ok orientation ∧
        ofRotation (some (Number.real angle).fullTurn) = .ok orientation) ∧
      (Number.integer edge).Denotes edge ∧
      (Number.integer edge).fullTurn.Denotes (edge + 360) ∧
      edge.natAbs ≤ 2 ^ 53 ∧ (edge + 360).natAbs ≤ 2 ^ 53 ∧
      KeptByFullTurn (.integer edge) := by
  intro angle edge
  have denotes : (Number.real angle).Denotes (-89 / 2) := by
    refine ⟨rfl, ?_⟩
    norm_num [angle, value, isNegative, magnitude]
  have exactSum :
      angle.add (Double.ofInt 360) = .finite false (631 * 2 ^ 43) (-44) (by decide) := by
    decide +kernel
  have denotes' : (Number.real angle).fullTurn.Denotes (-89 / 2 + 360) := by
    rw [Number.fullTurn, exactSum]
    refine ⟨rfl, ?_⟩
    norm_num [value, isNegative, magnitude]
  have apart : ∀ boundary ∈ boundaries, angle.value ≠ -(boundary + 1 / 2) := by
    rw [← denotes.2]
    norm_num [boundaries]
  have whole : (Number.integer edge).Denotes edge := rfl
  have whole' : (Number.integer edge).fullTurn.Denotes (edge + 360) := by
    norm_num [Number.fullTurn, Number.Denotes]
  have short : edge.natAbs ≤ 2 ^ 53 := by decide
  have short' : (edge + 360).natAbs ≤ 2 ^ 53 := by decide
  exact ⟨denotes, denotes', (ofRotation_fullTurn_iff denotes denotes').1.2 (.angle apart),
    whole, whole', short, short',
    (ofRotation_fullTurn_iff whole whole').2 edge rfl short short'⟩

/-- Half a degree behind a boundary before zero a full turn leads to the next orientation. -/
theorem ofRotation_fullTurn_behind_boundary :
    let angle : Double := .finite true (91 * 2 ^ 46) (-47) (by decide)
    (Number.real angle).Denotes (-91 / 2) ∧
      (Number.real angle).fullTurn.Denotes (-91 / 2 + 360) ∧
      ofRotation (some (.real angle)) = .ok .threeQuarters ∧
      ofRotation (some (Number.real angle).fullTurn) = .ok .normal := by
  intro angle
  have sum : angle.add (Double.ofInt 360) = .finite false (629 * 2 ^ 43) (-44) (by decide) := by
    decide +kernel
  rw [Number.fullTurn, sum]
  refine ⟨⟨rfl, ?_⟩, ⟨rfl, ?_⟩, by decide, by decide⟩
  · norm_num [angle, value, isNegative, magnitude]
  · norm_num [value, isNegative, magnitude]

end Orientation
end FullTurn
end LabelPress
