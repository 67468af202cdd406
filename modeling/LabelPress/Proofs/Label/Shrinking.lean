import LabelPress.Proofs.Label.Rendering
import LabelPress.Proofs.Print.Measuring
import LabelPress.Proofs.Print.Threshold

/-!
# Fonts that shrink

The font height of one text with and without automatic fitting.  Main statement: fitting does
not enlarge the font exactly if the least size is not above the height that the font has
without it, or if there is no text; otherwise the font grows to the least size.  Which height
is greater is decided in dots, after each of the two sizes was rounded by itself; sizes in
order stay in order.
-/

namespace LabelPress

namespace Fit

variable {text : Text} {boxWidth boxHeight wanted least height : Int}

/-- Above the least size the search goes down, and below it the search does not start. -/
theorem fontHeight_le_iff
    (positive : 1 ≤ least)
    (found : fontHeight text boxWidth boxHeight wanted least = .ok height) :
    (height ≤ wanted ↔ least ≤ wanted) ∧ (wanted < least → height = least) := by
  rcases Int.lt_or_le wanted least with below | reaches
  · rw [fontHeight, if_pos below] at found
    obtain rfl : least = height := Except.ok.inj found
    exact ⟨Iff.rfl, fun _ => rfl⟩
  · have threshold := isThreshold_of_fontHeight positive reaches found
    exact ⟨iff_of_true threshold.le_wanted reaches, fun below => by omega⟩

end Fit

/-- A length that covers dots has a finite product: an infinite length covers none. -/
theorem isFinite_mul_of_dots
    {length : Double}
    {perMillimetre count : Int}
    (measured : dots (.real length) perMillimetre = .ok count)
    (visible : count ≠ 0) :
    (length.mul (.ofInt perMillimetre)).isFinite = true := by
  rw [dots_real] at measured
  split at measured
  · obtain ⟨factor, made, rounded⟩ := bind_eq_ok.1 measured
    rw [Double.ofInt?_eq_ok (Double.succeeds_ofInt?.1 ⟨factor, made⟩)] at made
    cases made
    exact (Double.round?_eq_ok_iff.1 rounded).1
  · exact absurd (Except.ok.inj measured).symm visible

theorem Scene.dots_of_pixelDots
    {scene : Scene}
    {pixels : Double}
    {count : Int}
    (measured : scene.pixelDots pixels = .ok count) :
    scene.settings.pixelsPerMillimetre.isZero = false ∧
      scene.dots (scene.fromPixels pixels) = .ok count := by
  obtain ⟨length, divided, measured⟩ := bind_eq_ok.1 measured
  rw [Double.div?] at divided
  split at divided
  · cases divided
  · rename_i nonzero
    cases divided
    exact ⟨by simpa using nonzero, measured⟩

namespace Element

variable {element : Element} {scene : Scene} {wanted least height : Int}

/-- The element with automatic fitting switched on or off. -/
def fitting
    (element : Element)
    (shrinks : Bool) : Element :=
  { element with autoFit := some shrinks }

/-- The least height to which the font of a text shrinks, in dots. -/
def leastDots
    (element : Element)
    (scene : Scene) : Except NumericFault Int :=
  (scene.pixelDots (nonzeroOr element.minFontSize defaultMinFontSize)).map (max · 1)

/-- A text that is there is fitted between its least height and the one without fitting. -/
theorem exists_search
    {data : Text}
    (fitted : (element.fitting true).textHeight scene data wanted = .ok height) :
    (data = [] ∧ height = wanted) ∨
      (data ≠ [] ∧ ∃ boxWidth boxHeight least,
        element.leastDots scene = .ok least ∧ 1 ≤ least ∧
          Fit.fontHeight data boxWidth boxHeight wanted least = .ok height) := by
  rw [textHeight] at fitted
  split at fitted
  · rename_i shrinks
    obtain ⟨boxWidth, -, fitted⟩ := bind_eq_ok.1 fitted
    obtain ⟨boxHeight, -, fitted⟩ := bind_eq_ok.1 fitted
    obtain ⟨dots, low, found⟩ := bind_eq_ok.1 fitted
    exact Or.inr ⟨shrinks.2, boxWidth, boxHeight, max dots 1,
      map_eq_ok.2 ⟨dots, low, rfl⟩, le_max_right _ _, found⟩
  · rename_i fixed
    have none : data = [] := by
      by_contra present
      exact fixed ⟨rfl, present⟩
    exact Or.inl ⟨none, (Except.ok.inj fitted).symm⟩

/-- The bodies of one text with and without fitting differ in the height only. -/
theorem exists_bodies
    {plain fitted : FieldBody}
    (plainMade : (element.fitting false).textBody scene = .ok plain)
    (fittedMade : (element.fitting true).textBody scene = .ok fitted) :
    ∃ orientation wanted height data,
      plain = .text orientation wanted data ∧ fitted = .text orientation height data ∧
        element.fontDots scene = .ok wanted ∧
        (element.fitting true).textHeight scene data.text wanted = .ok height := by
  obtain ⟨content, orientation, wanted, shown, turned, measured, rfl⟩ :=
    textBody_eq_ok plainMade
  have measured : element.fontDots scene = .ok wanted := measured (by simp [fitting])
  rw [textBody_eq] at fittedMade
  obtain ⟨content', shown', fittedMade⟩ := bind_eq_ok.1 fittedMade
  obtain ⟨wanted', measured', fittedMade⟩ := bind_eq_ok.1 fittedMade
  obtain ⟨height, fitted, fittedMade⟩ := bind_eq_ok.1 fittedMade
  obtain ⟨orientation', turned', fittedMade⟩ := bind_eq_ok.1 fittedMade
  cases fittedMade
  obtain rfl : content = content' := Except.ok.inj (shown.symm.trans shown')
  obtain rfl : wanted = wanted' := Except.ok.inj (measured.symm.trans measured')
  obtain rfl : orientation = orientation' := Except.ok.inj (turned.symm.trans turned')
  exact ⟨orientation, wanted, height, .ofText content, rfl, rfl, measured, fitted⟩

/-- A least size that is not above the size of the font stays so in dots. -/
theorem leastDots_le
    (density : 0 ≤ scene.dotsPerMillimetre)
    (scale : 0 ≤ scene.settings.pixelsPerMillimetre.value)
    (le : (nonzeroOr element.minFontSize defaultMinFontSize).value ≤
      (nonzeroOr element.fontSize scene.settings.defaultFontSize).value)
    (measured : element.fontDots scene = .ok wanted)
    (visible : 1 ≤ wanted)
    (low : element.leastDots scene = .ok least) :
    least ≤ wanted := by
  obtain ⟨dots, lowMeasured, rfl⟩ := map_eq_ok.1 low
  obtain ⟨nonzero, fontMeasured⟩ := Scene.dots_of_pixelDots measured
  obtain ⟨-, leastMeasured⟩ := Scene.dots_of_pixelDots lowMeasured
  have product := isFinite_mul_of_dots fontMeasured (by omega)
  have finite := (Double.isFinite_of_mul product).1
  apply max_le _ visible
  by_cases none : dots = 0
  · omega
  · have product' := isFinite_mul_of_dots leastMeasured none
    have finite' := (Double.isFinite_of_mul product').1
    exact dots_mono density product' product
      (Double.value_div_mono scale nonzero finite' finite le) leastMeasured fontMeasured

/--
Automatic fitting does not enlarge a font exactly if there is no text or the least size is not
above the height without fitting; otherwise the font gets the least size.  The least size is
not above if it is not above the size of the font and this one covers a dot.
-/
theorem fitted_le_plain_iff
    {plain fitted : Field}
    (isText : element.kind? = some .text)
    (plainMade : (element.fitting false).field? scene = .ok (some plain))
    (fittedMade : (element.fitting true).field? scene = .ok (some fitted)) :
    ∃ orientation wanted height data,
      plain.body = .text orientation wanted data ∧ fitted.body = .text orientation height data ∧
        (height ≤ wanted ↔
          data.text = [] ∨ ∃ least, element.leastDots scene = .ok least ∧ least ≤ wanted) ∧
        (wanted < height → element.leastDots scene = .ok height) ∧
        (0 ≤ scene.dotsPerMillimetre → 0 ≤ scene.settings.pixelsPerMillimetre.value →
          (nonzeroOr element.minFontSize defaultMinFontSize).value ≤
            (nonzeroOr element.fontSize scene.settings.defaultFontSize).value →
          1 ≤ wanted → height ≤ wanted) := by
  obtain ⟨_, _, plainBody, -, -, plainBodyMade, same⟩ :=
    @field?_eq_ok (element.fitting false) _ _ _ isText plainMade
  obtain ⟨_, _, fittedBody, -, -, fittedBodyMade, same'⟩ :=
    @field?_eq_ok (element.fitting true) _ _ _ isText fittedMade
  cases same
  cases same'
  obtain ⟨orientation, wanted, height, data, rfl, rfl, measured, fitted⟩ :=
    exists_bodies plainBodyMade fittedBodyMade
  refine ⟨orientation, wanted, height, data, rfl, rfl, ?_⟩
  rcases exists_search fitted with
    ⟨none, rfl⟩ | ⟨present, boxWidth, boxHeight, least, low, positive, found⟩
  · exact ⟨iff_of_true le_rfl (Or.inl none), fun above => by omega, fun _ _ _ _ => le_rfl⟩
  · obtain ⟨shrinks, grows⟩ := Fit.fontHeight_le_iff positive found
    refine ⟨?_, ?_, ?_⟩
    · simp [shrinks, present, low]
    · intro above
      have below : wanted < least := by
        by_contra reaches
        have shrunk := shrinks.2 (Int.not_lt.1 reaches)
        omega
      rw [grows below, low]
    · intro density scale le visible
      exact shrinks.2 (leastDots_le density scale le measured visible low)

theorem fitted_le_plain_iff_two_trials_fail :
    let element : Element :=
      { Element.ofKind .text with
        x := .ofInt 1
        y := .ofInt 2
        width := some (.ofInt 10)
        height := some (.nearest false 3 2)
        rotation := .null
        textContent := some "Hi".toList
        fontSize := some (.ofInt 9) }
    let now : Moment := .midnight ⟨2026, 3, 15, by decide, by decide, by decide⟩
    let scene : Scene := ⟨[], ⟨0, 1, now⟩, 8, [], Settings.initial.render⟩
    let data := Payload.ofText "Hi".toList
    element.kind? = some .text ∧
      (element.fitting false).field? scene = .ok (some ⟨8, 16, .text .normal 12 data⟩) ∧
      (element.fitting true).field? scene = .ok (some ⟨8, 16, .text .normal 10 data⟩) ∧
      (∃ least, element.leastDots scene = .ok least ∧ least ≤ 12) ∧
      (10 : Int) ≤ 12 := by
  intro element now scene data
  have plainMade :
      (element.fitting false).field? scene = .ok (some ⟨8, 16, .text .normal 12 data⟩) := by
    simp only [element, scene, now, data]
    rfl
  have fittedMade :
      (element.fitting true).field? scene = .ok (some ⟨8, 16, .text .normal 10 data⟩) := by
    simp only [element, scene, now, data]
    rfl
  obtain ⟨orientation, wanted, height, content, plain, fitted, shrinks, -, -⟩ :=
    fitted_le_plain_iff rfl plainMade fittedMade
  cases plain
  cases fitted
  have low : element.leastDots scene = .ok 8 := by decide +kernel
  have smaller : (10 : Int) ≤ 12 := shrinks.2 (Or.inr ⟨8, low, by decide⟩)
  exact ⟨rfl, plainMade, fittedMade, ⟨8, low, by decide⟩, smaller⟩

/-- A text that fits its box is enlarged to a least size at which it does not fit any more. -/
theorem fitted_above_plain :
    let element : Element :=
      { Element.ofKind .text with
        x := .ofInt 1
        y := .ofInt 2
        width := some (.ofInt 10)
        height := some (.ofInt 1)
        rotation := .null
        textContent := some "Hi".toList
        fontSize := some (.ofInt 4) }
    let now : Moment := .midnight ⟨2026, 3, 15, by decide, by decide, by decide⟩
    let scene : Scene := ⟨[], ⟨0, 1, now⟩, 8, [], Settings.initial.render⟩
    let data := Payload.ofText "Hi".toList
    element.kind? = some .text ∧
      (Double.zero false).less scene.settings.pixelsPerMillimetre = true ∧
      (element.fitting false).field? scene = .ok (some ⟨8, 16, .text .normal 5 data⟩) ∧
      (element.fitting true).field? scene = .ok (some ⟨8, 16, .text .normal 8 data⟩) ∧
      Fit.fits "Hi".toList 80 8 5 = .ok true ∧ Fit.fits "Hi".toList 80 8 8 = .ok false ∧
      ¬ (8 : Int) ≤ 5 := by
  intro element now scene data
  refine ⟨rfl, by decide +kernel, ?_, ?_, by decide +kernel, by decide +kernel, by decide⟩
  · simp only [element, scene, now, data]
    rfl
  · simp only [element, scene, now, data]
    rfl

end Element
end LabelPress
