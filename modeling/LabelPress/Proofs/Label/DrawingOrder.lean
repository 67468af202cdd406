import LabelPress.Proofs.Label.Frames
import Mathlib.Logic.Relation

/-!
# Drawing order

Which elements of a design show on its labels, and in which order.  An element is drawn if
it is visible and of a known kind.  Main statement: a label depends on its design only
through the size and the drawn elements of each layer, so elements that are not drawn may
come, go and change, and elements of different layers may change places.

Drawing order sorts by layers and keeps every layer as the design lists it, and a list
whose layers come one after the other is known once each of its layers is.
-/

namespace LabelPress
namespace Element

/-- The element is visible and of a known kind. -/
def isDrawn (element : Element) : Bool :=
  element.visible && element.kind?.isSome

/-- The elements of one layer. -/
def layer
    (z : Int)
    (elements : List Element) : List Element :=
  elements.filter fun element => element.zIndex = z

/-- The layers come one after the other. -/
def Layered (elements : List Element) : Prop :=
  elements.Pairwise fun first second => first.zIndex ≤ second.zIndex

theorem layer_cons
    (z : Int)
    (element : Element)
    (others : List Element) :
    layer z (element :: others) =
      if element.zIndex = z then element :: layer z others else layer z others := by
  simp [layer, List.filter_cons]

@[simp] theorem layer_append
    (z : Int)
    (front back : List Element) :
    layer z (front ++ back) = layer z front ++ layer z back :=
  List.filter_append ..

@[simp] theorem mem_layer
    {z : Int}
    {element : Element}
    {elements : List Element} :
    element ∈ layer z elements ↔ element ∈ elements ∧ element.zIndex = z := by
  simp [layer]

/-- Filtering a layer gives the layer of what is filtered. -/
theorem filter_layer
    (keep : Element → Bool)
    (z : Int)
    (elements : List Element) :
    (layer z elements).filter keep = layer z (elements.filter keep) :=
  List.filter_comm ..

/-! ## Lists by layers -/

section
variable {first element : Element} {elements others : List Element}

/-- No element is below the first one. -/
theorem Layered.zIndex_le
    (layered : Layered (first :: others))
    (member : element ∈ first :: others) :
    first.zIndex ≤ element.zIndex := by
  rcases List.mem_cons.1 member with rfl | behind
  · exact Int.le_refl _
  · exact List.rel_of_pairwise_cons layered behind

theorem mem_iff_of_layer_eq
    (same : ∀ z, layer z elements = layer z others) :
    element ∈ elements ↔ element ∈ others := by
  have here :
      element ∈ layer element.zIndex elements ↔ element ∈ layer element.zIndex others := by
    rw [same]
  simpa using here

/-- A list with its layers one after the other is known by its layers. -/
theorem eq_of_layer_eq
    (layered : Layered elements)
    (otherLayered : Layered others)
    (same : ∀ z, layer z elements = layer z others) :
    elements = others := by
  induction elements generalizing others with
  | nil =>
      symm
      rw [List.eq_nil_iff_forall_not_mem]
      intro element member
      exact List.not_mem_nil ((mem_iff_of_layer_eq same).2 member)
  | cons first behind inductionHypothesis =>
      have inOther : first ∈ others := (mem_iff_of_layer_eq same).1 List.mem_cons_self
      cases others with
      | nil => exact absurd inOther List.not_mem_nil
      | cons otherFirst otherBehind =>
          have inOwn : otherFirst ∈ first :: behind :=
            (mem_iff_of_layer_eq same).2 List.mem_cons_self
          -- Both lists start with the first element of their lowest layer.
          have sameLayer : otherFirst.zIndex = first.zIndex :=
            Int.le_antisymm (otherLayered.zIndex_le inOther) (layered.zIndex_le inOwn)
          have lowest := same first.zIndex
          rw [layer_cons, layer_cons, if_pos rfl, if_pos sameLayer, List.cons.injEq] at lowest
          obtain ⟨rfl, -⟩ := lowest
          have sameBehind (z : Int) : layer z behind = layer z otherBehind := by
            have here := same z
            rw [layer_cons, layer_cons] at here
            split at here
            · exact List.tail_eq_of_cons_eq here
            · exact here
          rw [inductionHypothesis layered.of_cons otherLayered.of_cons sameBehind]

end
end Element

namespace Design

variable {design other : Design} {scene : Scene}

open Element

/-! ## Drawing order -/

/-- The order of layers, as sorting takes it. -/
theorem layer_trans
    (first second third : Element)
    (lower : decide (first.zIndex ≤ second.zIndex) = true)
    (upper : decide (second.zIndex ≤ third.zIndex) = true) :
    decide (first.zIndex ≤ third.zIndex) = true :=
  decide_eq_true (Int.le_trans (of_decide_eq_true lower) (of_decide_eq_true upper))

theorem layer_total (first second : Element) :
    (decide (first.zIndex ≤ second.zIndex) ||
      decide (second.zIndex ≤ first.zIndex)) = true := by
  simpa using Int.le_total first.zIndex second.zIndex

theorem layered_drawingOrder (design : Design) :
    Layered design.drawingOrder :=
  (List.pairwise_mergeSort layer_trans layer_total design.elements).imp of_decide_eq_true

/-- Drawing order keeps the order of the design within a layer. -/
theorem layer_drawingOrder
    (design : Design)
    (z : Int) :
    layer z design.drawingOrder = layer z design.elements := by
  have level :
      (layer z design.elements).Pairwise fun first second =>
        decide (first.zIndex ≤ second.zIndex) = true := by
    apply List.pairwise_of_forall_mem_list
    intro first inLayer second alsoInLayer
    rw [(mem_layer.1 inLayer).2, (mem_layer.1 alsoInLayer).2]
    exact decide_eq_true (Int.le_refl z)
  have kept : (layer z design.elements).Sublist design.drawingOrder :=
    List.sublist_mergeSort layer_trans layer_total level List.filter_sublist
  have within := kept.filter fun element => element.zIndex = z
  rw [List.filter_eq_self.2 fun element member => by simpa using (mem_layer.1 member).2] at within
  have count : (layer z design.drawingOrder).length = (layer z design.elements).length :=
    ((List.mergeSort_perm design.elements _).filter _).length_eq
  exact (within.eq_of_length count.symm).symm

/-- The elements that are drawn, in the order of the design. -/
def drawnElements (design : Design) : List Element :=
  design.elements.filter isDrawn

theorem visibleElements_filter_known (design : Design) :
    (design.visibleElements.filter fun element => element.kind?.isSome) =
      design.drawingOrder.filter isDrawn := by
  rw [visibleElements, List.filter_filter]
  congr 1
  funext element
  exact Bool.and_comm ..

/-- Elements of unknown kinds leave no trace, not even a fault. -/
theorem fieldsOf_filter_known
    (scene : Scene)
    (elements : List Element) :
    fieldsOf scene (elements.filter fun element => element.kind?.isSome) =
      fieldsOf scene elements := by
  induction elements with
  | nil => rfl
  | cons element others inductionHypothesis =>
      cases known : element.kind? with
      | none =>
          rw [List.filter_cons_of_neg (by simp [known]), inductionHypothesis, fieldsOf,
            Element.field?, known]
          cases fieldsOf scene others <;> rfl
      | some kind =>
          rw [List.filter_cons_of_pos (by simp [known]), fieldsOf, fieldsOf, inductionHypothesis]

/-- The size and the drawn elements of each layer are the same. -/
structure SameDrawing (design other : Design) : Prop where
  width : design.width = other.width
  height : design.height = other.height
  layers : ∀ z, layer z design.drawnElements = layer z other.drawnElements

/-- The drawn elements in drawing order are known by those of each layer. -/
theorem SameDrawing.drawingOrder_filter_eq
    (same : design.SameDrawing other) :
    design.drawingOrder.filter isDrawn = other.drawingOrder.filter isDrawn := by
  apply eq_of_layer_eq
  · exact design.layered_drawingOrder.filter isDrawn
  · exact other.layered_drawingOrder.filter isDrawn
  · intro z
    rw [← filter_layer, ← filter_layer, layer_drawingOrder, layer_drawingOrder, filter_layer,
      filter_layer]
    exact same.layers z

theorem SameDrawing.program_eq
    (same : design.SameDrawing other)
    (scene : Scene) :
    design.program scene = other.program scene := by
  have fields : fieldsOf scene design.visibleElements = fieldsOf scene other.visibleElements := by
    rw [← fieldsOf_filter_known, visibleElements_filter_known, same.drawingOrder_filter_eq,
      ← visibleElements_filter_known, fieldsOf_filter_known]
  rw [program, program, same.width, same.height, fields]

theorem SameDrawing.render_eq
    (same : design.SameDrawing other)
    (settings : Settings)
    (clock : Moment)
    (row : Row)
    (options : Options) :
    design.render settings clock row options = other.render settings clock row options := by
  unfold render
  simp only [same.program_eq]

/-! ## Changes that do not show -/

/-- A change of a list of elements that no layer shows. -/
inductive Relisted : List Element → List Element → Prop where
  /-- Elements that are not drawn are replaced by any number of others. -/
  | hidden
      (front back : List Element)
      {old new : List Element}
      (undrawn : ∀ element ∈ old ++ new, element.isDrawn = false) :
      Relisted (front ++ old ++ back) (front ++ new ++ back)
  /-- Neighbours of different layers change places. -/
  | swap
      (front back : List Element)
      {first second : Element}
      (apart : first.zIndex ≠ second.zIndex) :
      Relisted (front ++ first :: second :: back) (front ++ second :: first :: back)

theorem Relisted.layer_filter_eq
    {elements others : List Element}
    (relisted : Relisted elements others)
    (z : Int) :
    layer z (elements.filter isDrawn) = layer z (others.filter isDrawn) := by
  rw [← filter_layer, ← filter_layer]
  cases relisted with
  | @hidden front back old new undrawn =>
      have nothing {part : List Element} (inside : part ⊆ old ++ new) :
          (layer z part).filter isDrawn = [] := by
        rw [List.filter_eq_nil_iff]
        intro element member
        simp [undrawn element (inside (mem_layer.1 member).1)]
      simp [nothing (List.subset_append_left old new), nothing (List.subset_append_right old new)]
  | @swap front back first second apart =>
      have same : layer z (first :: second :: back) = layer z (second :: first :: back) := by
        by_cases here : first.zIndex = z
        · have there : second.zIndex ≠ z := fun there => apart (here.trans there.symm)
          simp only [layer_cons, if_pos here, if_neg there]
        · simp only [layer_cons, if_neg here]
      rw [layer_append, layer_append, same]

theorem sameDrawing_of_relisted
    {elements : List Element}
    (changes : Relation.ReflTransGen Relisted design.elements elements) :
    design.SameDrawing { design with elements := elements } := by
  refine ⟨rfl, rfl, ?_⟩
  intro z
  change layer z (design.elements.filter isDrawn) = layer z (elements.filter isDrawn)
  induction changes with
  | refl => rfl
  | tail _ last inductionHypothesis => exact inductionHypothesis.trans (last.layer_filter_eq z)

/--
Designs of one size whose layers hold the same drawn elements in the same order have the
same labels, or fail alike.  So a label stays as it is when elements that are not drawn
come, go, move or change, and when elements of different layers change places.
-/
theorem render_eq_of_sameDrawing
    (design : Design)
    (settings : Settings)
    (clock : Moment)
    (row : Row)
    (options : Options) :
    (∀ other, design.SameDrawing other →
        other.render settings clock row options = design.render settings clock row options) ∧
      ∀ elements, Relation.ReflTransGen Relisted design.elements elements →
        { design with elements := elements }.render settings clock row options =
          design.render settings clock row options := by
  constructor
  · intro other same
    exact (same.render_eq settings clock row options).symm
  · intro elements changes
    exact ((sameDrawing_of_relisted changes).render_eq settings clock row options).symm

theorem render_eq_of_sameDrawing_moved_layers :
    let upper : Element :=
      { Element.ofKind .text with
        x := .ofInt 1
        y := .ofInt 2
        rotation := .null
        textContent := some ['x']
        fontSize := some (.ofInt 12)
        zIndex := 5 }
    let lower : Element :=
      { Element.ofKind .rectangle with
        x := .ofInt 3
        y := .ofInt 4
        borderWidth := some (.ofInt 1)
        zIndex := -1 }
    let hidden : Element := { Element.ofKind .circle with visible := false, x := .nan }
    let unknown : Element :=
      { Element.ofKind .line with type := "hologram".toList, x := .infinite false }
    let design : Design := ⟨none, .ofInt 50, .ofInt 30, [upper, hidden, lower]⟩
    let other : Design := ⟨some ['n'], .ofInt 50, .ofInt 30, [lower, unknown, upper]⟩
    let now : Moment := .midnight ⟨2026, 3, 15, by decide, by decide, by decide⟩
    design.SameDrawing other ∧
      Relation.ReflTransGen Relisted design.elements other.elements ∧
      other.render .initial now [] (.ofResolution 203) =
        .ok "^XA\n^PW400\n^LL240\n^FO24,32^GB80,80,8^FS\n^FO8,16^A0N,16,16^FDx^FS\n^XZ".toList ∧
      other.render .initial now [] (.ofResolution 203) =
        design.render .initial now [] (.ofResolution 203) ∧
      { design with elements := other.elements }.render .initial now [] (.ofResolution 203) =
        design.render .initial now [] (.ofResolution 203) := by
  intro upper lower hidden unknown design other now
  have changes : Relation.ReflTransGen Relisted design.elements other.elements := by
    have apart : upper.zIndex ≠ lower.zIndex := by decide
    refine .head (@Relisted.hidden [upper] [lower] [hidden] [] ?_) ?_
    · decide
    · refine .head (Relisted.swap [] [] apart) ?_
      refine .single (@Relisted.hidden [lower] [upper] [] [unknown] ?_)
      decide
  have same : design.SameDrawing other := ⟨rfl, rfl, (sameDrawing_of_relisted changes).layers⟩
  have sorted : other.visibleElements = [lower, unknown, upper] := by
    rw [visibleElements, drawingOrder, List.mergeSort_of_pairwise (by decide)]
    rfl
  have equal := render_eq_of_sameDrawing design .initial now [] (.ofResolution 203)
  refine ⟨same, changes, ?_, equal.1 other same, equal.2 other.elements changes⟩
  unfold render program
  rw [sorted]
  simp only [other, lower, unknown, upper, now]
  rfl

end Design
end LabelPress
