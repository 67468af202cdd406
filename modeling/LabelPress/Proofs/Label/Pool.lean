import LabelPress.Label.Pool
import LabelPress.Proofs.Outcome

/-!
# Batches with workers

Sharing out the labels of a batch does not show.  Main statement: with workers whose results
come in order, a batch is its labels one after the other, once the resolution can be written
to the log.
-/

namespace LabelPress
namespace Design

variable {design : Design} {settings : Settings} {clock : Moment} {options : Options}

/-- Rendering rows one after the other runs their jobs in order. -/
theorem renderFrom_eq_mapM
    (batchSize first : Nat)
    (rows : List Row) :
    renderFrom design settings clock options batchSize first rows =
      (rows.mapIdx fun place row => (row, options.forRow (first + place : Nat) batchSize)).mapM
        fun job => design.render settings clock job.1 job.2 := by
  induction rows generalizing first with
  | nil => rfl
  | cons row rows inductionHypothesis =>
      have shift (place : Nat) : first + 1 + place = first + (place + 1) := by omega
      rw [renderFrom, inductionHypothesis, List.mapIdx_cons, List.mapM_cons]
      simp only [shift]
      rfl

variable [Pool]

theorem runJobs_eq_mapM
    (ordered : Pool.KeepsOrder)
    (render : Job → Except RenderFault Text)
    (jobs : List Job) :
    runJobs settings render jobs = jobs.mapM render := by
  unfold runJobs
  split
  · exact ordered render jobs
  · rfl

/-- Behind the line of the log, a batch with workers is the batch in order. -/
theorem runBatch_eq_bind
    (ordered : Pool.KeepsOrder)
    (rows : List Row) :
    design.runBatch settings clock rows options =
      (do
        let _ ← (Numeral.write options.dpi).mapError .numeric
        design.renderBatch settings clock rows options) := by
  unfold runBatch renderBatch
  rw [runJobs_eq_mapM ordered, renderFrom_eq_mapM]
  simp only [Nat.zero_add]
  rfl

theorem runBatch_eq_ok
    (ordered : Pool.KeepsOrder)
    {rows : List Row}
    {text : Text} :
    design.runBatch settings clock rows options = .ok text ↔
      Succeeds (Numeral.write options.dpi) ∧
        design.renderBatch settings clock rows options = .ok text := by
  rw [runBatch_eq_bind ordered, bind_eq_ok]
  simp only [mapError_eq_ok, Succeeds, exists_and_right]

theorem succeeds_runBatch
    (ordered : Pool.KeepsOrder)
    {rows : List Row} :
    Succeeds (design.runBatch settings clock rows options) ↔
      Succeeds (Numeral.write options.dpi) ∧
        Succeeds (design.renderBatch settings clock rows options) := by
  simp only [Succeeds, runBatch_eq_ok ordered, exists_and_left]

end Design
end LabelPress
