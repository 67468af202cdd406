import LabelPress.Label.Render

/-!
# Batches with workers

A batch as a whole: a line of the log, which needs the resolution as a text, and the labels,
which several workers may share out.
-/

namespace LabelPress

/-- A label to be rendered: a row and the options of its place. -/
abbrev Job := Row × Options

/-- Workers that render several labels at the same time. -/
class Pool where
  /-- The results of jobs that run at the same time. -/
  map : (Job → Except RenderFault Text) → List Job → Except RenderFault (List Text)

/-- A single worker, which takes one job after the other. -/
instance : Pool :=
  ⟨fun render jobs => jobs.mapM render⟩

/-- The results are in the order of the jobs, up to the first one that fails. -/
def Pool.KeepsOrder [Pool] : Prop :=
  ∀ render jobs, Pool.map render jobs = jobs.mapM render

namespace Design

/-- The jobs of a batch. -/
def jobs
    (rows : List Row)
    (options : Options) : List Job :=
  rows.mapIdx fun place row => (row, options.forRow place (max rows.length 1 : Nat))

/-- Run jobs with as many workers as the settings allow, but no more than there are jobs. -/
def runJobs
    [Pool]
    (settings : Settings)
    (render : Job → Except RenderFault Text)
    (jobs : List Job) : Except RenderFault (List Text) :=
  if 1 < min settings.batch.maxWorkers (max jobs.length 1 : Nat) then
    Pool.map render jobs
  else
    jobs.mapM render

/-- The text of a batch, behind the line of the log about it. -/
def runBatch
    [Pool]
    (design : Design)
    (settings : Settings)
    (clock : Moment)
    (rows : List Row)
    (options : Options) : Except RenderFault Text := do
  let _ ← (Numeral.write options.dpi).mapError .numeric
  let labels ←
    runJobs settings (fun job => design.render settings clock job.1 job.2)
      (jobs rows (options.atMoment clock))
  return Text.join ['\n'] labels

end Design
end LabelPress
