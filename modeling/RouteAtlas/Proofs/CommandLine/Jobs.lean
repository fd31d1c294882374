import Mathlib
import RouteAtlas.CommandLine.Perform

/-
  What jobs do on a disk.

  A job is run step by step: what a part of it answers goes
  to the rest, on the disk that the part left.

  Main statements:
    * `on_bind`
    * `disk_said`
    * `on_workspace`
-/

------------------------------------------------------------
-- Jobs
------------------------------------------------------------

namespace RouteAtlas

namespace Job

variable {α β : Type}

/- What a job does on a disk. -/
def on
    (job : Job α)
    (disk : Disk) :
    Except Halt α × Disk :=
  StateT.run (ExceptT.run job) disk

theorem on_bind
    {job : Job α}
    {a : α}
    {disk changed : Disk}
    (hJob : on job disk = (.ok a, changed))
    (next : α → Job β) :
    on (job >>= next) disk = on (next a) changed := by
  unfold on at hJob ⊢
  rw [ExceptT.run_bind, StateT.run_bind, hJob]
  rfl

theorem on_get
    (disk : Disk) :
    on get disk = (.ok disk, disk) := by
  rfl

theorem on_set
    (disk changed : Disk) :
    on (set changed) disk = (.ok ⟨⟩, changed) := by
  rfl

theorem on_attempt
    (a : α)
    (disk : Disk) :
    on (attempt (.ok a)) disk = (.ok a, disk) := by
  rfl

/- Printing does not change the disk. -/
theorem disk_said
    (message : Text)
    (disk : Disk) :
    (on (said message) disk).2 = disk := by
  unfold said done finish
  cases Terminal.lines message with
  | error cause => rfl
  | ok lines => rfl

end Job

namespace Command

/- A directory is found as the workspace that it is. -/
theorem on_workspace
    {disk : Disk}
    {t : Text}
    {path : Path}
    (hPlace : disk.canonical (.ofText t) = .ok path)
    (hDirectory : disk.isDirectory path = .ok true) :
    Job.on (workspace t) disk =
      (.ok path, disk) := by
  unfold workspace Command.place
  rw [Job.on_bind (Job.on_get disk), hPlace,
    Job.on_bind (Job.on_attempt path disk), hDirectory,
    Job.on_bind (Job.on_attempt true disk)]
  rfl

end Command

end RouteAtlas
