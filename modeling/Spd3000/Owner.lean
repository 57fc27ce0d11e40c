/-
  The single worker that owns the physical connection of a gateway
  (`_Work` and `_PhysicalOwner` of `gateway/server.py`), as far as one worker
  thread sees it: waiting for the interval between two works, handing the
  settings to the executor, executing the batch, and the bookkeeping after it.
-/
import Spd3000.Execution

namespace Spd3000

variable {σ : Type}

/-- What a handler thread submits: a batch and the settings of its session. -/
structure Work where
  batch : CommandBatch
  settings : ExecutionSettings

/-- The fields of `_PhysicalOwner` that its worker thread uses. -/
structure PhysicalOwner (σ : Type) where
  executor : DirectExecutor σ
  previousInterval : Option ℚ
  lastCompletedAt : Option ℚ

namespace PhysicalOwner
variable [PyText] (W : World σ)

/-- The wait of `_run` before a work with the given settings. -/
def waitForInterval (settings : ExecutionSettings) (o : PhysicalOwner σ) : PhysicalOwner σ :=
  match o.previousInterval, o.lastCompletedAt with
  | some previous, some t =>
    let required := max previous settings.minCommandInterval
    let (now, s) := W.clock o.executor.world
    let remaining := required - (now - t)
    { o with executor := { o.executor with
        world := if 0 < remaining then W.sleeper remaining s else s } }
  | _, _ => o

/-- What `_run` does from `queue.get()` up to the call of the executor. -/
def prepare (settings : ExecutionSettings) (o : PhysicalOwner σ) : PhysicalOwner σ :=
  let o := { o with executor := { o.executor with world := W.idle o.executor.world } }
  let o := waitForInterval W settings o
  { o with executor := { o.executor with settings := settings } }

/-- The `finally` clause of `_run`. -/
def finish (settings : ExecutionSettings) (o : PhysicalOwner σ) : PhysicalOwner σ :=
  let (now, s) := W.clock o.executor.world
  { executor := { o.executor with world := s }
    previousInterval := some settings.minCommandInterval
    lastCompletedAt := some now }

/-- One turn of the loop of `_run`: the outcome stored in the work, and the owner
    after it. -/
def runWork (w : Work) (o : PhysicalOwner σ) : Except PyExc BatchResult × PhysicalOwner σ :=
  let o := prepare W w.settings o
  let (r, x) := o.executor.execute W w.batch
  (r, finish W w.settings { o with executor := x })

end PhysicalOwner

end Spd3000
