import ExportWatch.Causes
import ExportWatch.Watch.Event

/-! What a watch asks of the server, and what may happen meanwhile. -/

namespace ExportWatch

/-- Someone may ask a watch to stop polling or to leave at once, or may go away,
so that nothing more can be asked. -/
inductive Command where
  | cancel
  | quit
  | close
  deriving DecidableEq, Repr

/-- The reply to a call, the time it takes, and the commands sent in that time. -/
structure Reply (α : Type) where
  outcome : Except Causes α
  delay : Span
  commands : List Command

/-- A backend answers calls about a job and may change its state with each. -/
structure Backend (State : Type) where
  latestRuns : String → State → Reply (List Run) × State
  completedRuns : String → State → Reply (List Run) × State
  rerun : String → State → Reply Run × State

/-- A backend that answers from a script. Once a list of replies is used up, the
reply is an empty list of runs. -/
structure Script where
  latest : List (Reply (List Run))
  completed : List (Reply (List Run))
  rerun : Reply Run

namespace Script

def takeReply : List (Reply (List Run)) → Reply (List Run) × List (Reply (List Run))
  | [] => (⟨.ok [], ⟨0⟩, []⟩, [])
  | head :: tail => (head, tail)

def backend : Backend Script where
  latestRuns := fun _ script =>
    let (reply, rest) := takeReply script.latest
    (reply, { script with latest := rest })
  completedRuns := fun _ script =>
    let (reply, rest) := takeReply script.completed
    (reply, { script with completed := rest })
  rerun := fun _ script => (script.rerun, script)

end Script

end ExportWatch
