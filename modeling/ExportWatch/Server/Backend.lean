import ExportWatch.Server.Client
import ExportWatch.Watch.Backend

/-! A server as what a watch asks. Someone who interrupts the program for the first
time wants the polling to stop, and from then on to leave at once. -/

namespace ExportWatch

structure Connection (State : Type) where
  server : State
  interrupted : Bool

namespace Connection

def commands (interrupted : Bool) : Nat → List Command
  | 0 => []
  | others + 1 => (if interrupted then .quit else .cancel) :: commands true others

example : commands false 3 = [.cancel, .quit, .quit] := by decide

def reply {State α : Type} (client : Client) (transport : Transport State)
    (question : Question α) (connection : Connection State) : Reply α × Connection State :=
  let (learned, server) := client.ask transport question connection.server
  (⟨learned.outcome.mapError ClientFault.causes, learned.delay,
      commands connection.interrupted learned.interrupts⟩,
    ⟨server, connection.interrupted || learned.interrupts != 0⟩)

def backend {State : Type} (client : Client) (transport : Transport State) :
    Backend (Connection State) where
  latestRuns := fun job => reply client transport (client.latestRuns job)
  completedRuns := fun job => reply client transport (client.completedRuns job)
  rerun := fun job => reply client transport (client.rerun job)

end Connection

end ExportWatch
