import ExportWatch.Program.Fault
import ExportWatch.Program.Output

/-! What a command does: it asks the server, changes files and shows lines. All of
this stays done when the command fails afterwards. -/

namespace ExportWatch

open Json

structure Scene (State : Type) where
  server : State
  files : Files
  output : Output

abbrev Act (State α : Type) : Type :=
  ExceptT CommandFault (StateM (Scene State)) α

namespace Act

variable {State α ε : Type}

def perform (act : Act State α) (scene : Scene State) : Except CommandFault α × Scene State :=
  act.run.run scene

def settle (fault : ε → CommandFault) (outcome : Except ε α) : Act State α :=
  ExceptT.mk (pure (outcome.mapError fault))

def display (line : ResultLine) : Act State Unit :=
  modify fun scene => { scene with output := scene.output.addResult line }

def print (line : String) : Act State Unit :=
  display (.text line)

def printAll (lines : List String) : Act State Unit :=
  lines.forM print

def document (value : Value) : Act State Unit :=
  display (.document value)

def notify (line : String) : Act State Unit :=
  modify fun scene => { scene with output := scene.output.addNotice line }

def notifyAll (lines : List String) : Act State Unit :=
  lines.forM notify

/-- Interrupts count only while runs are followed. -/
def ask (client : Client) (transport : Transport State) (question : Question α) :
    Act State α := do
  let scene ← get
  let (learned, server) := client.ask transport question scene.server
  set { scene with server := server }
  settle .server learned.outcome

end Act

end ExportWatch
