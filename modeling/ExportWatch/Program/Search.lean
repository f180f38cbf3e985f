import ExportWatch.Job.Page
import ExportWatch.Program.Act

/-! Searching jobs, page after page. -/

namespace ExportWatch

open Json

namespace Act

variable {State : Type}

def showJobs (json : Bool) (jobs : List Job) : Act State Unit :=
  if json then document (Job.encodeAll jobs) else printAll (jobs.map (·.line))

def showPage (json : Bool) (page : JobPage) : Act State Unit := do
  showJobs json page.jobs
  notifyAll ((page.range.bind PageRange.describe?).map String.ofList).toList

/-- After `more` further pages, only the address of the next one is shown. -/
def showPages (json : Bool) (client : Client) (transport : Transport State) :
    Nat → JobPage → Act State Unit
  | more, page => do
      showPage json page
      match page.next, more with
      | none, _ => pure ()
      | some next, 0 => notify ("More results: " ++ next.text)
      | some next, more + 1 =>
          showPages json client transport more (← ask client transport (Client.jobsPage next))

def searchJobs (json : Bool) (client : Client) (transport : Transport State) (query : JobQuery)
    (pages : Nat) : Act State Unit := do
  showPages json client transport (pages - 1) (← ask client transport (client.jobs query))

end Act

end ExportWatch
