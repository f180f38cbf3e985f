import ExportWatch.Proofs.Program.Act
import ExportWatch.Proofs.Watch.Completion

/-! Following the runs of a job. What is shown leaves the files alone, but for the completed runs,
which are processed. -/

namespace ExportWatch

variable {State : Type}

namespace Following

/-- The files once reported runs are processed. -/
def process (following : Following) (files : Files) (reported : String × List Run) : Files :=
  (processCompleted following.store following.exportPath reported.1 reported.2 files).1

def change (following : Following) (files : Files) (event : WatchEvent) : Files :=
  ((Occurrence.event event).completed?.map (following.process files)).getD files

theorem foldl_change (following : Following) (events : List WatchEvent) (files : Files) :
    events.foldl following.change files =
      (events.filterMap fun event => (Occurrence.event event).completed?).foldl following.process
        files := by
  rw [List.foldl_filterMap]
  congr 1
  funext files event
  rw [change]
  cases (Occurrence.event event).completed? <;> rfl

end Following

/-- The completed runs in the events of a watch are those on its record. -/
theorem Watch.filterMap_events (watch : Watch State) :
    (watch.events.map Prod.snd).filterMap (fun event => (Occurrence.event event).completed?) =
      watch.trace.filterMap Occurrence.completed? := by
  rw [events, trace, List.filterMap_map, List.filterMap_map, List.filterMap_filterMap]
  congr 1
  funext entry
  rcases entry with ⟨moment, occurrence⟩
  cases occurrence <;> rfl

namespace Act

variable {surroundings : Surroundings State} {client : Client} {kickoff : Watch.Kickoff}
  {scene : Scene State}

/-! Showing. -/

theorem changes_keepCompleted (following : Following) (job : String) (runs : List Run) :
    Changes (keepCompleted following job runs : Act State Unit)
      fun files => following.process files (job, runs) := by
  intro scene
  refine (yields_get scene).bind fun _ => ?_
  refine (yields_set _ _).bind fun _ => ?_
  exact shows_notifyAll _ _

theorem changes_noticeEvent (following : Following) (event : WatchEvent) :
    Changes (noticeEvent following event : Act State Unit)
      fun files => following.change files event := by
  cases event with
  | started job => exact shows_notify _
  | runUpdated run => exact shows_pure
  | fetchFailed message => exact shows_notify _
  | stopped job reason => exact shows_notify _
  | completedRuns job runs => exact changes_keepCompleted following job runs
  | notice contents => exact shows_notify _

theorem shows_showEventText (following : Following) (event : WatchEvent) :
    Shows (showEventText following event : Act State Unit) := by
  cases event with
  | runUpdated run => exact shows_printAll _
  | completedRuns job runs => exact shows_printAll _
  | _ => exact shows_pure

theorem changes_showEvent (following : Following) (event : WatchEvent) :
    Changes (showEvent following event : Act State Unit)
      fun files => following.change files event := by
  have noticed : Changes (noticeEvent following event : Act State Unit)
      fun files => following.change files event := changes_noticeEvent following event
  rw [showEvent]
  cases following.json with
  | true => exact (shows_document _).bind noticed
  | false => exact (shows_showEventText following event).bind noticed

theorem shows_showRuns (json : Bool) (view : View) (runs : List Run) :
    Shows (showRuns json view runs : Act State Unit) := by
  rw [showRuns]
  cases json with
  | true => exact shows_document _
  | false =>
      cases runs.isEmpty with
      | true => exact (shows_notify _).bind (shows_printAll _)
      | false => exact shows_printAll _

/-! Following. -/

/-- What a command gives whose watch comes to an end, or does not. -/
def given (course : Except CommandFault (Watch.Ending (Connection State))) :
    Except CommandFault ExitCode :=
  course.bind fun ending => (ending.outcome.map exitCode).mapError .watch

/-- The completed runs that a watch has reported at its end. -/
def reported (course : Except CommandFault (Watch.Ending (Connection State))) :
    List (String × List Run) :=
  match course with
  | .error _ => []
  | .ok ending => ending.watch.trace.filterMap Occurrence.completed?

theorem leaves_follow (following : Following)
    {course : Except CommandFault (Watch.Ending (Connection State))}
    (watched : surroundings.watch client following.timing following.job kickoff scene.server =
      course) :
    Leaves (follow surroundings client following kickoff) scene (given course)
      ((reported course).foldl following.process scene.files) := by
  refine (yields_get scene).bind_leaves fun _ => ?_
  rw [watched]
  cases course with
  | error fault => exact ((yields_settle _ _ _).bind_error _).leaves
  | ok ending =>
      rw [reported, ← Watch.filterMap_events, ← following.foldl_change]
      refine (yields_settle _ _ _).bind_leaves fun _ => ?_
      refine (yields_set _ _).bind_leaves fun _ => ?_
      refine (changes_forM (changes_showEvent following) _ _).bind_leaves fun _ => ?_
      exact (yields_settle _ _ _).leaves

theorem yields_storeToSaveIn (surroundings : Surroundings State) (config : Config)
    (scene : Scene State) :
    Yields (storeToSaveIn surroundings config) scene
      (.ok (if config.autoSave then surroundings.store? else none)) scene.server scene.files := by
  rw [storeToSaveIn]
  cases config.autoSave with
  | true =>
      cases surroundings.store? with
      | some store => exact yields_pure _ _
      | none => exact (shows_notify _ _).bind fun _ => yields_pure _ _
  | false => exact yields_pure _ _

theorem yields_showLatest (surroundings : Surroundings State) (invocation : Invocation)
    (client : Client) (job : String) (view : View) (scene : Scene State) :
    let (learned, asked) :=
      client.ask surroundings.transport (client.latestRuns job) scene.server
    Yields (showLatest surroundings invocation client job view) scene
      (learned.outcome.mapError .server) asked scene.files := by
  have asking := yields_ask client surroundings.transport (client.latestRuns job) scene
  generalize client.ask surroundings.transport (client.latestRuns job) scene.server = answer
    at asking ⊢
  rcases answer with ⟨⟨outcome, delay, interrupts⟩, asked⟩
  cases outcome with
  | error fault => exact asking.bind_error _
  | ok runs =>
      refine asking.bind fun _ => ?_
      refine (shows_showRuns _ _ _ _).bind fun _ => ?_
      exact yields_pure _ _

end Act

end ExportWatch
