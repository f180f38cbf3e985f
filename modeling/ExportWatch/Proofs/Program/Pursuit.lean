import ExportWatch.Proofs.Outcome
import ExportWatch.Proofs.Program.Following
import ExportWatch.Proofs.Watch.Interrupts

/-! The commands that follow the runs of a job. They find out what there is to follow, and go on as
the watch does. -/

namespace ExportWatch

variable {State : Type}

/-- The ways in which a command follows the runs of a job. -/
inductive Pursuit where
  | watch
  | list
  | rerun
  deriving DecidableEq, Repr

/-- A watch that has ended, and how it began. -/
structure Pursued (State : Type) where
  client : Client
  kickoff : Watch.Kickoff
  server : State
  ending : Watch.Ending (Connection State)

namespace Pursuit

def request (job : String) : Pursuit → Request
  | watch => .watch job
  | list => .runs job true
  | rerun => .rerun job true

def view : Pursuit → View
  | list => .list
  | _ => .detail

def interval (config : Config) : Pursuit → Span
  | list => config.listInterval
  | _ => config.pollInterval

/-- What a watch begins with, and the server by then. -/
def begin (surroundings : Surroundings State) (client : Client) (job : String) (server : State) :
    Pursuit → Except ClientFault Watch.Kickoff × State
  | rerun => (.ok .rerun, server)
  | _ =>
      let (learned, asked) := client.ask surroundings.transport (client.latestRuns job) server
      (learned.outcome.map .observe, asked)

/-- The watch of a command, without the rest of it. -/
def pursue (pursuit : Pursuit) (surroundings : Surroundings State) (config : Config)
    (job : String) (server : State) : Except CommandFault (Pursued State) :=
  match Client.connect config.baseUrl config.token config.userAgent with
  | .error fault => .error (.server fault)
  | .ok client =>
      match pursuit.begin surroundings client job server with
      | (.error fault, _) => .error (.server fault)
      | (.ok kickoff, begun) =>
          (surroundings.watch client ⟨pursuit.interval config, config.startupDelay⟩ job kickoff
            begun).map fun ending => ⟨client, kickoff, begun, ending⟩

end Pursuit

namespace Act

variable {surroundings : Surroundings State} {client : Client} {kickoff : Watch.Kickoff}
  {scene : Scene State}

/-- The part of a command that comes before its watch. -/
def lookUp (surroundings : Surroundings State) (invocation : Invocation) (client : Client)
    (job : String) : Pursuit → Act State Watch.Kickoff
  | .rerun => pure .rerun
  | pursuit => .observe <$> showLatest surroundings invocation client job pursuit.view

theorem act_request (pursuit : Pursuit) (surroundings : Surroundings State)
    (invocation : Invocation) {job : String} (asked : invocation.request = pursuit.request job) :
    invocation.act surroundings = (do
      let client ← connect invocation.config
      let kickoff ← lookUp surroundings invocation client job pursuit
      followJob surroundings invocation client job (pursuit.interval invocation.config) pursuit.view
        kickoff) := by
  rw [Invocation.act, asked]
  cases pursuit with
  | watch =>
      simp only [lookUp, bind_map_left]
      rfl
  | list =>
      simp only [lookUp, bind_map_left]
      rfl
  | rerun =>
      simp only [lookUp, pure_bind]
      rfl

theorem yields_lookUp (surroundings : Surroundings State) (invocation : Invocation)
    (client : Client) (job : String) (pursuit : Pursuit) (scene : Scene State) :
    let (outcome, begun) := pursuit.begin surroundings client job scene.server
    Yields (lookUp surroundings invocation client job pursuit) scene (outcome.mapError .server)
      begun scene.files := by
  have latest (view : View) :=
    (yields_showLatest surroundings invocation client job view scene).map Watch.Kickoff.observe
  simp only [mapError_map] at latest
  cases pursuit with
  | watch => exact latest _
  | list => exact latest _
  | rerun => exact yields_pure _ _

/-- How a pursuit is followed. -/
def following (pursuit : Pursuit) (surroundings : Surroundings State) (invocation : Invocation)
    (job : String) : Following where
  job := job
  timing := ⟨pursuit.interval invocation.config, invocation.config.startupDelay⟩
  view := pursuit.view
  json := invocation.json
  store := if invocation.config.autoSave then surroundings.store? else none
  exportPath := invocation.config.exportPath

theorem leaves_followJob (pursuit : Pursuit) (invocation : Invocation) {job : String}
    {course : Except CommandFault (Watch.Ending (Connection State))}
    (watched : surroundings.watch client
      ⟨pursuit.interval invocation.config, invocation.config.startupDelay⟩ job kickoff
      scene.server = course) :
    Leaves (followJob surroundings invocation client job (pursuit.interval invocation.config)
        pursuit.view kickoff) scene (given course)
      ((reported course).foldl (following pursuit surroundings invocation job).process
        scene.files) := by
  refine (yields_storeToSaveIn surroundings invocation.config scene).bind_leaves fun _ => ?_
  exact leaves_follow (following pursuit surroundings invocation job) watched

theorem leaves_request (surroundings : Surroundings State) (scene : Scene State) {pursuit : Pursuit}
    {invocation : Invocation} {job : String} (asked : invocation.request = pursuit.request job) :
    let course := (pursuit.pursue surroundings invocation.config job scene.server).map (·.ending)
    Leaves (invocation.act surroundings) scene (given course)
      ((reported course).foldl (following pursuit surroundings invocation job).process
        scene.files) := by
  have connecting := yields_connect invocation.config scene
  rw [act_request pursuit surroundings invocation asked, Pursuit.pursue]
  generalize Client.connect invocation.config.baseUrl invocation.config.token
    invocation.config.userAgent = connected at connecting ⊢
  cases connected with
  | error fault => exact (connecting.bind_error _).leaves
  | ok client =>
      refine connecting.bind_leaves fun output => ?_
      have looking := yields_lookUp surroundings invocation client job pursuit
        ⟨scene.server, scene.files, output⟩
      dsimp only at looking ⊢
      generalize pursuit.begin surroundings client job scene.server = found at looking ⊢
      rcases found with ⟨_ | kickoff, begun⟩
      · exact (looking.bind_error _).leaves
      · refine looking.bind_leaves fun _ => ?_
        apply leaves_followJob
        dsimp only
        cases surroundings.watch client _ job kickoff begun <;> rfl

end Act

/-! Exit codes. -/

theorem exitCode_eq_one_iff {stopped : Option StopReason} :
    exitCode stopped = 1 ↔ stopped = some (.terminal .failed) := by
  fun_cases exitCode stopped with
  | case1 => simp
  | case2 => simp
  | case3 _ notFailed _ => simpa using notFailed

theorem exitCode_eq_cancelled_iff {stopped : Option StopReason} :
    exitCode stopped = 130 ↔ stopped = some .cancelled := by
  fun_cases exitCode stopped with
  | case1 => simp
  | case2 => simp
  | case3 _ _ notCancelled => simpa using notCancelled

theorem exitCode_cases (stopped : Option StopReason) :
    exitCode stopped = 0 ∨ exitCode stopped = 1 ∨ exitCode stopped = 130 := by
  fun_cases exitCode stopped <;> simp

theorem Act.given_eq_ok_iff {ending : Watch.Ending (Connection State)} {code : ExitCode} :
    given (.ok ending) = .ok code ↔
      ∃ stopped, ending.outcome = .ok stopped ∧ exitCode stopped = code := by
  rw [given]
  cases outcome : ending.outcome <;> simp [Except.bind, Except.map, Except.mapError, outcome]

/-- What the server says in a pursuit. -/
def Pursued.replies (pursued : Pursued State) (transport : Transport State) (job : String) :
    Replies :=
  (Connection.backend pursued.client transport).replies job pursued.kickoff ⟨pursued.server, false⟩

theorem Pursuit.begun_of_pursue {pursuit : Pursuit} {surroundings : Surroundings State}
    {config : Config} {job : String} {server : State} {pursued : Pursued State}
    (course : pursuit.pursue surroundings config job server = .ok pursued) :
    Client.connect config.baseUrl config.token config.userAgent = .ok pursued.client ∧
      pursuit.begin surroundings pursued.client job server =
        (.ok pursued.kickoff, pursued.server) := by
  unfold pursue at course
  split at course
  · cases course
  next connected =>
    split at course
    · cases course
    next found =>
      rcases map_eq_ok_iff.mp course with ⟨ending, -, rfl⟩
      exact ⟨connected, found⟩

theorem Pursuit.watched_of_pursue {pursuit : Pursuit} {surroundings : Surroundings State}
    {config : Config} {job : String} {server : State} {pursued : Pursued State}
    (course : pursuit.pursue surroundings config job server = .ok pursued) :
    surroundings.watch pursued.client ⟨pursuit.interval config, config.startupDelay⟩ job
      pursued.kickoff pursued.server = .ok pursued.ending := by
  unfold pursue at course
  split at course
  · cases course
  · split at course
    · cases course
    · rcases map_eq_ok_iff.mp course with ⟨ending, watched, rfl⟩
      exact watched

/-- The commands that follow the runs of a job, whatever the server answers and however often they
are interrupted. Files change only as the completed runs are processed, once, and only when the
polling ended with a finished run or with no runs and the completed runs were there. The exit code
tells how the polling ended. -/
theorem completed_runs_processed_once (pursuit : Pursuit) (surroundings : Surroundings State)
    (config : Config) (json : Bool) (job : String) (server : State) (files : Files) :
    let invocation : Invocation := ⟨pursuit.request job, json, config⟩
    let performed := invocation.perform surroundings server files
    let course := pursuit.pursue surroundings config job server
    (∀ fault, course = .error fault → performed.1 = .error fault ∧ performed.2.files = files) ∧
      ∀ pursued, course = .ok pursued →
        let outcome := pursued.ending.outcome
        let replies := pursued.replies surroundings.transport job
        let reloaded := pursued.ending.reloaded? replies job
        performed.1 = (outcome.map exitCode).mapError .watch ∧
          (performed.1 = .ok 1 ↔ outcome = .ok (some (.terminal .failed))) ∧
          (performed.1 = .ok 130 ↔ outcome = .ok (some .cancelled)) ∧
          (∀ code, performed.1 = .ok code → code = 0 ∨ code = 1 ∨ code = 130) ∧
          (∀ status, outcome = .ok (some (.terminal status)) → ∃ newest others,
            replies.latest (pursued.ending.asked job - 1) = .ok (newest :: others) ∧
              newest.status = status) ∧
          (outcome = .ok none → ∃ runs, pursued.kickoff = .observe runs ∧
            runs.head?.all (·.isTerminal) = true) ∧
          pursued.ending.watch.trace.filterMap Occurrence.completed? =
            (reloaded.map (job, ·)).toList ∧
          performed.2.files = reloaded.elim files fun runs =>
            (processCompleted (if config.autoSave then surroundings.store? else none)
              config.exportPath job runs files).1 := by
  intro invocation performed course
  have asked : invocation.request = pursuit.request job := rfl
  rcases Act.leaves_request surroundings ⟨server, files, .empty⟩ asked with ⟨left, output, whole⟩
  have given : performed.1 = Act.given (course.map (·.ending)) := congrArg Prod.fst whole
  have processed : performed.2.files = (Act.reported (course.map (·.ending))).foldl
      (Act.following pursuit surroundings invocation job).process files :=
    congrArg (fun result => result.2.files) whole
  constructor
  · intro fault failed
    rw [failed] at given processed
    exact ⟨given, processed⟩
  · intro pursued ended outcome replies reloaded
    have watched := Pursuit.watched_of_pursue ended
    have finished := congrArg Watch.Stage.ending? (Surroundings.finished_of_watch watched)
    have shows : pursued.ending.Shows replies job := Watch.Ending.shows_of_followed finished
    rw [ended] at given processed
    have code (code : ExitCode) : performed.1 = .ok code ↔
        ∃ stopped, outcome = .ok stopped ∧ exitCode stopped = code :=
      given ▸ Act.given_eq_ok_iff
    refine ⟨given, ?_, ?_, ?_, shows.newest, Surroundings.idle_of_watch watched,
      shows.completed, ?_⟩
    · simp only [code, exitCode_eq_one_iff, exists_eq_right]
    · simp only [code, exitCode_eq_cancelled_iff, exists_eq_right]
    · intro number isNumber
      rcases (code number).mp isNumber with ⟨stopped, -, rfl⟩
      exact exitCode_cases stopped
    · have reported : Act.reported ((Except.ok pursued).map (·.ending)) =
          (reloaded.map (job, ·)).toList := shows.completed
      rw [processed, reported]
      cases reloaded <;> rfl

/-- A new run fails, and the program is interrupted twice before that is known. -/
theorem completed_runs_processed_once_of_failed :
    let run (uid : String) (status : RunStatus) : Run := ⟨uid, status, none, none, none, []⟩
    let answer (body : String) (interrupts : Nat) : Exchange :=
      ⟨some ⟨⟨200⟩, [], body⟩, ⟨0⟩, interrupts⟩
    let server : ScriptedServer :=
      ⟨[answer "\x7b\"uid\":\"2\",\"status\":\"SUBMITTED\"\x7d" 0,
        answer "[\x7b\"uid\":\"2\",\"status\":\"FAILED\"\x7d]" 2,
        answer "[\x7b\"uid\":\"1\",\"status\":\"COMPLETED\"\x7d]" 0], []⟩
    let surroundings : Surroundings ScriptedServer :=
      ⟨ScriptedServer.transport, some ⟨"/data"⟩, 2, [], fun _ => false⟩
    let config : Config :=
      ⟨"http://exports.test", none, "test", ⟨0⟩, ⟨0⟩, ⟨0⟩, ⟨0⟩, true, none⟩
    let invocation : Invocation := ⟨Pursuit.rerun.request "job", false, config⟩
    let performed := invocation.perform surroundings server (.empty [])
    performed.1 = .ok 1 ∧ performed.2.files =
      (processCompleted surroundings.store? none "job" [run "1" .completed] (.empty [])).1 := by
  intro run answer server surroundings config invocation performed
  have processed := completed_runs_processed_once .rerun surroundings config false "job" server
    (.empty [])
  have shown : ((Pursuit.rerun.pursue surroundings config "job" server).map fun pursued =>
      (pursued.ending.outcome, pursued.ending.reloaded?
        (pursued.replies surroundings.transport "job") "job")).toOption =
      some (.ok (some (.terminal .failed)), some [run "1" .completed]) := by
    decide +kernel
  cases course : Pursuit.rerun.pursue surroundings config "job" server with
  | error fault =>
      rw [course] at shown
      cases shown
  | ok pursued =>
      rw [course] at shown
      have parts := Prod.mk.inj (Option.some.inj shown)
      rcases processed.2 pursued course with ⟨-, failed, -, -, -, -, -, files⟩
      have saves : config.autoSave = true := rfl
      rw [parts.2, Option.elim_some, if_pos saves] at files
      exact ⟨failed.mpr parts.1, files⟩

end ExportWatch
