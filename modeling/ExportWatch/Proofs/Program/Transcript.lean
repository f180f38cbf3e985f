import ExportWatch.Proofs.Json.Printable
import ExportWatch.Proofs.Program.Pursuit
import ExportWatch.Proofs.Program.Search
import ExportWatch.Proofs.Text.Cut

/-! What a command shows in JSON. Each result is a document on a line of its own, and whatever else
there is to say is a notice. -/

namespace ExportWatch

open Json

variable {State : Type}

namespace Output

def reported (documents : List Value) (notices : List String) : Output where
  results := documents.map .document
  notices := notices

theorem reported_append (documents others : List Value) (notices further : List String) :
    reported documents notices ++ reported others further =
      reported (documents ++ others) (notices ++ further) :=
  congrArg (Output.mk · _) List.map_append.symm

/-- The lines are told apart by the line breaks behind them. -/
theorem parts_ended {lines : List String} (unbroken : ∀ line ∈ lines, '\n' ∉ line.toList) :
    Text.parts '\n' (ended lines).toList = lines.map String.toList ++ [[]] := by
  induction lines with
  | nil => rfl
  | cons head tail induction =>
      have others := induction fun line member => unbroken line (List.mem_cons_of_mem _ member)
      have first : (ended (head :: tail)).toList = head.toList ++ '\n' :: (ended tail).toList := by
        simp [ended]
      rw [first, Text.parts_append, Text.parts_of_not_mem (unbroken head List.mem_cons_self),
        others]
      rfl

theorem parts_reported (documents : List Value) (notices : List String) :
    Text.parts '\n' (reported documents notices).resultText.toList =
      documents.map (·.write onOneLine 0) ++ [[]] := by
  have shown : (reported documents notices).results.map ResultLine.shown =
      documents.map Value.compact := by
    rw [reported, List.map_map]
    rfl
  rw [resultText, shown, parts_ended]
  · have written : String.toList ∘ Value.compact = (·.write onOneLine 0) :=
      funext fun document => String.toList_ofList
    rw [List.map_map, written]
  · intro line member
    rcases List.mem_map.mp member with ⟨document, -, rfl⟩
    rw [Value.compact, String.toList_ofList]
    exact (printable_write document 0).not_mem

end Output

/-! Events. -/

namespace Following

/-- What is said about an event. -/
def notices (following : Following) (files : Files) : WatchEvent → List String
  | .started job => ["Following runs of job " ++ job]
  | .runUpdated _ => []
  | .fetchFailed message => ["Status check failed: " ++ message]
  | .stopped _ reason => [reason.message]
  | .completedRuns job runs =>
      (processCompleted following.store following.exportPath job runs files).2.messages
  | .notice contents => [contents.text]

/-- The completed runs of an event are processed before the next one is shown. -/
def allNotices (following : Following) : Files → List WatchEvent → List String
  | _, [] => []
  | files, head :: tail =>
      following.notices files head ++ following.allNotices (following.change files head) tail

end Following

/-- The list of runs that is shown before they are followed. -/
def Watch.Kickoff.listed : Watch.Kickoff → List Value
  | .observe runs => [Run.encodeAll runs]
  | .rerun => []

namespace Surroundings

variable (surroundings : Surroundings State) (config : Config)

/-- What is said when there is no place to save completed runs. -/
def storeNotices : List String :=
  if config.autoSave && surroundings.store?.isNone then
    ["Auto-save disabled: " ++ CommandFault.noDataDirectory.message]
  else []

/-- A question is asked first of all, and answered. -/
def Learns {α : Type} (server : State) (question : Client → Question α) (value : α) : Prop :=
  ∃ client, Client.connect config.baseUrl config.token config.userAgent = .ok client ∧
    (client.ask surroundings.transport (question client) server).1.outcome = .ok value

/-- The regions come from a file or from the server. -/
def Supplies (server : State) (files : Files) (path : Option Path)
    (regions : List (Region Float)) : Prop :=
  match path with
  | some path => loadRegions files path = .ok regions
  | none => surroundings.Learns config server (·.regions) regions

/-- A watch after some turns, over or not. -/
def reached (client : Client) (timing : PollTiming) (job : String) (kickoff : Watch.Kickoff)
    (server : State) (count : Nat) : Watch (Connection State) :=
  ((Watch.new timing (⟨server, false⟩ : Connection State) surroundings.coming).followed
    (Connection.backend client surroundings.transport) surroundings.tickFirst count job
    kickoff).watch

end Surroundings

/-- Faults that end a command before it follows any runs. -/
def CommandFault.isEarly : CommandFault → Bool
  | watch _ | unfinished => false
  | _ => true

/-- What a command shows in JSON: its documents, and its notices. -/
inductive Transcript (surroundings : Surroundings State) (config : Config) (server : State)
    (files : Files) : Request → Except CommandFault ExitCode → List Value → List String → Prop
  | nothing {request : Request} {fault : CommandFault} :
      fault.isEarly = true →
      Transcript surroundings config server files request (.error fault) [] []
  | verdict {extent corners : Option (Extent Float)} {mercator : Bool} {path : Option Path}
      {limit : Float} {regions : List (Region Float)} {code : ExitCode} :
      (if mercator then extent.map Mercator.toDegrees else extent) = corners →
      (corners.isSome = true → surroundings.Supplies config server files path regions) →
      (corners = none → regions = []) →
      Transcript surroundings config server files (.validate extent mercator path limit) (.ok code)
        [(Verdict.ofExtent? corners regions limit).encode corners] []
  | pages {query : JobQuery} {pages : Nat} {client : Client} {fetches : List PageFetch}
      {ended : SearchEnd} {reached : State} :
      Client.connect config.baseUrl config.token config.userAgent = .ok client →
      Fetches client query surroundings.transport server fetches reached →
      SearchEnds client query (max 1 pages) fetches ended →
      Transcript surroundings config server files (.jobs query pages)
        (ended.outcome.map fun _ => 0)
        (fetches.filterMap fun fetch =>
          (fetch.read.map fun page => Job.encodeAll page.jobs).toOption)
        (fetches.flatMap (·.shown true |>.notices) ++ ended.shown.notices)
  | job {uid : String} {job : Job} :
      surroundings.Learns config server (·.job uid) job →
      Transcript surroundings config server files (.job uid) (.ok 0) [job.encode] []
  | listed {job : String} {runs : List Run} :
      surroundings.Learns config server (·.latestRuns job) runs →
      Transcript surroundings config server files (.runs job false) (.ok 0) [Run.encodeAll runs] []
  | rerun {job : String} {run : Run} :
      surroundings.Learns config server (·.rerun job) run →
      Transcript surroundings config server files (.rerun job false) (.ok 0)
        [Run.encodeAll [run]] []
  | cancelled {run : String} {said : Option String} :
      surroundings.Learns config server (·.cancelRun run) said →
      Transcript surroundings config server files (.cancel run) (.ok 0)
        [Act.cancelAnswer run (said.getD ("Cancel requested for run " ++ run))] []
  | history {job : String} {limit : Nat} {store : RunStore} {runs : List Run} :
      surroundings.store? = some store → store.loadRecent job limit files = .ok runs →
      Transcript surroundings config server files (.history job limit) (.ok 0)
        [Run.encodeAll runs] []
  | followed {pursuit : Pursuit} {job : String} {pursued : Pursued State} :
      pursuit.pursue surroundings config job server = .ok pursued →
      Transcript surroundings config server files (pursuit.request job)
        ((pursued.ending.outcome.map exitCode).mapError .watch)
        (pursued.kickoff.listed ++ pursued.ending.watch.events.map (·.2.encode))
        (surroundings.storeNotices config ++
          (Act.following pursuit surroundings ⟨pursuit.request job, true, config⟩ job).allNotices
            files (pursued.ending.watch.events.map Prod.snd))
  | unfinished {pursuit : Pursuit} {job : String} {client : Client} {kickoff : Watch.Kickoff}
      {begun : State} :
      Client.connect config.baseUrl config.token config.userAgent = .ok client →
      pursuit.begin surroundings client job server = (.ok kickoff, begun) →
      Transcript surroundings config server files (pursuit.request job) (.error .unfinished)
        kickoff.listed (surroundings.storeNotices config)

namespace Act

variable {surroundings : Surroundings State} {client : Client} {scene : Scene State}

/-! What the parts of a command show. -/

theorem Tells.bind_reported {α β : Type} {act : Act State α} {next : α → Act State β} {value : α}
    {outcome : Except CommandFault β} {server lastServer : State} {files lastFiles : Files}
    {documents others : List Value} {notices further : List String}
    (first : Tells act scene (.ok value) server files (.reported documents notices))
    (rest : ∀ output, Tells (next value) ⟨server, files, output⟩ outcome lastServer lastFiles
      (.reported others further)) :
    Tells (act >>= next) scene outcome lastServer lastFiles
      (.reported (documents ++ others) (notices ++ further)) := by
  rw [← Output.reported_append]
  exact first.bind rest

theorem adds_document (value : Value) :
    Adds (document value : Act State Unit) (.reported [value] []) :=
  adds_display _

theorem tells_showEvent {following : Following} (json : following.json = true) (event : WatchEvent)
    (scene : Scene State) :
    Tells (showEvent following event) scene (.ok ()) scene.server
      (following.change scene.files event)
      (.reported [event.encode] (following.notices scene.files event)) := by
  have noticed (output : Output) : Tells (noticeEvent following event)
      ⟨scene.server, scene.files, output⟩ (.ok ()) scene.server
      (following.change scene.files event)
      (.reported [] (following.notices scene.files event)) := by
    cases event with
    | started job => exact adds_notify _ _
    | runUpdated run => exact adds_pure _
    | fetchFailed message => exact adds_notify _ _
    | stopped job reason => exact adds_notify _ _
    | completedRuns job runs => exact adds_notifyAll _ _
    | notice contents => exact adds_notify _ _
  rw [showEvent, json]
  exact (adds_document _ scene).bind_reported noticed

theorem tells_events {following : Following} (json : following.json = true)
    (events : List WatchEvent) (scene : Scene State) :
    Tells (events.forM (showEvent following)) scene (.ok ()) scene.server
      (events.foldl following.change scene.files)
      (.reported (events.map (·.encode)) (following.allNotices scene.files events)) := by
  induction events generalizing scene with
  | nil => exact tells_pure scene ()
  | cons head tail induction =>
      have others (output : Output) : Tells (tail.forM (showEvent following))
          ⟨scene.server, following.change scene.files head, output⟩ (.ok ()) scene.server
          (tail.foldl following.change (following.change scene.files head))
          (.reported (tail.map (·.encode))
            (following.allNotices (following.change scene.files head) tail)) :=
        induction _
      exact (tells_showEvent json head scene).bind_reported others

theorem tells_follow_error {following : Following} {kickoff : Watch.Kickoff} {fault : CommandFault}
    (watched : surroundings.watch client following.timing following.job kickoff scene.server =
      .error fault) :
    Tells (follow surroundings client following kickoff) scene (.error fault) scene.server
      scene.files .empty := by
  refine (tells_get scene).bind_silent ?_
  rw [watched]
  exact (tells_settle _ id _).bind_error _

theorem tells_follow {following : Following} (json : following.json = true)
    {kickoff : Watch.Kickoff} {ending : Watch.Ending (Connection State)}
    (watched : surroundings.watch client following.timing following.job kickoff scene.server =
      .ok ending) :
    Tells (follow surroundings client following kickoff) scene
      ((ending.outcome.map exitCode).mapError .watch) ending.watch.state.server
      ((ending.watch.events.map Prod.snd).foldl following.change scene.files)
      (.reported (ending.watch.events.map (·.2.encode))
        (following.allNotices scene.files (ending.watch.events.map Prod.snd))) := by
  refine (tells_get scene).bind_silent ?_
  rw [watched]
  refine (tells_settle _ id _).bind_silent ?_
  refine (tells_set _ _ rfl).bind_silent ?_
  have encoded : ending.watch.events.map (·.2.encode) =
      (ending.watch.events.map Prod.snd).map (·.encode) := by
    rw [List.map_map]
    rfl
  rw [encoded, ← Output.append_empty (.reported _ _)]
  refine (tells_events json _ _).bind fun output => ?_
  exact tells_settle _ _ _

theorem tells_storeToSaveIn (surroundings : Surroundings State) (config : Config)
    (scene : Scene State) :
    Tells (storeToSaveIn surroundings config) scene
      (.ok (if config.autoSave then surroundings.store? else none)) scene.server scene.files
      (.reported [] (surroundings.storeNotices config)) := by
  rw [storeToSaveIn, Surroundings.storeNotices]
  cases config.autoSave with
  | true =>
      cases surroundings.store? with
      | some store => exact tells_pure _ _
      | none => exact (adds_notify _ scene).returns none
  | false => exact tells_pure _ _

theorem adds_showRuns (view : View) (runs : List Run) :
    Adds (showRuns true view runs : Act State Unit) (.reported [Run.encodeAll runs] []) :=
  adds_document _

/-! Following. -/

theorem tells_showLatest (surroundings : Surroundings State) {invocation : Invocation}
    (json : invocation.json = true) (client : Client) (job : String) (view : View)
    (scene : Scene State) :
    let (learned, asked) :=
      client.ask surroundings.transport (client.latestRuns job) scene.server
    Tells (showLatest surroundings invocation client job view) scene
      (learned.outcome.mapError .server) asked scene.files
      (.reported (learned.outcome.toOption.toList.map Run.encodeAll) []) := by
  have asking := tells_ask scene client surroundings.transport (client.latestRuns job)
  generalize client.ask surroundings.transport (client.latestRuns job) scene.server = answer
    at asking ⊢
  rcases answer with ⟨⟨outcome, delay, interrupts⟩, asked⟩
  cases outcome with
  | error fault => exact asking.bind_error _
  | ok runs =>
      refine asking.bind_silent ?_
      rw [json]
      exact (adds_showRuns view runs _).returns runs

theorem tells_lookUp (surroundings : Surroundings State) {invocation : Invocation}
    (json : invocation.json = true) (client : Client) (job : String) (pursuit : Pursuit)
    (scene : Scene State) :
    let (outcome, begun) := pursuit.begin surroundings client job scene.server
    Tells (lookUp surroundings invocation client job pursuit) scene (outcome.mapError .server)
      begun scene.files (.reported (outcome.toOption.toList.flatMap (·.listed)) []) := by
  have latest (view : View) :=
    (tells_showLatest surroundings json client job view scene).map Watch.Kickoff.observe
  simp only [mapError_map] at latest
  have listed (outcome : Except ClientFault (List Run)) :
      outcome.toOption.toList.map Run.encodeAll =
        (outcome.map Watch.Kickoff.observe).toOption.toList.flatMap (·.listed) := by
    cases outcome <;> rfl
  simp only [listed] at latest
  cases pursuit with
  | watch => exact latest _
  | list => exact latest _
  | rerun => exact tells_pure _ _

theorem tells_followJob_error {pursuit : Pursuit} {invocation : Invocation} {job : String}
    {kickoff : Watch.Kickoff} {fault : CommandFault}
    (watched : surroundings.watch client
      ⟨pursuit.interval invocation.config, invocation.config.startupDelay⟩ job kickoff
      scene.server = .error fault) :
    Tells (followJob surroundings invocation client job (pursuit.interval invocation.config)
        pursuit.view kickoff) scene (.error fault) scene.server scene.files
      (.reported [] (surroundings.storeNotices invocation.config)) := by
  rw [← Output.append_empty (.reported [] (surroundings.storeNotices invocation.config))]
  refine (tells_storeToSaveIn surroundings invocation.config scene).bind fun output => ?_
  exact tells_follow_error watched

theorem tells_followJob {pursuit : Pursuit} {invocation : Invocation}
    (json : invocation.json = true) {job : String} {kickoff : Watch.Kickoff}
    {ending : Watch.Ending (Connection State)}
    (watched : surroundings.watch client
      ⟨pursuit.interval invocation.config, invocation.config.startupDelay⟩ job kickoff
      scene.server = .ok ending) :
    let events := ending.watch.events.map Prod.snd
    let followed := following pursuit surroundings invocation job
    Tells (followJob surroundings invocation client job (pursuit.interval invocation.config)
        pursuit.view kickoff) scene ((ending.outcome.map exitCode).mapError .watch)
      ending.watch.state.server (events.foldl followed.change scene.files)
      (.reported (ending.watch.events.map (·.2.encode))
        (surroundings.storeNotices invocation.config ++
          followed.allNotices scene.files events)) := by
  intro events followed
  have alsoJson : followed.json = true := json
  refine (tells_storeToSaveIn surroundings invocation.config scene).bind_reported fun output => ?_
  exact tells_follow alsoJson watched

theorem unfinished_of_watch {timing : PollTiming} {job : String} {kickoff : Watch.Kickoff}
    {server : State} {fault : CommandFault}
    (watched : surroundings.watch client timing job kickoff server = .error fault) :
    fault = .unfinished := by
  unfold Surroundings.watch at watched
  simp only [] at watched
  split at watched
  · cases watched
  · cases watched
    rfl

theorem tells_connect (config : Config) (scene : Scene State) :
    Tells (connect config) scene
      ((Client.connect config.baseUrl config.token config.userAgent).mapError .server)
      scene.server scene.files .empty :=
  tells_settle _ _ _

/-- A command that follows runs shows what there was before, and then the events of the watch. -/
theorem tells_pursued {pursuit : Pursuit} {config : Config} {job : String} {pursued : Pursued State}
    (course : pursuit.pursue surroundings config job scene.server = .ok pursued) :
    let invocation : Invocation := ⟨pursuit.request job, true, config⟩
    let events := pursued.ending.watch.events.map Prod.snd
    let followed := following pursuit surroundings invocation job
    Tells (invocation.act surroundings) scene
      ((pursued.ending.outcome.map exitCode).mapError .watch) pursued.ending.watch.state.server
      (events.foldl followed.change scene.files)
      (.reported (pursued.kickoff.listed ++ pursued.ending.watch.events.map (·.2.encode))
        (surroundings.storeNotices config ++ followed.allNotices scene.files events)) := by
  intro invocation events followed
  have json : invocation.json = true := rfl
  have connecting := tells_connect config scene
  rw [act_request pursuit surroundings invocation rfl]
  unfold Pursuit.pursue at course
  split at course
  · cases course
  next client connected =>
    rw [connected] at connecting
    have looking := tells_lookUp surroundings json client job pursuit scene
    split at course
    · cases course
    next kickoff begun found =>
      rcases map_eq_ok_iff.mp course with ⟨ending, watched, rfl⟩
      simp only [found, Except.toOption, Option.toList_some, List.flatMap_singleton] at looking
      refine connecting.bind_silent (looking.bind_reported fun output => ?_)
      exact tells_followJob json watched

/-! A command while it still follows runs. -/

/-- What a command that follows runs shows until some turn of its watch, over or not. -/
def soFar (pursuit : Pursuit) (surroundings : Surroundings State) (invocation : Invocation)
    (job : String) (count : Nat) : Act State Unit := do
  let client ← connect invocation.config
  let kickoff ← lookUp surroundings invocation client job pursuit
  let _ ← storeToSaveIn surroundings invocation.config
  let followed := following pursuit surroundings invocation job
  let scene ← get
  let watch := surroundings.reached client followed.timing job kickoff scene.server count
  (watch.events.map Prod.snd).forM (showEvent followed)

theorem tells_soFar {pursuit : Pursuit} {config : Config} {job : String} {kickoff : Watch.Kickoff}
    {begun : State}
    (connected : Client.connect config.baseUrl config.token config.userAgent = .ok client)
    (found : pursuit.begin surroundings client job scene.server = (.ok kickoff, begun))
    (count : Nat) :
    let invocation : Invocation := ⟨pursuit.request job, true, config⟩
    let followed := following pursuit surroundings invocation job
    let events := (surroundings.reached client followed.timing job kickoff begun count).events
    Tells (soFar pursuit surroundings invocation job count) scene (.ok ()) begun
      ((events.map Prod.snd).foldl followed.change scene.files)
      (.reported (kickoff.listed ++ events.map (·.2.encode))
        (surroundings.storeNotices config ++
          followed.allNotices scene.files (events.map Prod.snd))) := by
  intro invocation followed events
  have json : invocation.json = true := rfl
  have alsoJson : followed.json = true := rfl
  have connecting := tells_connect config scene
  rw [connected] at connecting
  have looking := tells_lookUp surroundings json client job pursuit scene
  simp only [found, Except.toOption, Option.toList_some, List.flatMap_singleton] at looking
  refine connecting.bind_silent (looking.bind_reported fun output => ?_)
  refine (tells_storeToSaveIn surroundings config _).bind_reported fun output => ?_
  refine (tells_get _).bind_silent ?_
  have encoded : events.map (·.2.encode) = (events.map Prod.snd).map (·.encode) := by
    rw [List.map_map]
    rfl
  rw [encoded]
  exact tells_events alsoJson _ _

theorem reached_turns {timing : PollTiming} {job : String} {kickoff : Watch.Kickoff}
    {server : State} {ending : Watch.Ending (Connection State)}
    (watched : surroundings.watch client timing job kickoff server = .ok ending) :
    surroundings.reached client timing job kickoff server surroundings.turns = ending.watch := by
  rw [Surroundings.reached, Surroundings.finished_of_watch watched]
  rfl

/-- An act that shows what is in the transcript of a request. -/
def Transcribed (surroundings : Surroundings State) (config : Config) (request : Request)
    (act : Act State ExitCode) (scene : Scene State) : Prop :=
  ∃ outcome server files documents notices,
    Tells act scene outcome server files (.reported documents notices) ∧
      Transcript surroundings config scene.server scene.files request outcome documents notices

theorem transcribed_of_early {config : Config} {request : Request} {act : Act State ExitCode}
    {fault : CommandFault} {server : State} {files : Files} (early : fault.isEarly = true)
    (tells : Tells act scene (.error fault) server files .empty) :
    Transcribed surroundings config request act scene :=
  ⟨_, _, _, _, _, tells, .nothing early⟩

theorem transcribed_pursuit (surroundings : Surroundings State) (pursuit : Pursuit)
    (config : Config) (job : String) (scene : Scene State) :
    let invocation : Invocation := ⟨pursuit.request job, true, config⟩
    Transcribed surroundings config invocation.request (invocation.act surroundings) scene := by
  intro invocation
  cases course : pursuit.pursue surroundings config job scene.server with
  | ok pursued => exact ⟨_, _, _, _, _, tells_pursued course, .followed course⟩
  | error fault =>
      have json : invocation.json = true := rfl
      have connecting := tells_connect config scene
      rw [act_request pursuit surroundings invocation rfl]
      unfold Pursuit.pursue at course
      split at course
      next refused connected =>
        rw [connected] at connecting
        exact transcribed_of_early rfl (connecting.bind_error _)
      next client connected =>
        rw [connected] at connecting
        have looking := tells_lookUp surroundings json client job pursuit scene
        split at course
        next refused begun found =>
          rw [found] at looking
          exact transcribed_of_early rfl (connecting.bind_silent (looking.bind_error _))
        next kickoff begun found =>
          -- Whatever is shown before a watch stays shown when the watch goes on for ever.
          have watched := map_eq_error_iff.mp course
          cases unfinished_of_watch watched
          simp only [found, Except.toOption, Option.toList_some, List.flatMap_singleton] at looking
          refine ⟨_, begun, scene.files, _, _, connecting.bind_silent ?_,
            .unfinished connected found⟩
          rw [← List.append_nil kickoff.listed]
          exact looking.bind_reported fun output => tells_followJob_error watched

end Act

end ExportWatch
