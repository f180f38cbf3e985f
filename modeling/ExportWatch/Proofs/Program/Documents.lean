import ExportWatch.Proofs.Program.Transcript

/-! What the program writes in JSON, whatever the command: a document on each line of the results,
and nothing else there. -/

namespace ExportWatch

open Json

variable {State : Type}

namespace Act

/-! Commands that follow no runs. -/

/-- A command that begins with a question ends with a fault, or goes on with the answer. -/
theorem tells_asked {α β : Type} (surroundings : Surroundings State) (config : Config)
    (question : Client → Question α) (next : α → Act State β) (scene : Scene State) :
    let asking := connect config >>= fun client =>
      ask client surroundings.transport (question client) >>= next
    (∃ fault server, fault.isEarly = true ∧
        Tells asking scene (.error fault) server scene.files .empty) ∨
      ∃ value server, surroundings.Learns config scene.server question value ∧
        ∀ outcome last files told,
          Tells (next value) ⟨server, scene.files, scene.output⟩ outcome last files told →
          Tells asking scene outcome last files told := by
  intro asking
  have connecting := tells_connect config scene
  cases connected : Client.connect config.baseUrl config.token config.userAgent with
  | error fault =>
      rw [connected] at connecting
      exact .inl ⟨_, _, rfl, connecting.bind_error _⟩
  | ok client =>
      rw [connected] at connecting
      have asked := tells_ask scene client surroundings.transport (question client)
      cases outcome : (client.ask surroundings.transport (question client) scene.server).1.outcome
        with
      | error fault =>
          rw [outcome] at asked
          exact .inl ⟨_, _, rfl, connecting.bind_silent (asked.bind_error next)⟩
      | ok value =>
          rw [outcome] at asked
          refine .inr ⟨value, (client.ask surroundings.transport (question client) scene.server).2,
            ⟨client, connected, outcome⟩, ?_⟩
          intro outcome last files told rest
          exact connecting.bind_silent (asked.bind_silent rest)

theorem joined_shown (fetches : List PageFetch) :
    Output.joined (fetches.map (·.shown true)) =
      .reported (fetches.filterMap fun fetch =>
          (fetch.read.map fun page => Job.encodeAll page.jobs).toOption)
        (fetches.flatMap (·.shown true |>.notices)) := by
  induction fetches with
  | nil => rfl
  | cons head tail induction =>
      rw [List.map_cons, Output.joined_cons, induction, PageFetch.shown, List.filterMap_cons,
        List.flatMap_cons, PageFetch.shown]
      cases head.read <;> rfl

theorem transcribed_jobs (surroundings : Surroundings State) (config : Config) (query : JobQuery)
    (pages : Nat) (scene : Scene State) :
    let invocation : Invocation := ⟨.jobs query pages, true, config⟩
    Transcribed surroundings config invocation.request (invocation.act surroundings) scene := by
  intro invocation
  have connecting := tells_connect config scene
  cases connected : Client.connect config.baseUrl config.token config.userAgent with
  | error fault =>
      rw [connected] at connecting
      exact transcribed_of_early rfl (Tells.returns (connecting.bind_error _) 0)
  | ok client =>
      rw [connected] at connecting
      rcases searches_searchJobs true client surroundings.transport query pages scene with
        ⟨fetches, ended, server, fetched, -, ends, tells⟩
      have last : ended.shown = .reported [] ended.shown.notices := by cases ended <;> rfl
      rw [joined_shown, last, Output.reported_append, List.append_nil] at tells
      exact ⟨_, _, _, _, _, Tells.returns (connecting.bind_silent tells) 0,
        .pages connected fetched ends⟩

theorem transcribed_job (surroundings : Surroundings State) (config : Config) (uid : String)
    (scene : Scene State) :
    let invocation : Invocation := ⟨.job uid, true, config⟩
    Transcribed surroundings config invocation.request (invocation.act surroundings) scene := by
  intro invocation
  rcases tells_asked surroundings config (·.job uid)
    (fun job => (document job.encode : Act State Unit)) scene with
    ⟨fault, server, early, tells⟩ | ⟨job, server, learned, tells⟩
  · exact transcribed_of_early early (tells.returns 0)
  · exact ⟨_, _, _, _, _, (tells _ _ _ _ (adds_document _ _)).returns 0, .job learned⟩

theorem transcribed_cancel (surroundings : Surroundings State) (config : Config) (run : String)
    (scene : Scene State) :
    let invocation : Invocation := ⟨.cancel run, true, config⟩
    Transcribed surroundings config invocation.request (invocation.act surroundings) scene := by
  intro invocation
  rcases tells_asked surroundings config (·.cancelRun run)
    (fun said => (document (cancelAnswer run (said.getD ("Cancel requested for run " ++ run))) :
      Act State Unit)) scene with
    ⟨fault, server, early, tells⟩ | ⟨said, server, learned, tells⟩
  · exact transcribed_of_early early (tells.returns 0)
  · exact ⟨_, _, _, _, _, (tells _ _ _ _ (adds_document _ _)).returns 0, .cancelled learned⟩

theorem transcribed_rerun (surroundings : Surroundings State) (config : Config) (job : String)
    (scene : Scene State) :
    let invocation : Invocation := ⟨.rerun job false, true, config⟩
    Transcribed surroundings config invocation.request (invocation.act surroundings) scene := by
  intro invocation
  rcases tells_asked surroundings config (·.rerun job)
    (fun run => (showRuns true .detail [run] : Act State Unit) >>= fun _ => pure 0) scene with
    ⟨fault, server, early, tells⟩ | ⟨run, server, learned, tells⟩
  · exact transcribed_of_early early tells
  · have shown : Tells (showRuns true .detail [run]) ⟨server, scene.files, scene.output⟩ (.ok ())
        server scene.files (.reported [Run.encodeAll [run]] []) := adds_showRuns _ _ _
    exact ⟨_, _, _, _, _, tells _ _ _ _ (shown.returns 0), .rerun learned⟩

theorem transcribed_runs (surroundings : Surroundings State) (config : Config) (job : String)
    (scene : Scene State) :
    let invocation : Invocation := ⟨.runs job false, true, config⟩
    Transcribed surroundings config invocation.request (invocation.act surroundings) scene := by
  intro invocation
  have acts : invocation.act surroundings = (connect config >>= fun client =>
      ask client surroundings.transport (client.latestRuns job) >>= fun runs =>
        showRuns true .list runs >>= fun _ => pure 0) := by
    simp only [Invocation.act, invocation, watchList, showLatest, bind_assoc, pure_bind]
    rfl
  rw [acts]
  rcases tells_asked surroundings config (·.latestRuns job)
    (fun runs => (showRuns true .list runs : Act State Unit) >>= fun _ => pure 0) scene with
    ⟨fault, server, early, tells⟩ | ⟨runs, server, learned, tells⟩
  · exact transcribed_of_early early tells
  · have shown : Tells (showRuns true .list runs) ⟨server, scene.files, scene.output⟩ (.ok ())
        server scene.files (.reported [Run.encodeAll runs] []) := adds_showRuns _ _ _
    exact ⟨_, _, _, _, _, tells _ _ _ _ (shown.returns 0), .listed learned⟩

theorem tells_regionsFor (surroundings : Surroundings State) (config : Config)
    (path : Option Path) (scene : Scene State) :
    (∃ fault server, fault.isEarly = true ∧
        Tells (regionsFor surroundings config path) scene (.error fault) server scene.files
          .empty) ∨
      ∃ regions server, surroundings.Supplies config scene.server scene.files path regions ∧
        Tells (regionsFor surroundings config path) scene (.ok regions) server scene.files
          .empty := by
  cases path with
  | some path =>
      have loading : Tells (regionsFor surroundings config (some path)) scene
          ((loadRegions scene.files path).mapError .regionFile) scene.server scene.files .empty :=
        (tells_get scene).bind_silent (tells_settle _ _ _)
      cases loaded : loadRegions scene.files path with
      | error fault =>
          rw [loaded] at loading
          exact .inl ⟨_, _, rfl, loading⟩
      | ok regions =>
          rw [loaded] at loading
          exact .inr ⟨regions, _, loaded, loading⟩
  | none =>
      rcases tells_asked surroundings config (·.regions)
        (pure : List (Region Float) → Act State (List (Region Float))) scene with
        ⟨fault, server, early, tells⟩ | ⟨regions, server, learned, tells⟩
      · simp only [bind_pure] at tells
        exact .inl ⟨fault, server, early, tells⟩
      · simp only [bind_pure] at tells
        exact .inr ⟨regions, server, learned, tells _ _ _ _ (tells_pure _ _)⟩

theorem transcribed_validate (surroundings : Surroundings State) (config : Config)
    (extent : Option (Extent Float)) (mercator : Bool) (path : Option Path) (limit : Float)
    (scene : Scene State) :
    let invocation : Invocation := ⟨.validate extent mercator path limit, true, config⟩
    Transcribed surroundings config invocation.request (invocation.act surroundings) scene := by
  intro invocation
  generalize same : (if mercator then extent.map Mercator.toDegrees else extent) = corners
  have acts : invocation.act surroundings =
      Act.validate surroundings invocation corners path limit := by
    rw [← same]
    rfl
  have shown (regions : List (Region Float)) (server : State) :
      Tells (do
          showVerdict true (Verdict.ofExtent? corners regions limit) corners
          return if (Verdict.ofExtent? corners regions limit).isValid then 0 else 2)
        ⟨server, scene.files, scene.output⟩ _ server scene.files
        (.reported [(Verdict.ofExtent? corners regions limit).encode corners] []) :=
    Tells.returns (adds_document _ _) _
  rw [acts]
  cases corners with
  | none =>
      exact ⟨_, _, _, _, _, (tells_pure scene []).bind_silent (shown [] scene.server),
        .verdict same nofun fun _ => rfl⟩
  | some extent =>
      rcases tells_regionsFor surroundings config path scene with
        ⟨fault, server, early, tells⟩ | ⟨regions, server, supplied, tells⟩
      · exact transcribed_of_early early (tells.bind_error _)
      · exact ⟨_, _, _, _, _, tells.bind_silent (shown regions server),
          .verdict same (fun _ => supplied) nofun⟩

theorem transcribed_history (surroundings : Surroundings State) (config : Config) (job : String)
    (limit : Nat) (scene : Scene State) :
    let invocation : Invocation := ⟨.history job limit, true, config⟩
    Transcribed surroundings config invocation.request (invocation.act surroundings) scene := by
  intro invocation
  have finding : Tells (findStore surroundings) scene
      (surroundings.store?.elim (.error .noDataDirectory) .ok) scene.server scene.files .empty := by
    rw [findStore]
    cases surroundings.store? with
    | some store => exact tells_pure _ _
    | none => exact tells_settle scene id (.error .noDataDirectory)
  cases stored : surroundings.store? with
  | none =>
      rw [stored] at finding
      exact transcribed_of_early rfl ((finding.bind_error _).returns 0)
  | some store =>
      rw [stored] at finding
      have loading : Tells (settle .history (store.loadRecent job limit scene.files)) scene
          ((store.loadRecent job limit scene.files).mapError .history) scene.server scene.files
          .empty := tells_settle _ _ _
      cases loaded : store.loadRecent job limit scene.files with
      | error trouble =>
          rw [loaded] at loading
          have fails : Tells (showHistory surroundings true job limit) scene
              (.error (.history trouble)) scene.server scene.files .empty := by
            refine finding.bind_silent ?_
            refine (tells_get scene).bind_silent ?_
            rw [loaded]
            exact loading.bind_error _
          exact transcribed_of_early rfl (fails.returns 0)
      | ok runs =>
          rw [loaded] at loading
          have shows : Tells (showHistory surroundings true job limit) scene (.ok ())
              scene.server scene.files (.reported [Run.encodeAll runs] []) := by
            refine finding.bind_silent ?_
            refine (tells_get scene).bind_silent ?_
            rw [loaded]
            refine loading.bind_silent ?_
            rw [Bool.not_true, Bool.and_false]
            exact adds_showRuns .detail runs scene
          exact ⟨_, _, _, _, _, shows.returns 0, .history stored loaded⟩

/-! All commands. -/

theorem transcribed_request (surroundings : Surroundings State) (config : Config)
    (request : Request) (scene : Scene State) :
    let invocation : Invocation := ⟨request, true, config⟩
    Transcribed surroundings config request (invocation.act surroundings) scene := by
  cases request with
  | validate extent mercator path limit =>
      exact transcribed_validate surroundings config extent mercator path limit scene
  | jobs query pages => exact transcribed_jobs surroundings config query pages scene
  | job uid => exact transcribed_job surroundings config uid scene
  | runs job follow =>
      cases follow with
      | true => exact transcribed_pursuit surroundings .list config job scene
      | false => exact transcribed_runs surroundings config job scene
  | watch job => exact transcribed_pursuit surroundings .watch config job scene
  | rerun job follow =>
      cases follow with
      | true => exact transcribed_pursuit surroundings .rerun config job scene
      | false => exact transcribed_rerun surroundings config job scene
  | cancel run => exact transcribed_cancel surroundings config run scene
  | history job limit => exact transcribed_history surroundings config job limit scene

end Act

namespace Output

theorem documents_unique {documents others : List Value} {notices further : List String}
    (same : reported documents notices = reported others further) : documents = others :=
  List.map_injective_iff.mpr (fun _ _ equal => ResultLine.document.inj equal)
    (congrArg Output.results same)

/-- Each line of the results is a JSON document in the sense of the grammar, and has no control
characters. -/
structure IsDocuments (output : Output) (documents : List Value) : Prop where
  lines : Text.parts '\n' output.resultText.toList =
    documents.map (·.write onOneLine 0) ++ [[]]
  each : ∀ document ∈ documents, IsDocument (document.write onOneLine 0) ∧
    Printable (document.write onOneLine 0)

theorem isDocuments_reported (documents : List Value) (notices : List String) :
    (reported documents notices).IsDocuments documents where
  lines := parts_reported documents notices
  each := fun document _ =>
    ⟨isDocument_write blank_onOneLine document 0, printable_write document 0⟩

end Output

/-- What a command that follows runs has shown once its watch is over is all that it shows. -/
theorem Act.output_soFar_turns {surroundings : Surroundings State} {pursuit : Pursuit}
    {config : Config} {job : String} {scene : Scene State} {pursued : Pursued State}
    (course : pursuit.pursue surroundings config job scene.server = .ok pursued) :
    let invocation : Invocation := ⟨pursuit.request job, true, config⟩
    ((soFar pursuit surroundings invocation job surroundings.turns).perform scene).2.output =
      ((invocation.act surroundings).perform scene).2.output := by
  intro invocation
  rcases Pursuit.begun_of_pursue course with ⟨connected, found⟩
  have last : surroundings.reached pursued.client
      (following pursuit surroundings invocation job).timing job pursued.kickoff pursued.server
      surroundings.turns = pursued.ending.watch := reached_turns (Pursuit.watched_of_pursue course)
  have told := tells_soFar connected found surroundings.turns
  have follows := tells_pursued course
  dsimp only at told
  rw [last] at told
  exact told.output.trans follows.output.symm

/-- With results in JSON, whatever is asked for, whatever the server answers and the files hold, and
however often the program is interrupted. Each line of the results is a JSON document. There is one
for each thing that is found, and all else is a notice. A command that follows runs shows each event
of its watch once, in order, after the runs that it lists to begin with. While the watch goes on
it shows each event as it comes. -/
theorem results_are_documents (surroundings : Surroundings State) (config : Config)
    (request : Request) (server : State) (files : Files) :
    let invocation : Invocation := ⟨request, true, config⟩
    let performed := invocation.perform surroundings server files
    (∃ documents notices, performed.2.output = .reported documents notices ∧
      performed.2.output.IsDocuments documents ∧
      Transcript surroundings config server files request performed.1 documents notices ∧
      ∀ (pursuit : Pursuit) (job : String) (pursued : Pursued State),
        request = pursuit.request job →
        pursuit.pursue surroundings config job server = .ok pursued →
        documents = pursued.kickoff.listed ++ pursued.ending.watch.events.map (·.2.encode)) ∧
    (∀ (following : Following) (events : List WatchEvent) (scene : Scene State),
      let live : Following := { following with json := true }
      ((events.forM (Act.showEvent live)).perform scene).2.output =
        scene.output ++ .reported (events.map (·.encode)) (live.allNotices scene.files events)) ∧
    ∀ (pursuit : Pursuit) (job : String), request = pursuit.request job →
      let followed := Act.following pursuit surroundings invocation job
      let shown (count : Nat) := ((Act.soFar pursuit surroundings invocation job count).perform
        ⟨server, files, .empty⟩).2.output
      (∀ client kickoff begun,
        Client.connect config.baseUrl config.token config.userAgent = .ok client →
        pursuit.begin surroundings client job server = (.ok kickoff, begun) → ∀ count,
        let events (count : Nat) :=
          (surroundings.reached client followed.timing job kickoff begun count).events
        let documents := kickoff.listed ++ (events count).map (·.2.encode)
        shown count = .reported documents (surroundings.storeNotices config ++
            followed.allNotices files ((events count).map Prod.snd)) ∧
          (shown count).IsDocuments documents ∧
          events count <+: events (count + 1)) ∧
        ∀ pursued, pursuit.pursue surroundings config job server = .ok pursued →
          shown surroundings.turns = performed.2.output := by
  intro invocation performed
  refine ⟨?all, ?live, ?watching⟩
  case all =>
    rcases Act.transcribed_request surroundings config request ⟨server, files, .empty⟩ with
      ⟨outcome, last, lastFiles, documents, notices, tells, transcript⟩
    have ended : performed = (outcome, ⟨last, lastFiles, .reported documents notices⟩) := tells
    rw [ended]
    refine ⟨documents, notices, rfl, Output.isDocuments_reported documents notices, transcript, ?_⟩
    rintro pursuit job pursued rfl course
    -- What is shown is known twice over, so the documents are those of the watch.
    have follows : performed.2.output = .reported _ _ := (Act.tells_pursued course).output
    rw [ended] at follows
    exact Output.documents_unique follows
  case live =>
    intro following events scene live
    have json : live.json = true := rfl
    exact (Act.tells_events json events scene).output
  case watching =>
    rintro pursuit job rfl followed shown
    constructor
    · intro client kickoff begun connected found count events documents
      let scene : Scene State := ⟨server, files, .empty⟩
      have begins : pursuit.begin surroundings client job scene.server = (.ok kickoff, begun) :=
        found
      have told : shown count = .reported documents _ :=
        (Act.tells_soFar connected begins count).output
      refine ⟨told, ?_, ?_⟩
      · rw [told]
        exact Output.isDocuments_reported _ _
      · exact (Watch.followed_continues _ _ _ _).filterMap _
    · intro pursued course
      exact Act.output_soFar_turns course

end ExportWatch
