import ExportWatch.Program.Command

/-! What a command does, taken apart: each part goes on from where the part before it
left the scene, and the first fault is the fault of the whole. -/

namespace ExportWatch.Act

variable {State α β : Type}

theorem perform_bind (act : Act State α) (next : α → Act State β) (scene : Scene State) :
    (act >>= next).perform scene =
      match act.perform scene with
      | (.ok value, after) => (next value).perform after
      | (.error fault, after) => (.error fault, after) := by
  change (act.run >>= ExceptT.bindCont next).run scene = _
  rw [StateT.run_bind]
  change (match act.run.run scene with
    | (outcome, after) => (ExceptT.bindCont next outcome).run after) = _
  rw [perform]
  rcases act.run.run scene with ⟨_ | _, after⟩ <;> rfl

theorem parts_of_ok {act : Act State α} {next : α → Act State β} {scene : Scene State}
    {result : β} (ended : ((act >>= next).perform scene).1 = .ok result) :
    ∃ value after, act.perform scene = (.ok value, after) ∧
      ((next value).perform after).1 = .ok result := by
  rw [perform_bind] at ended
  cases first : act.perform scene with
  | mk outcome after =>
      rw [first] at ended
      cases outcome with
      | error fault => cases ended
      | ok value => exact ⟨value, after, rfl, ended⟩

/-- How an act ends and what it leaves, but for the lines that it shows. -/
def Yields (act : Act State α) (scene : Scene State) (outcome : Except CommandFault α)
    (server : State) (files : Files) : Prop :=
  ∃ output, act.perform scene = (outcome, ⟨server, files, output⟩)

/-- How an act ends, and the files that it leaves. -/
def Leaves (act : Act State α) (scene : Scene State) (outcome : Except CommandFault α)
    (files : Files) : Prop :=
  ∃ server, Yields act scene outcome server files

namespace Yields

variable {act : Act State α} {next : α → Act State β} {scene : Scene State}
  {server lastServer : State} {files lastFiles : Files}

theorem bind {value : α} {outcome : Except CommandFault β}
    (first : Yields act scene (.ok value) server files)
    (rest : ∀ output, Yields (next value) ⟨server, files, output⟩ outcome lastServer lastFiles) :
    Yields (act >>= next) scene outcome lastServer lastFiles := by
  rcases first with ⟨shown, performed⟩
  rcases rest shown with ⟨output, finished⟩
  refine ⟨output, ?_⟩
  rw [perform_bind, performed]
  exact finished

theorem bind_error {fault : CommandFault} (first : Yields act scene (.error fault) server files)
    (next : α → Act State β) : Yields (act >>= next) scene (.error fault) server files := by
  rcases first with ⟨output, failed⟩
  refine ⟨output, ?_⟩
  rw [perform_bind, failed]

theorem map {outcome : Except CommandFault α} (first : Yields act scene outcome server files)
    (change : α → β) : Yields (change <$> act) scene (outcome.map change) server files := by
  rw [← bind_pure_comp]
  cases outcome with
  | error fault => exact first.bind_error _
  | ok value => exact first.bind fun output => ⟨output, rfl⟩

theorem leaves {outcome : Except CommandFault α} (yields : Yields act scene outcome server files) :
    Leaves act scene outcome files :=
  ⟨server, yields⟩

theorem bind_leaves {value : α} {outcome : Except CommandFault β}
    (first : Yields act scene (.ok value) server files)
    (rest : ∀ output, Leaves (next value) ⟨server, files, output⟩ outcome lastFiles) :
    Leaves (act >>= next) scene outcome lastFiles := by
  rcases first with ⟨shown, performed⟩
  rcases rest shown with ⟨lastServer, output, finished⟩
  refine ⟨lastServer, output, ?_⟩
  rw [perform_bind, performed]
  exact finished

end Yields

theorem yields_pure (value : α) (scene : Scene State) :
    Yields (pure value : Act State α) scene (.ok value) scene.server scene.files :=
  ⟨_, rfl⟩

theorem yields_get (scene : Scene State) :
    Yields (get : Act State (Scene State)) scene (.ok scene) scene.server scene.files :=
  ⟨_, rfl⟩

theorem yields_set (next scene : Scene State) :
    Yields (set next : Act State PUnit) scene (.ok ⟨⟩) next.server next.files :=
  ⟨_, rfl⟩

theorem yields_settle {ε : Type} (fault : ε → CommandFault) (outcome : Except ε α)
    (scene : Scene State) :
    Yields (settle fault outcome : Act State α) scene (outcome.mapError fault) scene.server
      scene.files :=
  ⟨_, rfl⟩

theorem yields_connect (config : Config) (scene : Scene State) :
    Yields (connect config) scene
      ((Client.connect config.baseUrl config.token config.userAgent).mapError .server)
      scene.server scene.files :=
  yields_settle _ _ _

theorem yields_ask (client : Client) (transport : Transport State) (question : Question α)
    (scene : Scene State) :
    Yields (ask client transport question) scene
      ((client.ask transport question scene.server).1.outcome.mapError .server)
      (client.ask transport question scene.server).2 scene.files :=
  ⟨_, rfl⟩

/-! Acts that end well and leave the server alone. -/

def Changes (act : Act State Unit) (change : Files → Files) : Prop :=
  ∀ scene, Yields act scene (.ok ()) scene.server (change scene.files)

/-- The act shows lines, and that is all. -/
def Shows (act : Act State Unit) : Prop :=
  Changes act id

theorem shows_pure : Shows (pure () : Act State Unit) :=
  yields_pure ()

theorem shows_display (line : ResultLine) : Shows (display line : Act State Unit) :=
  fun _ => ⟨_, rfl⟩

theorem shows_notify (line : String) : Shows (notify line : Act State Unit) :=
  fun _ => ⟨_, rfl⟩

section Changes

variable {act rest : Act State Unit} {first second : Files → Files} {element : Type}

theorem Changes.bind (changes : Changes act first) (others : Changes rest second) :
    Changes (act >>= fun _ => rest) (second ∘ first) :=
  fun scene => (changes scene).bind fun _ => others _

theorem Shows.bind (shows : Shows act) (others : Changes rest second) :
    Changes (act >>= fun _ => rest) second :=
  Changes.bind shows others

theorem changes_forM {act : element → Act State Unit} {change : Files → element → Files}
    (changes : ∀ value, Changes (act value) fun files => change files value)
    (values : List element) : Changes (values.forM act) fun files => values.foldl change files := by
  induction values with
  | nil => exact shows_pure
  | cons head tail induction => exact (changes head).bind induction

theorem shows_forM {act : element → Act State Unit} (shows : ∀ value, Shows (act value))
    (values : List element) : Shows (values.forM act) := by
  induction values with
  | nil => exact shows_pure
  | cons head tail induction => exact (shows head).bind induction

end Changes

theorem shows_printAll (lines : List String) : Shows (printAll lines : Act State Unit) :=
  shows_forM (fun _ => shows_display _) lines

theorem shows_notifyAll (lines : List String) : Shows (notifyAll lines : Act State Unit) :=
  shows_forM shows_notify lines

theorem shows_document (value : Json.Value) : Shows (document value : Act State Unit) :=
  shows_display _

end ExportWatch.Act
