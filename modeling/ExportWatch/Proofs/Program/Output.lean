import ExportWatch.Proofs.Program.Act

/-! What an act shows. Lines are only ever added, so what is shown by acts that follow each other
is put together from what each of them shows. -/

namespace ExportWatch

namespace Output

/-- The lines of one output, and then those of another. -/
def append (first second : Output) : Output where
  results := first.results ++ second.results
  notices := first.notices ++ second.notices

instance : Append Output :=
  ⟨append⟩

variable (first second third : Output)

@[simp] theorem append_empty : first ++ empty = first := by
  change Output.mk (first.results ++ []) (first.notices ++ []) = first
  rw [List.append_nil, List.append_nil]

theorem append_assoc : first ++ second ++ third = first ++ (second ++ third) := by
  change Output.mk _ _ = Output.mk _ _
  congr 1
  · exact List.append_assoc _ _ _
  · exact List.append_assoc _ _ _

@[simp] theorem mk_append_mk (results : List ResultLine) (notices : List String) :
    Output.mk results [] ++ Output.mk [] notices = Output.mk results notices := by
  change Output.mk (results ++ []) notices = _
  rw [List.append_nil]

/-- The lines of all, one after the other. -/
def joined (outputs : List Output) : Output where
  results := outputs.flatMap (·.results)
  notices := outputs.flatMap (·.notices)

@[simp] theorem joined_cons (others : List Output) :
    joined (first :: others) = first ++ joined others :=
  rfl

end Output

namespace Act

variable {State α β : Type}

/-- How an act ends and what it leaves, with the lines that it shows. -/
def Tells (act : Act State α) (scene : Scene State) (outcome : Except CommandFault α)
    (server : State) (files : Files) (told : Output) : Prop :=
  act.perform scene = (outcome, ⟨server, files, scene.output ++ told⟩)

namespace Tells

variable {act : Act State α} {next : α → Act State β} {scene : Scene State}
  {server lastServer : State} {files lastFiles : Files} {told others : Output}

theorem output {outcome : Except CommandFault α}
    (tells : Tells act scene outcome server files told) :
    (act.perform scene).2.output = scene.output ++ told :=
  congrArg (fun result => result.2.output) tells

theorem bind {value : α} {outcome : Except CommandFault β}
    (first : Tells act scene (.ok value) server files told)
    (rest : ∀ output, Tells (next value) ⟨server, files, output⟩ outcome lastServer lastFiles
      others) :
    Tells (act >>= next) scene outcome lastServer lastFiles (told ++ others) := by
  rw [Tells, perform_bind, first, ← Output.append_assoc]
  exact rest _

theorem bind_error {fault : CommandFault}
    (first : Tells act scene (.error fault) server files told) (next : α → Act State β) :
    Tells (act >>= next) scene (.error fault) server files told := by
  rw [Tells, perform_bind, first]

/-- An act that shows nothing does not move the output. -/
theorem bind_silent {value : α} {outcome : Except CommandFault β}
    (first : Tells act scene (.ok value) server files .empty)
    (rest : Tells (next value) ⟨server, files, scene.output⟩ outcome lastServer lastFiles others) :
    Tells (act >>= next) scene outcome lastServer lastFiles others := by
  rw [Tells, perform_bind, first, Output.append_empty]
  exact rest

theorem map {outcome : Except CommandFault α} (first : Tells act scene outcome server files told)
    (change : α → β) : Tells (change <$> act) scene (outcome.map change) server files told := by
  rw [← bind_pure_comp]
  cases outcome with
  | error fault => exact first.bind_error _
  | ok value =>
      rw [← Output.append_empty told]
      exact first.bind fun output => congrArg _ (congrArg _ (Output.append_empty output).symm)

theorem returns {outcome : Except CommandFault α}
    (first : Tells act scene outcome server files told) (value : β) :
    Tells (act >>= fun _ => pure value) scene (outcome.map fun _ => value) server files told := by
  rw [bind_pure_comp]
  exact first.map _

end Tells

section Silent

variable (scene : Scene State)

/-- An act that shows nothing. -/
private theorem tells_nothing {act : Act State α} {outcome : Except CommandFault α} {server : State}
    {files : Files} (performed : act.perform scene = (outcome, ⟨server, files, scene.output⟩)) :
    Tells act scene outcome server files .empty := by
  rw [Tells, Output.append_empty]
  exact performed

theorem tells_pure (value : α) :
    Tells (pure value : Act State α) scene (.ok value) scene.server scene.files .empty :=
  tells_nothing scene rfl

theorem tells_get :
    Tells (get : Act State (Scene State)) scene (.ok scene) scene.server scene.files .empty :=
  tells_nothing scene rfl

theorem tells_set (next : Scene State) (sameOutput : next.output = scene.output) :
    Tells (set next : Act State PUnit) scene (.ok ⟨⟩) next.server next.files .empty :=
  tells_nothing scene (by rw [← sameOutput]; rfl)

theorem tells_settle {ε : Type} (fault : ε → CommandFault) (outcome : Except ε α) :
    Tells (settle fault outcome : Act State α) scene (outcome.mapError fault) scene.server
      scene.files .empty :=
  tells_nothing scene rfl

theorem tells_ask (client : Client) (transport : Transport State) (question : Question α) :
    Tells (ask client transport question) scene
      ((client.ask transport question scene.server).1.outcome.mapError .server)
      (client.ask transport question scene.server).2 scene.files .empty :=
  tells_nothing scene rfl

end Silent

/-! Acts that do nothing but show lines. -/

def Adds (act : Act State Unit) (told : Output) : Prop :=
  ∀ scene, Tells act scene (.ok ()) scene.server scene.files told

theorem adds_pure : Adds (pure () : Act State Unit) .empty :=
  fun scene => tells_pure scene ()

theorem adds_display (line : ResultLine) :
    Adds (display line : Act State Unit) ⟨[line], []⟩ := by
  intro scene
  change (_, Scene.mk _ _ (scene.output.addResult line)) = _
  rw [Output.addResult, ← List.append_nil scene.output.notices]
  rfl

theorem adds_notify (line : String) : Adds (notify line : Act State Unit) ⟨[], [line]⟩ := by
  intro scene
  change (_, Scene.mk _ _ (scene.output.addNotice line)) = _
  rw [Output.addNotice, ← List.append_nil scene.output.results]
  rfl

theorem Adds.bind {act rest : Act State Unit} {told others : Output} (adds : Adds act told)
    (addsOthers : Adds rest others) : Adds (act >>= fun _ => rest) (told ++ others) :=
  fun scene => (adds scene).bind fun _ => addsOthers _

theorem adds_printAll (lines : List String) :
    Adds (printAll lines : Act State Unit) ⟨lines.map .text, []⟩ := by
  induction lines with
  | nil => exact adds_pure
  | cons head tail induction => exact (adds_display _).bind induction

theorem adds_notifyAll (lines : List String) :
    Adds (notifyAll lines : Act State Unit) ⟨[], lines⟩ := by
  induction lines with
  | nil => exact adds_pure
  | cons head tail induction => exact (adds_notify _).bind induction

end Act

end ExportWatch
