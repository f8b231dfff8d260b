import CalcFields.Command.Run
import CalcFields.Proofs.Project.Frame

/-!
Parts of a command run one after the other until one ends with an error. Those that open a project
and read its definitions leave the workspace, and others do nothing but print.
-/

namespace CalcFields

namespace CommandStep

variable {α β : Type} {step : CommandStep α} {next : α → CommandStep β}
  {workspace later : Workspace} {a : α} {e : CommandError}

/-- After a step that ends well the next one runs on what it left. -/
theorem run_bind_ok (done : step.run workspace = (.ok a, later)) :
    (step >>= next).run workspace = (next a).run later := by
  -- The step is a computation with errors over the workspace.
  show (ExceptT.bindCont next (step.run workspace).1) (step.run workspace).2 = _
  rw [done]
  rfl

/-- After a step that ends with an error nothing runs. -/
theorem run_bind_error (failed : step.run workspace = (.error e, later)) :
    (step >>= next).run workspace = (.error e, later) := by
  show (ExceptT.bindCont next (step.run workspace).1) (step.run workspace).2 = _
  rw [failed]
  rfl

/-- A step ends well and does nothing but print. -/
def Prints (step : CommandStep α) : Prop :=
  ∀ workspace, ∃ a text, step.run workspace = (.ok a, { workspace with printed := text })

namespace Prints

/-- Steps that only print do so one after the other. -/
theorem bind (first : Prints step) (second : ∀ a, Prints (next a)) : Prints (step >>= next) := by
  -- The second step starts from what the first one has printed.
  intro workspace
  obtain ⟨a, text, done⟩ := first workspace
  obtain ⟨b, more, doneToo⟩ := second a { workspace with printed := text }
  exact ⟨b, more, by rw [run_bind_ok done, doneToo]⟩

/-- A step that gives a result at once prints nothing. -/
theorem pure (a : α) : Prints (Pure.pure a) :=
  fun workspace => ⟨a, workspace.printed, rfl⟩

/-- A loop over steps that only print does so. -/
theorem forIn {items : List α} {b : β} {body : α → β → CommandStep (ForInStep β)}
    (each : ∀ item b, Prints (body item b)) : Prints (ForIn.forIn items b body) := by
  -- Induction on the items that are left.
  induction items generalizing b with
  | nil => exact pure b
  | cons item rest ih =>
    rw [List.forIn_cons]
    refine (each item b).bind fun outcome => ?_
    -- The loop ends here or goes on with the rest.
    cases outcome with
    | done b => exact pure b
    | yield b => exact ih

/-- A line is printed. -/
theorem printLine (line : String) : Prints (CommandStep.printLine line) :=
  fun workspace => ⟨(), workspace.printed ++ (line ++ "\n"), rfl⟩

/-- An outcome is printed. -/
theorem printOutcome (margin : String) (outcome : Outcome) :
    Prints (CommandStep.printOutcome margin outcome) := by
  -- The loop over the updates comes before the one over the errors.
  refine (forIn fun entry _ => (printLine _).bind fun _ => pure _).bind fun _ =>
    (forIn fun e _ => (printLine _).bind fun _ => pure _).bind fun _ => pure _

end Prints

/-- A result that is there goes on. -/
theorem run_orEnd_ok {ε : Type} (wrap : ε → CommandError) (a : α) :
    (orEnd wrap (.ok a)).run workspace = (.ok a, workspace) :=
  rfl

/-- A changed tree is put into the workspace. -/
theorem run_setFiles (files : Files) :
    (setFiles files).run workspace = (.ok (), { workspace with files := files }) :=
  rfl

/-- The workspace can be looked at. -/
theorem run_get : (get : CommandStep Workspace).run workspace = (.ok workspace, workspace) :=
  rfl

/-- The records of a project are those in the file tree. -/
theorem run_records (project : Project) :
    (records project).run workspace = (.ok (project.records workspace.files), workspace) :=
  rfl

/-- The project that a command is given in is opened. -/
theorem run_project {project : Project}
    (opened : Project.openFrom workspace.files workspace.user workspace.directory = .ok project) :
    CommandStep.project.run workspace = (.ok project, workspace) := by
  -- Opening reads the files and leaves the workspace alone.
  show (orEnd .project (Project.openFrom workspace.files workspace.user
    workspace.directory)).run workspace = _
  rw [opened]
  rfl

/-- The definitions of a project are read and compiled. -/
theorem run_snapshot {project : Project} {found : List Definition}
    (read : (project.definitions workspace.files).all = .ok found) :
    (CommandStep.snapshot project).run workspace =
      (.ok (Snapshot.build found .empty).1, workspace) := by
  -- The definitions are read first, and the snapshot is built from them alone.
  show (orEnd .definitionsUnread (project.definitions workspace.files).all >>= fun found =>
    pure (Snapshot.build found .empty).1).run workspace = _
  rw [read]
  rfl

/-- The record that an argument spells is read. -/
theorem run_recordOf {text : String} {record : Record} (read : Record.read? text = some record) :
    (recordOf text).run workspace = (.ok record, workspace) := by
  -- Both readers look for an object, one with a text for its error.
  unfold Record.read? at read
  unfold recordOf
  split at read
  · rename_i members found
    cases read
    rw [found]
    rfl
  · cases read

/-- The form of output is chosen where a project is opened. -/
theorem exists_run_chooseFormat {project : Project} (line : CommandLine) (workspace : Workspace)
    (opened : Project.openFrom workspace.files workspace.user workspace.directory = .ok project) :
    ∃ format, line.chooseFormat.run workspace = (.ok format, workspace) := by
  obtain ⟨found, ⟨format, usual⟩, loaded⟩ := Project.openFrom_eq_ok_iff.1 opened
  unfold CommandLine.chooseFormat
  -- Without an option on the line the form is looked up again, in settings that have been read
  -- before.
  cases line.format with
  | some format => exact ⟨format, rfl⟩
  | none =>
    refine ⟨format, ?_⟩
    dsimp only
    rw [run_bind_ok run_get, usual, run_bind_ok (run_orEnd_ok _ _), found]
    dsimp only
    rw [loaded, run_bind_ok (run_orEnd_ok _ _)]
    rfl

/-- An argument that spells no record ends the command. -/
theorem exists_run_recordOf {text : String} (workspace : Workspace)
    (unread : Record.read? text = none) :
    ∃ e, (recordOf text).run workspace = (.error e, workspace) := by
  -- Text that is no object fails, whether it reads as another value or not at all.
  unfold Record.read? at unread
  unfold recordOf
  split at unread
  · cases unread
  · rename_i other
    split
    · exact ⟨_, rfl⟩
    · rename_i members found
      exact absurd found (other members)
    · exact ⟨_, rfl⟩

end CommandStep

end CalcFields
