import CalcFields.Proofs.Command.Step
import CalcFields.Proofs.Engine.Building
import CalcFields.Proofs.Store.Upkeep

/-!
A command that puts a record stores it with the updates of the pass over what the put changed, and
leaves the project. After any number of such commands every record of the collection is kept up by
the puts that were its own.
-/

namespace CalcFields

open CommandStep

variable {workspace : Workspace} {format : OutputFormat} {collection data id : String}
  {project : Project} {found : List Definition} {payload record : Record} {stored last : LineStore}

/-- A command that puts a record ends well, and leaves the files as the update leaves them. -/
theorem exists_runPutRecord (workspace : Workspace) (format : OutputFormat)
    (opened : Project.openFrom workspace.files workspace.user workspace.directory = .ok project)
    (read : (project.definitions workspace.files).all = .ok found)
    (spelled : Record.read? data = some payload)
    (put : RecordStore.put (project.records workspace.files) collection payload = .ok (id, stored))
    (readBack : RecordStore.readOne stored collection id none = .ok (some record))
    {outcome : Outcome}
    (computed : (Snapshot.build found .empty).1.recompute collection record (some payload.changes)
      none workspace.now = outcome)
    (updated : if outcome.hasChanges = true then
        RecordStore.updateOne stored collection id outcome.updates = .ok (true, last)
      else last = stored) :
    ∃ text, (Command.runPutRecord format collection data).run workspace =
      (.ok (), { workspace with files := last.files, printed := text }) := by
  -- The command runs its steps in order, and each of them is known to succeed.
  unfold Command.runPutRecord
  rw [run_bind_ok (run_project opened), run_bind_ok (run_snapshot read),
    run_bind_ok (run_recordOf spelled)]
  dsimp only
  rw [run_bind_ok (run_records project), put, run_bind_ok (run_orEnd_ok _ _)]
  dsimp only
  rw [run_bind_ok (run_setFiles _), readBack, run_bind_ok (run_orEnd_ok _ _)]
  dsimp only
  rw [run_bind_ok run_get]
  dsimp only
  rw [← Record.changes, computed]
  -- Whatever is printed at the end, the files stay.
  cases changes : outcome.hasChanges with
  | true =>
    rw [changes, if_pos rfl] at updated
    rw [if_pos rfl, updated, run_bind_ok (run_orEnd_ok _ _)]
    dsimp only
    rw [run_bind_ok (run_setFiles _)]
    cases format with
    | json =>
      obtain ⟨_, text, told⟩ := Prints.printLine _ _
      exact ⟨text, told⟩
    | text =>
      obtain ⟨_, text, told⟩ := (Prints.printLine _).bind (fun _ => .printOutcome _ _) _
      exact ⟨text, told⟩
  -- Without changes nothing is written after the record was stored.
  | false =>
    rw [changes, if_neg Bool.false_ne_true] at updated
    rw [if_neg Bool.false_ne_true, updated]
    cases format with
    | json =>
      obtain ⟨_, text, told⟩ := Prints.printLine _ _
      exact ⟨text, told⟩
    | text =>
      obtain ⟨_, text, told⟩ := (Prints.printLine _).bind (fun _ => .printOutcome _ _) _
      exact ⟨text, told⟩

/-- A command that puts what is no record ends with an error and leaves the workspace. -/
theorem exists_runPutRecord_of_unread (workspace : Workspace) (format : OutputFormat)
    (collection : String)
    (opened : Project.openFrom workspace.files workspace.user workspace.directory = .ok project)
    (read : (project.definitions workspace.files).all = .ok found)
    (unread : Record.read? data = none) :
    ∃ e, (Command.runPutRecord format collection data).run workspace = (.error e, workspace) := by
  -- The data are read before the record is stored.
  obtain ⟨e, failed⟩ := exists_run_recordOf workspace unread
  unfold Command.runPutRecord
  rw [run_bind_ok (run_project opened), run_bind_ok (run_snapshot read), run_bind_error failed]
  exact ⟨e, rfl⟩

/-- A command that puts a record, given at some time. -/
structure PutCommand where
  format : Option OutputFormat
  data : String
  now : Instant

namespace PutCommand

/-- The result of the command for a collection, and the workspace as it leaves it. -/
def perform (command : PutCommand) (collection : String) (workspace : Workspace) :
    Except CommandError Unit × Workspace :=
  CommandLine.perform ⟨command.format, .putRecord collection command.data⟩
    { workspace with now := command.now }

/-- A command runs in the form of output that is chosen for it. -/
theorem exists_perform (command : PutCommand) (collection : String)
    (opened : Project.openFrom workspace.files workspace.user workspace.directory = .ok project) :
    ∃ format, command.perform collection workspace =
      (Command.runPutRecord format collection command.data).run
        { workspace with now := command.now } := by
  -- The format is chosen first, and the choice leaves the workspace alone.
  obtain ⟨format, chosen⟩ := exists_run_chooseFormat
    ⟨command.format, .putRecord collection command.data⟩
    { workspace with now := command.now } opened
  refine ⟨format, ?_⟩
  rw [perform, CommandLine.perform, run_bind_ok chosen]
  rfl

end PutCommand

/-- The numbers of a record that is put survive the file, and so do those of the updates that
follow; a record without an id finds the next one free. -/
structure PutFits (formulas : CollectionFormulas) (now : Instant) (store : LineStore)
    (collection : String) (records : List Record) (payload : Record) : Prop where
  given : ∀ x ∈ payload.numbers, LineStore.Restores x ∨ x = -0.0
  assignable : payload.id? = none → Record.Assignable records
  computed : ∀ id stored record, RecordStore.put store collection payload = .ok (id, stored) →
    RecordStore.readOne stored collection id none = .ok (some record) →
    ∀ x ∈ (formulas.recompute record (some payload.changes) none now).updates.numbers,
      LineStore.Restores x ∨ x = -0.0

/-- Workspaces to which commands lead that put records into a collection of a project, with the
records as they were put, the last one first. A command whose data is no record is refused. -/
inductive PutRun (project : Project) (formulas : CollectionFormulas) (collection : String)
    (initial : Workspace) : List Record → Workspace → Prop where
  | initial : PutRun project formulas collection initial [] initial
  | put {puts : List Record} {workspace : Workspace}
      (earlier : PutRun project formulas collection initial puts workspace) (command : PutCommand)
      {payload : Record} {records : List Record}
      (spelled : Record.read? command.data = some payload)
      (loaded : (project.records workspace.files).records collection = .ok records)
      (fits : PutFits formulas command.now (project.records workspace.files) collection records
        payload) :
      PutRun project formulas collection initial
        (Record.kept LineStore (Record.entered records payload) :: puts)
        (command.perform collection workspace).2
  | refused {puts : List Record} {workspace : Workspace}
      (earlier : PutRun project formulas collection initial puts workspace) (command : PutCommand)
      (unread : Record.read? command.data = none) :
      PutRun project formulas collection initial puts (command.perform collection workspace).2

/-- What a command that puts a record leaves: the project as it is, and in the collection, in place
of the record that had the id, what the put and the pass over its changes make of it. -/
structure PutDone (project : Project) (formulas : CollectionFormulas) (collection : String)
    (command : PutCommand) (workspace : Workspace) (records : List Record) (payload : Record)
    (id : String) (before : List Record) (held : Record) (after : List Record) (other : Record) :
    Prop where
  ended : (command.perform collection workspace).1 = .ok ()
  user : (command.perform collection workspace).2.user = workspace.user
  directory : (command.perform collection workspace).2.directory = workspace.directory
  keeps : Project.Keeps project.root workspace.files (command.perform collection workspace).2.files
  around : Record.Around id records before held after
  named : (Record.kept LineStore (Record.entered records payload)).id? = some id
  namedToo : other.id? = some id
  filled : Filled (project.records (command.perform collection workspace).2.files) collection
    (before ++ other :: after)
  pass : formulas.PutPass payload.changes command.now
    (Record.kept LineStore (Record.entered records payload)) held other

namespace PutCommand

variable {formulas : CollectionFormulas} {records : List Record} {command : PutCommand}

/-- Storing a record and its updates leaves the project. -/
theorem keeps_project {updates : Record}
    (opened : Project.openFrom workspace.files workspace.user workspace.directory = .ok project)
    (put : RecordStore.put (project.records workspace.files) collection payload = .ok (id, stored))
    {changes : Bool}
    (updated : if changes = true then
        RecordStore.updateOne stored collection id updates = .ok (true, last)
      else last = stored) :
    Project.Keeps project.root workspace.files last.files ∧ project.records last.files = last := by
  -- A save writes below the project's own directory and nowhere else.
  have isRoot := (Project.of_find? (Project.openFrom_eq_ok_iff.1 opened).1).2
  obtain ⟨_, _, _, saved⟩ := RecordShelf.exists_of_put put
  obtain ⟨keeps, same⟩ := Project.keeps_of_save isRoot saved
  cases changes with
  | false =>
    rw [if_neg Bool.false_ne_true] at updated
    -- Without an update the files are those that the first save left.
    subst updated
    exact ⟨keeps, same⟩
  | true =>
    rw [if_pos rfl] at updated
    obtain ⟨_, _, unchanged | ⟨_, _, savedToo⟩⟩ := RecordShelf.exists_of_updateOne updated
    · subst unchanged
      exact ⟨keeps, same⟩
    · -- The second save starts from what the first has left, where the root is one still.
      rw [← same] at savedToo
      obtain ⟨further, sameToo⟩ := Project.keeps_of_save
        ((keeps.roots _ List.prefix_rfl).trans isRoot) savedToo
      exact ⟨keeps.trans further, sameToo⟩

/-- A command that puts a record stores it with the updates of the pass over its changes. -/
theorem exists_putDone
    (opened : Project.openFrom workspace.files workspace.user workspace.directory = .ok project)
    (read : (project.definitions workspace.files).all = .ok found)
    (known : (Snapshot.build found .empty).1.collection? collection = some formulas)
    (noId : formulas.graph.contains idField = false)
    (filled : Filled (project.records workspace.files) collection records)
    (spelled : Record.read? command.data = some payload)
    (fits : PutFits formulas command.now (project.records workspace.files) collection records
      payload) :
    ∃ id before held after other, PutDone project formulas collection command workspace records
      payload id before held after other := by
  -- What the payload says is saved as it is, numbers included.
  have fresh : ∀ e ∈ payload.entries, Saved LineStore e.2 := fun e inside =>
    ⟨Record.nests_of_read? spelled e inside, fun x number =>
      fits.given x (List.mem_flatMap.2 ⟨e, inside, number⟩)⟩
  -- The store gives the record an id and a place, and the pass runs on what it reads back.
  obtain ⟨id, stored, before, held, after, put, around, named, between, readBack⟩ :=
    filled.exists_put_read fresh fits.assignable
  obtain ⟨last, other, updated, saved, namedToo, pass⟩ := between.exists_pass
    (fun r member => around.lacks r (List.mem_append_left _ member)) named
    (fun _ => Record.mem_changes_entered) noId (fits.computed id stored _ put readBack)
  -- The command computes with the formulas of the collection.
  have computed : (Snapshot.build found .empty).1.recompute collection
      (held.extend (Record.kept LineStore (Record.entered records payload)))
      (some payload.changes) none command.now =
        formulas.recompute (held.extend (Record.kept LineStore (Record.entered records payload)))
          (some payload.changes) none command.now := by
    rw [Snapshot.recompute, known]
  -- Only now the command itself is opened: its steps are the ones above.
  obtain ⟨format, performed⟩ := command.exists_perform collection opened
  obtain ⟨text, done⟩ := exists_runPutRecord { workspace with now := command.now } format
    opened read spelled put readBack computed updated
  obtain ⟨keeps, same⟩ := keeps_project opened put updated
  have performed := performed.trans done
  refine ⟨id, before, held, after, other, ⟨?_, ?_, ?_, ?_, around, named, namedToo, ?_, pass⟩⟩
  all_goals rw [performed]
  · exact keeps
  · show Filled (project.records last.files) collection _
    rwa [same]

end PutCommand

/-- A workspace in which a project is opened, with its definitions, and in which the records of a
collection are kept up by their puts. -/
structure KeepsUp (project : Project) (found : List Definition) (formulas : CollectionFormulas)
    (collection : String) (puts : List Record) (workspace : Workspace) : Prop where
  opened : Project.openFrom workspace.files workspace.user workspace.directory = .ok project
  read : (project.definitions workspace.files).all = .ok found
  records : ∃ records, Filled (project.records workspace.files) collection records ∧
    AllKeptUp formulas puts records

namespace KeepsUp

variable {formulas : CollectionFormulas} {puts records : List Record} {command : PutCommand}

/-- A command that puts a record goes on keeping the records up. -/
theorem put (keepsUp : KeepsUp project found formulas collection puts workspace)
    (known : (Snapshot.build found .empty).1.collection? collection = some formulas)
    (acyclic : formulas.graph.Acyclic) (timeless : formulas.Timeless)
    (noId : formulas.graph.contains idField = false)
    (spelled : Record.read? command.data = some payload)
    (loaded : (project.records workspace.files).records collection = .ok records)
    (fits : PutFits formulas command.now (project.records workspace.files) collection records
      payload) :
    KeepsUp project found formulas collection
      (Record.kept LineStore (Record.entered records payload) :: puts)
      (command.perform collection workspace).2 := by
  obtain ⟨held, filled, all⟩ := keepsUp.records
  -- The records that fit are the ones that the workspace holds.
  cases filled.loaded.symm.trans loaded
  obtain ⟨id, before, held, after, other, done⟩ := PutCommand.exists_putDone keepsUp.opened
    keepsUp.read known noId filled spelled fits
  refine ⟨?_, done.keeps.definitions_all.trans keepsUp.read, _, done.filled, ?_⟩
  · rw [done.user, done.directory]
    exact done.keeps.openFrom keepsUp.opened
  · -- The new put comes before the earlier ones of the same record.
    exact all.after_put done.around done.named done.namedToo fun _ kept =>
      done.pass.keptUp acyclic timeless noId kept

/-- A command that is refused leaves the records kept up. -/
theorem refused (keepsUp : KeepsUp project found formulas collection puts workspace)
    (unread : Record.read? command.data = none) :
    KeepsUp project found formulas collection puts (command.perform collection workspace).2 := by
  -- A payload that does not read ends the command before anything is stored.
  obtain ⟨format, performed⟩ := command.exists_perform collection keepsUp.opened
  obtain ⟨e, failed⟩ := exists_runPutRecord_of_unread { workspace with now := command.now } format
    collection keepsUp.opened keepsUp.read unread
  rw [performed, failed]
  exact ⟨keepsUp.opened, keepsUp.read, keepsUp.records⟩

end KeepsUp

namespace PutRun

variable {formulas : CollectionFormulas} {puts : List Record} {initial : Workspace}

/-- After commands that put records into a collection that was empty at first, every record is one
that was put, and the full pass over it updates only fields that may lag. Such a field is fed by one
that no put of the record has attended to, or that the record holds in another form; without one the
record is settled. -/
theorem keeps_records_up
    (opened : Project.openFrom initial.files initial.user initial.directory = .ok project)
    (read : (project.definitions initial.files).all = .ok found)
    (known : (Snapshot.build found .empty).1.collection? collection = some formulas)
    (acyclic : formulas.graph.Acyclic) (timeless : formulas.Timeless)
    (noId : formulas.graph.contains idField = false)
    (blank : (project.records initial.files).records collection = .ok [])
    (writable : RecordShelf.Writable (project.records initial.files) collection)
    (run : PutRun project formulas collection initial puts workspace) :
    ∃ records, (project.records workspace.files).records collection = .ok records ∧
      ∀ record ∈ records, (∃ put ∈ puts, put.id? = record.id?) ∧ ∀ now,
        (∀ field v, (formulas.recompute record none none now).updates.get? field = some v →
          formulas.MayLag (puts.filter (·.id? = record.id?)) record now field) ∧
        ((∀ field, ¬ formulas.MayLag (puts.filter (·.id? = record.id?)) record now field) →
          formulas.IsSettled record now) := by
  -- Induction over the run: every command keeps what held before it.
  have keepsUp : KeepsUp project found formulas collection puts workspace := by
    induction run with
    -- Without a record there is nothing to keep up.
    | initial =>
      refine ⟨opened, read, [], .of_blank blank writable, ⟨?_, ?_, ?_⟩⟩
      all_goals exact List.forall_mem_nil _
    | put _ command spelled loaded fits ih =>
      exact ih.put known acyclic timeless noId spelled loaded fits
    | refused _ command unread ih => exact ih.refused unread
  -- What is kept for each record says what may still lag behind.
  obtain ⟨records, filled, all⟩ := keepsUp.records
  refine ⟨records, filled.loaded, fun record member => ⟨all.own record member, fun now => ?_⟩⟩
  have lags := (all.each record member).lags now
  refine ⟨lags, fun plain => ?_⟩
  -- A field that is updated may lag, and here none may.
  rw [CollectionFormulas.IsSettled, Outcome.hasChanges_eq_false_iff]
  intro field
  refine Option.eq_none_iff_forall_ne_some.2 fun v updated => plain field (lags field v updated)

/-- A collection with the field that tells whether an order is open. -/
def openOrders : CollectionFormulas :=
  ⟨"orders", [CollectionFormulas.openField]⟩

/-- The directory of a project whose definitions are the one of that field. -/
def shop : Workspace :=
  let line := "\x7b\"collection_cible\":\"orders\",\"champ_cible\":\"open\"," ++
    "\"formula\":\"NOT \x7b\x7bclosed\x7d\x7d\"\x7d\n"
  let entries := [(["shop"], .directory), (["shop", ".recalc"], .directory),
    (["shop", ".recalc", "formulas.jsonl"], .text line)]
  ⟨⟨entries⟩, [], .ofNames ["shop"], none, .midnight 0, ""⟩

/-- The project of the directory. -/
def shopProject : Project :=
  ⟨.ofNames ["shop"], .default⟩

/-- The project is opened in its directory. -/
theorem openFrom_shop : Project.openFrom shop.files shop.user shop.directory = .ok shopProject := by
  refine Project.openFrom_eq_ok_iff.2 ⟨?_, ⟨.text, ?_⟩, ?_⟩
  all_goals decide +kernel

/-- The definition is read. -/
theorem definitions_shop :
    (shopProject.definitions shop.files).all = .ok [CollectionFormulas.openField.definition] := by
  decide +kernel

/-- The definition is compiled. -/
theorem collection?_openField :
    (Snapshot.build [CollectionFormulas.openField.definition] .empty).1.collection? "orders" =
      some openOrders := by
  have selected : (Selection.ofDefinitions
      [CollectionFormulas.openField.definition]).formulas =
        [CollectionFormulas.openField.definition] := by
    cbv
  -- The single definition is calculated, and its formula compiles.
  have given : calculatedOf [CollectionFormulas.openField.definition] "orders" =
      [CollectionFormulas.openField] := by
    rw [calculatedOf, selected]
    simp only [List.filterMap_cons, List.filterMap_nil, CalculatedField.calculated?_definition]
    rfl
  exact Snapshot.collection?_build_eq_some_iff.2 ⟨by simp [given], by rw [given]; rfl⟩

/-- There are no orders yet. -/
theorem records_shop : (shopProject.records shop.files).records "orders" = .ok [] := by
  rw [LineStore.records_eq rfl]
  rfl

/-- Orders can be written: the directory of records is made when it is needed. -/
theorem writable_shop : RecordShelf.Writable (shopProject.records shop.files) "orders" := by
  -- The directories can be made, and the draft has a free name beside the file.
  have room : ∃ ready,
      shop.files.makeDirectories (Project.recordDirectory shopProject.root) = .ok ready ∧
        LineFile.TakesDraft ⟨Project.recordDirectory shopProject.root, "orders"⟩ ready :=
    ⟨_, rfl, by decide +kernel, by decide +kernel, by decide +kernel⟩
  obtain ⟨ready, made, takes⟩ := room
  exact fun records => ⟨_, LineStore.saveAll_eq_ok_iff.2
    ⟨rfl, _, LineFile.writeItems_eq_ok_iff.2 ⟨ready, made, takes, rfl⟩, rfl⟩⟩

/-- The one field reads no other. -/
theorem acyclic_openOrders : openOrders.graph.Acyclic :=
  DependencyGraph.acyclic_of_cycles_eq_nil (by cbv)

/-- The one formula does not ask the time. -/
theorem timeless_openOrders : openOrders.Timeless := by
  -- The only formula negates a field and calls no function.
  refine List.forall_mem_singleton.2 ⟨fun args inside => ?_, fun args inside => ?_⟩
  all_goals
    obtain _ | inside := inside
    cases inside

/-- The field is the only one that is calculated. -/
theorem contains_openOrders {field : String} :
    openOrders.graph.contains field = true ↔ field = "open" := by
  rw [CollectionFormulas.contains_graph]
  show (FieldMap.get? (.insert .empty _ _) _).isSome = true ↔ _
  -- The graph has the one node.
  rw [FieldMap.get?_insert]
  split <;> simp_all [CollectionFormulas.openField, CalculatedField.name]

/-- The field has a truth value whatever the record is. -/
theorem attempt_openOrders (record computed : Record) (now : Instant) :
    openOrders.attempt record now computed "open" =
      some ⟨"open",
        .ok (.bool !((computed.get? "closed").getD (record.field "closed")).isTruthy)⟩ := by
  rw [← Record.reading_overlaid record computed now]
  rfl

/-- A pass updates the field with a truth value only, and so with no number. -/
theorem numbers_openOrders (record : Record) (changed : Option (List String)) (now : Instant) :
    ∀ x, x ∉ (openOrders.recompute record changed none now).updates.numbers := by
  -- A number among the updates would be the value of an attempt.
  intro x member
  obtain ⟨⟨field, v⟩, inside, number⟩ := List.mem_flatMap.1 member
  obtain ⟨made, _⟩ :=
    CollectionFormulas.get?_updates_recompute.1 (FieldMap.get?_eq_some_iff.2 inside)
  -- The only field that is scheduled is the one whose attempt is known.
  have scheduled := CollectionFormulas.field_mem_of_mem_attemptsFrom made
  cases contains_openOrders.1 (CollectionFormulas.contains_of_mem_schedule scheduled)
  obtain ⟨before, tried⟩ := CollectionFormulas.exists_attempt_of_mem made
  -- That value is a truth value.
  cases (attempt_openOrders record before now).symm.trans tried
  cases number

/-- A record with one text. -/
def textOrder (name text : String) : Record :=
  .ofList [(name, .string text)]

/-- A command that puts a record with one text, none of whose characters is escaped. -/
def putText (name text : String) : PutCommand :=
  ⟨none, "\x7b\"" ++ name ++ "\":\"" ++ text ++ "\"\x7d", .midnight 0⟩

/-- The command is read as the record that its data is the line of. -/
theorem read?_putText {name text : String}
    (line : (textOrder name text).toJson.write = (putText name text).data) :
    Record.read? (putText name text).data = some (textOrder name text) := by
  -- The line is the record as it is written, and reading undoes writing.
  rw [← line, Record.read?_write]
  · rfl
  · exact List.forall_mem_singleton.2 trivial
  · exact List.forall_mem_singleton.2 (List.forall_mem_nil _)

/-- As a first order, the record fits. -/
theorem fits_textOrder (name text : String) (now : Instant) :
    PutFits openOrders now (shopProject.records shop.files) "orders" [] (textOrder name text) where
  given x member := by
    -- Neither the payload nor any update has a number.
    obtain ⟨e, inside, number⟩ := List.mem_flatMap.1 member
    cases List.mem_singleton.1 inside
    cases number
  assignable _ := ⟨by decide +kernel, List.forall_mem_nil _⟩
  computed _ _ record _ _ x member := absurd member (numbers_openOrders record _ now x)

/-- The id is not calculated. -/
theorem not_contains_id : openOrders.graph.contains idField = false :=
  Bool.eq_false_iff.2 fun calculated => nomatch contains_openOrders.1 calculated

/-- A put of an order with a customer leaves the field out, because nothing feeds it that the put
names. The full pass over the order that is stored updates the field at every clock. -/
theorem unsettled_after_put :
    Project.openFrom shop.files shop.user shop.directory = .ok shopProject ∧
      (shopProject.definitions shop.files).all =
        .ok [CollectionFormulas.openField.definition] ∧
      (Snapshot.build [CollectionFormulas.openField.definition] .empty).1.collection? "orders" =
        some openOrders ∧
      openOrders.graph.Acyclic ∧ openOrders.Timeless ∧
      openOrders.graph.contains idField = false ∧
      (shopProject.records shop.files).records "orders" = .ok [] ∧
      ((putText "customer" "Ann").perform "orders" shop).1 = .ok () ∧
      ∃ order, (shopProject.records
          ((putText "customer" "Ann").perform "orders" shop).2.files).records "orders" =
            .ok [order] ∧
        ∀ now, ¬ openOrders.IsSettled order now := by
  obtain ⟨id, before, held, after, order, done⟩ := PutCommand.exists_putDone openFrom_shop
    definitions_shop collection?_openField not_contains_id (.of_blank records_shop writable_shop)
    (read?_putText (by decide +kernel)) (fits_textOrder "customer" "Ann" _)
  -- The collection was blank, so the order is its only record.
  obtain ⟨rfl, rfl, rfl⟩ := done.around.eq_of_eq_nil rfl
  refine ⟨openFrom_shop, definitions_shop, collection?_openField, acyclic_openOrders,
    timeless_openOrders, not_contains_id, records_shop, done.ended, order, done.filled.loaded,
    fun now settled => ?_⟩
  -- The pass over the customer has no field at all.
  have nothing : openOrders.schedule (some (textOrder "customer" "Ann").changes) none = [] := by
    cbv
  have blank : order.field "open" = .null :=
    done.pass.field_eq (by decide) (by decide +kernel) (by rw [nothing]; exact List.not_mem_nil)
  have whole : openOrders.schedule none none = ["open"] := by
    cbv
  -- A pass over all fields has the field, and gives it a truth value.
  have made : ⟨"open", .ok (.bool !(order.field "closed").isTruthy)⟩ ∈
      openOrders.attempts order now (openOrders.schedule none none) := by
    rw [whole]
    exact List.mem_append_left _ (Option.mem_toList.2 (attempt_openOrders order .empty now))
  have updated := CollectionFormulas.get?_updates_recompute.2 ⟨made, by rw [blank]; rfl⟩
  rw [Outcome.hasChanges_eq_false_iff.1 settled "open"] at updated
  cases updated

/-- An order that is put with what feeds the field is settled, also after a command that is refused,
unless it holds the field in another form. -/
theorem keeps_records_up_orders :
    ∃ orders, (shopProject.records ((⟨none, "[]", .midnight 1⟩ : PutCommand).perform "orders"
        ((putText "closed" "no").perform "orders" shop).2).2.files).records "orders" =
          .ok orders ∧
      ∀ order ∈ orders, ∀ now, ¬ openOrders.HeldOtherwise order now "open" →
        openOrders.IsSettled order now := by
  have run : PutRun shopProject openOrders "orders" shop _ _ :=
    .put .initial (putText "closed" "no") (read?_putText (by decide +kernel)) records_shop
      (fits_textOrder "closed" "no" _)
  obtain ⟨orders, loaded, each⟩ := keeps_records_up openFrom_shop definitions_shop
    collection?_openField acyclic_openOrders timeless_openOrders not_contains_id records_shop
    writable_shop (run.refused ⟨none, "[]", .midnight 1⟩ (by decide +kernel))
  refine ⟨orders, loaded, fun order member now formless => ?_⟩
  -- The order comes from the one put, which touched the field that is read.
  obtain ⟨⟨put, among, same⟩, lags⟩ := each order member
  cases List.mem_singleton.1 among
  refine (lags now).2 fun field => ?_
  rintro ⟨source, calculated, feeds, unattended | lagging⟩
  · cases contains_openOrders.1 calculated
    refine unattended ?_
    rw [List.filter_cons_of_pos (by simpa using same)]
    -- So the field was computed when the order was put.
    refine .touched ⟨"closed", ?_, by decide, .single ?_⟩
    · decide +kernel
    · rw [CollectionFormulas.dependencies_graph (f := CollectionFormulas.openField) rfl]
      decide +kernel
  · cases contains_openOrders.1 calculated
    exact formless lagging

end PutRun

end CalcFields
