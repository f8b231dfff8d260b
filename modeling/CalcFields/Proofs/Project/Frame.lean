import CalcFields.Project.Basic
import CalcFields.Proofs.Store.Keeping

/-!
Saving records leaves the project around them: it is found from the same directories, and has the
same settings and definitions.
-/

namespace CalcFields

namespace Project

variable {files later : Files} {root path : Path} {user : Option String} {project : Project}

/-- The root that is found lies on the way to where the search starts, and is one. -/
theorem of_find? (found : find? files path = some root) :
    root.names <+: path.names ∧ isRoot files root = true := by
  -- Induction on the search upwards.
  fun_induction find? files path with
  | case1 path here =>
    cases found
    exact ⟨List.prefix_rfl, here⟩
  | case2 => cases found
  | case3 path _ directory above ih =>
    obtain ⟨onTheWay, isRoot⟩ := ih found
    refine ⟨onTheWay.trans ?_, isRoot⟩
    -- The names of a parent are the path's without the last one.
    simp only [Path.parent?] at above
    split at above
    · cases above
    · cases above
      exact List.dropLast_prefix _

/-- A project is opened where its root is found, when the user's own settings and those of the
project can be read. -/
theorem openFrom_eq_ok_iff :
    openFrom files user path = .ok project ↔
      find? files path = some project.root ∧ (∃ format, userFormat user = .ok format) ∧
        loadSettings files project.root = .ok project.settings := by
  obtain ⟨root, settings⟩ := project
  unfold openFrom
  -- The search has checked already that the root is one.
  cases found : find? files path with
  | none => simp
  | some other =>
    have here : (!isRoot files other) = false := by rw [(of_find? found).2, Bool.not_true]
    simp only [openAt, here, Bool.false_eq_true, if_false, bind_eq_ok_iff, pure, Except.pure,
      Except.ok.injEq, mk.injEq, Option.some.injEq]
    -- What is left are the two settings files, read one after the other.
    constructor
    · rintro ⟨format, usual, held, loaded, rfl, rfl⟩
      exact ⟨rfl, ⟨format, usual⟩, loaded⟩
    · rintro ⟨rfl, ⟨format, usual⟩, loaded⟩
      exact ⟨format, usual, _, loaded, rfl, rfl⟩

/-- A tree has a project where another one has it: with the same settings and definitions, and no
other root on the way up to it. -/
structure Keeps (root : Path) (files later : Files) : Prop where
  settings : later.node? (settingsFile root).names = files.node? (settingsFile root).names
  definitions : later.node? (definitionFile root).path.names =
    files.node? (definitionFile root).path.names
  roots : ∀ path : Path, root.names <+: path.names → isRoot later path = isRoot files path

namespace Keeps

/-- The root is found again. -/
theorem find? (keeps : Keeps root files later) (found : Project.find? files path = some root) :
    Project.find? later path = some root := by
  -- Induction on the search, every step of which stays above the path.
  have inside := (of_find? found).1
  fun_induction Project.find? files path with
  | case1 path here =>
    cases found
    rw [Project.find?, keeps.roots _ inside, if_pos here]
  | case2 => cases found
  | case3 path away directory above ih =>
    rw [Project.find?, keeps.roots _ inside, if_neg away, above]
    exact ih found (of_find? found).1

/-- The settings are loaded again. -/
theorem loadSettings (keeps : Keeps root files later) :
    Project.loadSettings later root = Project.loadSettings files root := by
  unfold Project.loadSettings Files.contains Files.read
  -- Where nothing stands the settings are the usual ones, and what blocks the way does not matter.
  cases there : files.node? (settingsFile root).names with
  | none => simp [keeps.settings, there]
  | some node => cases node <;> simp [keeps.settings, there]

/-- The project is opened again. -/
theorem openFrom (keeps : Keeps project.root files later)
    (opened : Project.openFrom files user path = .ok project) :
    Project.openFrom later user path = .ok project := by
  -- The user's settings lie outside the project, and its own are kept.
  rw [openFrom_eq_ok_iff] at opened ⊢
  rw [keeps.loadSettings]
  exact ⟨keeps.find? opened.1, opened.2⟩

/-- The definitions are read again. -/
theorem definitions_all (keeps : Keeps project.root files later) :
    (project.definitions later).all = (project.definitions files).all :=
  LineFile.readItems_congr keeps.definitions

/-- What is kept step by step is kept. -/
theorem trans {last : Files} (first : Keeps root files later) (second : Keeps root later last) :
    Keeps root files last where
  settings := second.settings.trans first.settings
  definitions := second.definitions.trans first.definitions
  roots path inside := (second.roots path inside).trans (first.roots path inside)

end Keeps

/-- The places of a project's directory that stand beside its records. -/
theorem beside_records (root : Path) (name : String) {file : String} (differ : file ≠ "data") :
    let place := ((directoryOf root).child file).names
    let records : LineFile := ⟨recordDirectory root, name⟩
    place ≠ records.path.names ∧ place ≠ records.draft.names ∧
      ¬ place <+: (recordDirectory root).names := by
  intro place records
  -- Such a place lies two levels below the root.
  have size : place.length = root.names.length + 2 := by
    simp [place, directoryOf, Path.child]
  have sizeToo : (recordDirectory root).names.length = root.names.length + 2 := by
    simp [recordDirectory, directoryOf, Path.child]
  -- The files of records lie one level deeper.
  have above := records.ne_of_length_le (size.trans sizeToo.symm).le
  refine ⟨above.1, above.2, fun onTheWay => differ ?_⟩
  -- A place as deep as the directory of the records would be that directory.
  have same := onTheWay.eq_of_length (size.trans sizeToo.symm)
  exact List.singleton_inj.1 (List.append_cancel_left same)

/-- The directory of a project has another name than a file with another ending. -/
theorem directoryOf_ne {directory : Path} {name ending : String} (filled : ending.toList ≠ [])
    (other : directoryName.toList.getLast? ≠ ending.toList.getLast?) :
    (directoryOf path).names ≠ (directory.child (name ++ ending)).names := by
  -- Equal paths end in equal names, and these end in different letters.
  intro same
  have names : directoryName = name ++ ending :=
    List.singleton_inj.1 (List.append_inj_right' same rfl)
  rw [names, String.toList_append, List.getLast?_append_of_ne_nil _ filled] at other
  exact other rfl

/-- On the way to the records of a project there is no other project's directory below its root. -/
theorem beside_root (isRoot : Project.isRoot files root = true)
    (inside : root.names <+: path.names) :
    ¬ (directoryOf path).names <+: (recordDirectory root).names ∨
      (files.node? (directoryOf path).names).isSome = true := by
  obtain ⟨more, names⟩ := inside
  -- Below the root the directory lies as deep as the path goes.
  have place : (directoryOf path).names = root.names ++ (more ++ [directoryName]) := by
    show path.names ++ [directoryName] = _
    rw [← names, List.append_assoc]
  cases more with
  | nil =>
    -- The directory of the root itself is there already.
    have same : (directoryOf path).names = (directoryOf root).names := place
    rw [Project.isRoot, Files.isDirectory, beq_iff_eq] at isRoot
    rw [same, isRoot]
    exact .inr rfl
  | cons first rest =>
    refine .inl fun onTheWay => ?_
    have records : (recordDirectory root).names = root.names ++ [directoryName, "data"] :=
      List.append_assoc _ _ _
    rw [place, records, List.prefix_append_right_inj, List.cons_append,
      List.cons_prefix_cons] at onTheWay
    -- Such a directory would be the directory of the records.
    have last := onTheWay.2.subset (List.mem_append_right rest List.mem_cons_self)
    exact absurd (List.mem_singleton.1 last) (by decide)

/-- Writing a file of records leaves the project. -/
theorem keeps_of_writeItems {name : String} {records : List Record}
    (isRoot : Project.isRoot files root = true)
    (done : LineFile.writeItems ⟨recordDirectory root, name⟩ files records = .ok later) :
    Keeps root files later where
  settings := by
    have differ : "config.toml" ≠ "data" := by decide
    obtain ⟨noPath, noDraft, astray⟩ := beside_records root name differ
    exact LineFile.node?_of_writeItems done noPath noDraft (.inl astray)
  definitions := by
    have differ : "formulas.jsonl" ≠ "data" := by decide
    obtain ⟨noPath, noDraft, astray⟩ := beside_records root name differ
    exact LineFile.node?_of_writeItems done noPath noDraft (.inl astray)
  -- A root is told by its directory, which is none of the places of records.
  roots path inside := by
    have noPath : (directoryOf path).names ≠
        ((recordDirectory root).child (name ++ ".jsonl")).names :=
      directoryOf_ne (by decide) (by decide)
    have noDraft : (directoryOf path).names ≠
        ((recordDirectory root).child (name ++ ".jsonl.tmp")).names :=
      directoryOf_ne (by decide) (by decide)
    rw [Project.isRoot, Project.isRoot, Files.isDirectory, Files.isDirectory,
      LineFile.node?_of_writeItems done noPath noDraft (beside_root isRoot inside)]

/-- Saving the records of a project leaves the project. -/
theorem keeps_of_save {records : List Record} {collection : String} {saved : LineStore}
    (isRoot : Project.isRoot files project.root = true)
    (done : (project.records files).saveAll collection records = .ok saved) :
    Keeps project.root files saved.files ∧ project.records saved.files = saved := by
  obtain ⟨_, files, written, rfl⟩ := LineStore.saveAll_eq_ok_iff.1 done
  exact ⟨keeps_of_writeItems isRoot written, rfl⟩

end Project

end CalcFields
