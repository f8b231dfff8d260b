import CalcFields.Store.Lines
import Mathlib.Data.List.Basic

/-!
Replacing a line file writes a draft beside it and moves the draft over it: the file then has the
new text, no draft is left, and nothing else changes beside the directories on the way.
-/

namespace CalcFields

section Outcomes

variable {ε α β : Type} {x : Except ε α} {b : β}

/-- A step after another gives a result exactly when the first one does and the second one gives it
from there. -/
theorem bind_eq_ok_iff {f : α → Except ε β} :
    (x >>= f) = .ok b ↔ ∃ a, x = .ok a ∧ f a = .ok b := by
  cases x <;> simp [bind, Except.bind]

/-- A result that is changed was given before it was. -/
theorem map_eq_ok_iff {f : α → β} : x.map f = .ok b ↔ ∃ a, x = .ok a ∧ f a = b := by
  cases x <;> simp [Except.map]

end Outcomes

namespace Files

variable {files : Files} {names other : List String} {node : FileNode}

/-- A lookup takes the first entry when its place matches and goes on otherwise. -/
theorem lookup_cons_entry (names wanted : List String) (node : FileNode)
    (rest : List (List String × FileNode)) :
    ((names, node) :: rest).lookup wanted =
      if wanted = names then some node else rest.lookup wanted := by
  by_cases same : wanted = names
  · simp [same]
  · simp [List.lookup_cons, same, beq_false_of_ne same]

/-- A lookup finds nothing at a place whose entries were left out, and all else as before. -/
theorem lookup_filter_ne (entries : List (List String × FileNode)) (names wanted : List String) :
    (entries.filter fun entry => entry.1 ≠ names).lookup wanted =
      if wanted = names then none else entries.lookup wanted := by
  -- Induction on the entries.
  induction entries with
  | nil => simp
  | cons entry rest ih =>
    obtain ⟨place, node⟩ := entry
    rw [List.filter_cons, lookup_cons_entry]
    by_cases removed : place = names
    · subst removed
      rw [if_neg (by simp), ih]
      by_cases found : wanted = place <;> simp [found]
    · rw [if_pos (by simpa using removed), lookup_cons_entry, ih]
      by_cases found : wanted = place
      · subst found
        simp [removed]
      · simp [found]

/-- Nothing stands where a node was removed, and all else stays. -/
theorem node?_remove (inside : names ≠ []) (other : List String) :
    (files.remove names).node? other = if other = names then none else files.node? other := by
  -- The top is no entry, and stays a directory.
  unfold node?
  rw [remove, lookup_filter_ne]
  by_cases top : other = []
  · subst top
    simp [Ne.symm inside]
  · simp [top]

/-- A node stands where it was placed, and all else stays. -/
theorem node?_place (inside : names ≠ []) (node : FileNode) (other : List String) :
    (files.place names node).node? other =
      if other = names then some node else files.node? other := by
  -- Placing first removes what stood there.
  have lookup : (files.place names node).entries.lookup other =
      if other = names then some node else files.entries.lookup other := by
    rw [place, lookup_cons_entry, remove, lookup_filter_ne]
    by_cases same : other = names <;> simp [same]
  unfold node?
  rw [lookup]
  -- The top is always a directory, and nothing is placed there.
  by_cases top : other = []
  · subst top
    simp [Ne.symm inside]
  · simp [top]

/-- Making directories changes nothing but places on the way at which nothing stood. -/
theorem node?_of_makeDirectories {path : Path} {ready : Files}
    (made : files.makeDirectories path = .ok ready)
    (beside : ¬ other <+: path.names ∨ (files.node? other).isSome = true) :
    ready.node? other = files.node? other := by
  unfold makeDirectories at made
  split at made
  · cases made
    rfl
  · cases made
  · rename_i absent
    have inside : path.names ≠ [] := by
      intro top
      simp [node?, top] at absent
    split at made
    · cases made
    · cases made
      -- Each directory that is put in place is on the way, and stands where nothing stood.
      generalize List.range path.names.length = depths
      suffices kept : ∀ grown : Files, grown.node? other = files.node? other →
          (depths.foldl (fun grown depth => grown.grow (path.names.take (depth + 1)))
            grown).node? other = files.node? other from kept files rfl
      induction depths with
      | nil => exact fun grown same => same
      | cons depth depths ih =>
        intro grown same
        refine ih _ ?_
        simp only [grow]
        split
        · exact same
        · rename_i nothing
          rw [node?_place (by simp [inside]), if_neg, same]
          rintro rfl
          obtain astray | there := beside
          · exact astray (List.take_prefix _ _)
          · rw [same] at nothing
            exact nothing there

end Files

namespace LineFile

variable {α : Type} [LineItem α] {file : LineFile} {files saved : Files} {items : List α}

/-- The draft of a file stands beside the file. -/
theorem draft_ne_path (file other : LineFile) : file.draft.names ≠ other.path.names := by
  intro same
  have names := List.append_inj_right' same rfl
  -- One name ends in a letter that the other one does not end in.
  have last := congrArg (fun names => names.map fun name => name.toList.getLast?) names
  simp [List.getLast?_append] at last

/-- Files of different names in one directory are at different places. -/
theorem path_injective {file other : LineFile} (same : file.path.names = other.path.names) :
    file.name = other.name := by
  -- The ending is the same for all files.
  have names := List.append_inj_right' same rfl
  rw [List.singleton_inj] at names
  have chars := congrArg String.toList names
  rw [String.toList_append, String.toList_append] at chars
  exact String.toList_inj.1 (List.append_cancel_right chars)

/-- A draft can be written in a tree. -/
structure TakesDraft (file : LineFile) (ready : Files) : Prop where
  noDirectory : ready.isDirectory file.draft = false
  unblocked : ready.isBlocked file.draft.names = false
  directory : ready.node? file.directory.names = some .directory

/-- A text is written as a draft exactly where one can be written, and is placed there. -/
theorem write_draft_eq_ok_iff {ready written : Files} {text : String} :
    ready.write file.draft text = .ok written ↔
      file.TakesDraft ready ∧ ready.place file.draft.names (.text text) = written := by
  -- A text is written where no directory stands and nothing is in the way.
  have holder : file.draft.names.dropLast = file.directory.names := List.dropLast_concat
  unfold Files.write
  rw [holder]
  constructor
  · intro done
    split at done
    · cases done
    · rename_i noDirectory
      split at done
      · cases done
      · rename_i unblocked
        split at done
        · rename_i directory
          cases done
          exact ⟨⟨by simpa using noDirectory, by simpa using unblocked, by simpa using directory⟩,
            rfl⟩
        · cases done
  · rintro ⟨⟨noDirectory, unblocked, directory⟩, rfl⟩
    simp [noDirectory, unblocked, directory]

/-- Items are written exactly when the directory can be made and takes the draft, which is then
moved over the file. -/
theorem writeItems_eq_ok_iff :
    file.writeItems files items = .ok saved ↔
      ∃ ready, files.makeDirectories file.directory = .ok ready ∧ file.TakesDraft ready ∧
        (ready.place file.draft.names (.text (textOf items))).move file.draft file.path =
          saved := by
  unfold writeItems
  cases made : files.makeDirectories file.directory with
  | error fault => simp
  | ok ready =>
    cases done : ready.write file.draft (textOf items) with
    | error fault =>
      -- A directory that takes the draft would have let it be written.
      have refused : ¬ file.TakesDraft ready := fun takes => by
        rw [write_draft_eq_ok_iff.2 ⟨takes, rfl⟩] at done
        cases done
      simp [refused, done]
    | ok written =>
      obtain ⟨takes, rfl⟩ := write_draft_eq_ok_iff.1 done
      simp [takes, done]

/-- A file tree after the file got a new text in a tree whose directory was ready. -/
structure IsReplaced (file : LineFile) (ready : Files) (text : String) (saved : Files) : Prop where
  path : saved.node? file.path.names = some (.text text)
  draft : saved.node? file.draft.names = none
  beside : ∀ names, names ≠ file.path.names → names ≠ file.draft.names →
    saved.node? names = ready.node? names

/-- Moving a draft over the file replaces the file. -/
theorem isReplaced_move (file : LineFile) (ready : Files) (text : String) :
    file.IsReplaced ready text
      ((ready.place file.draft.names (.text text)).move file.draft file.path) := by
  have draftInside : file.draft.names ≠ [] := List.concat_ne_nil _ _
  have pathInside : file.path.names ≠ [] := List.concat_ne_nil _ _
  have found : (ready.place file.draft.names (.text text)).node? file.draft.names =
      some (.text text) := by
    rw [Files.node?_place draftInside, if_pos rfl]
  have moved (names : List String) :
      ((ready.place file.draft.names (.text text)).move file.draft file.path).node? names =
        if names = file.path.names then some (.text text)
        else if names = file.draft.names then none else ready.node? names := by
    -- The draft is taken away before its text is placed at the file.
    rw [Files.move, found]
    simp only
    rw [Files.node?_place pathInside, Files.node?_remove draftInside,
      Files.node?_place draftInside]
    split
    · rfl
    · split <;> rfl
  refine ⟨?_, ?_, ?_⟩
  · rw [moved, if_pos rfl]
  · rw [moved, if_neg (draft_ne_path file file), if_pos rfl]
  · -- Every other place is as it was.
    intro names noPath noDraft
    rw [moved, if_neg noPath, if_neg noDraft]

/-- Places no deeper than the directory of a file are neither the file nor its draft. -/
theorem ne_of_length_le {names : List String} (above : names.length ≤ file.directory.names.length) :
    names ≠ file.path.names ∧ names ≠ file.draft.names := by
  -- The file and its draft lie one level below the directory.
  have shallower (name : String) : names ≠ (file.directory.child name).names := by
    rintro rfl
    have deeper : (file.directory.child name).names.length = file.directory.names.length + 1 :=
      List.length_append
    omega
  exact ⟨shallower _, shallower _⟩

/-- A tree that took the drafts of a directory takes them again after a file in it was replaced. -/
theorem IsReplaced.takesDraft {ready : Files} {text : String}
    (replaced : file.IsReplaced ready text saved) {other : LineFile}
    (beside : other.directory = file.directory) (takes : other.TakesDraft ready) :
    other.TakesDraft saved := by
  -- So far up nothing has changed.
  have above {names : List String} (higher : names.length ≤ file.directory.names.length) :
      saved.node? names = ready.node? names :=
    replaced.beside names (ne_of_length_le higher).1 (ne_of_length_le higher).2
  refine ⟨?_, ?_, ?_⟩
  · -- The draft of the file is gone, and every other one is as it was.
    by_cases same : other.draft.names = file.draft.names
    · rw [Files.isDirectory, same, replaced.draft]
      rfl
    · rw [← takes.noDirectory, Files.isDirectory, Files.isDirectory,
        replaced.beside _ (draft_ne_path other file) same]
  · -- What stands on the way to the draft lies no deeper than its directory.
    have deep : other.draft.names.length = file.directory.names.length + 1 := by
      rw [← beside]
      exact List.length_append
    have higher {depth : Nat} (member : depth ∈ List.range other.draft.names.length) :
        (other.draft.names.take depth).length ≤ file.directory.names.length := by
      rw [List.mem_range] at member
      rw [List.length_take]
      omega
    rw [← takes.unblocked, Files.isBlocked, Files.isBlocked, Bool.eq_iff_iff, List.any_eq_true,
      List.any_eq_true]
    refine exists_congr fun depth => and_congr_right fun member => ?_
    rw [above (higher member)]
  · rw [above (Nat.le_of_eq (by rw [beside])), takes.directory]

/-- Writing items replaces the file in a tree whose directory is ready and takes the draft. -/
theorem isReplaced_of_writeItems (done : file.writeItems files items = .ok saved) :
    ∃ ready, files.makeDirectories file.directory = .ok ready ∧ file.TakesDraft ready ∧
      file.IsReplaced ready (textOf items) saved := by
  obtain ⟨ready, made, takes, rfl⟩ := writeItems_eq_ok_iff.1 done
  exact ⟨ready, made, takes, file.isReplaced_move ready (textOf items)⟩

/-- A file that takes some items takes others as well. -/
theorem exists_writeItems (done : file.writeItems files items = .ok saved) (others : List α) :
    ∃ again, file.writeItems files others = .ok again := by
  -- Whether the file can be written does not depend on the items.
  obtain ⟨ready, made, takes, _⟩ := isReplaced_of_writeItems done
  exact ⟨_, writeItems_eq_ok_iff.2 ⟨ready, made, takes, rfl⟩⟩

/-- A file that takes items still takes them after a file of its directory was written. -/
theorem exists_writeItems_after (done : file.writeItems files items = .ok saved)
    {other : LineFile} {able : List α} {written : Files}
    (takes : other.writeItems files able = .ok written) (beside : other.directory = file.directory)
    (others : List α) :
    ∃ again, other.writeItems saved others = .ok again := by
  obtain ⟨ready, made, _, replaced⟩ := isReplaced_of_writeItems done
  obtain ⟨readyToo, madeToo, otherTakes, _⟩ := isReplaced_of_writeItems takes
  -- Both files are written in the tree in which their directory is ready.
  rw [beside, made] at madeToo
  cases madeToo
  have stays := replaced.takesDraft beside otherTakes
  -- The directory is there by now, and need not be made again.
  have madeAgain : saved.makeDirectories other.directory = .ok saved := by
    rw [Files.makeDirectories, stays.directory]
  exact ⟨_, writeItems_eq_ok_iff.2 ⟨saved, madeAgain, stays, rfl⟩⟩

/-- A text at the place of a file is read by its lines. -/
theorem readItems_of_text {content : String}
    (there : files.node? file.path.names = some (.text content)) :
    (file.readItems files : Except StoreError (List α)) =
      file.itemsOf 1 (linesOf content.toList) := by
  simp only [readItems, Files.contains, Files.read, there]
  rfl

/-- A file that was written is read as the text of its items. -/
theorem readItems_of_writeItems (done : file.writeItems files items = .ok saved) :
    (file.readItems saved : Except StoreError (List α)) =
      file.itemsOf 1 (linesOf (textOf items).toList) := by
  obtain ⟨_, _, _, replaced⟩ := isReplaced_of_writeItems done
  exact readItems_of_text replaced.path

/-- What a file holds depends only on what stands at its place. -/
theorem readItems_congr (same : saved.node? file.path.names = files.node? file.path.names) :
    (file.readItems saved : Except StoreError (List α)) = file.readItems files := by
  unfold readItems Files.contains Files.read
  -- Where nothing stands there is nothing to read, and why not does not matter.
  cases there : files.node? file.path.names with
  | none => simp [same, there]
  | some node => cases node <;> simp [same, there]

/-- Writing a file changes nothing but the file, its draft, and places on the way at which nothing
stood. -/
theorem node?_of_writeItems (done : file.writeItems files items = .ok saved) {names : List String}
    (noPath : names ≠ file.path.names) (noDraft : names ≠ file.draft.names)
    (beside : ¬ names <+: file.directory.names ∨ (files.node? names).isSome = true) :
    saved.node? names = files.node? names := by
  obtain ⟨ready, made, _, replaced⟩ := isReplaced_of_writeItems done
  rw [replaced.beside names noPath noDraft, Files.node?_of_makeDirectories made beside]

/-- Writing a file leaves what the other files of its directory hold. -/
theorem readItems_of_writeItems_of_ne (done : file.writeItems files items = .ok saved)
    {other : LineFile} (beside : other.directory = file.directory)
    (differ : other.name ≠ file.name) :
    (other.readItems saved : Except StoreError (List α)) = other.readItems files := by
  -- The other file is no directory on the way, because it lies deeper than the directory does.
  have astray : ¬ other.path.names <+: file.directory.names := by
    intro onTheWay
    have shorter := onTheWay.length_le
    have deeper : other.path.names.length = file.directory.names.length + 1 := by
      rw [← beside]
      exact List.length_append
    omega
  -- Its own place was not written either.
  refine readItems_congr (node?_of_writeItems done ?_ ?_ (.inl astray))
  · exact fun same => differ (path_injective same)
  · exact Ne.symm (draft_ne_path file other)

end LineFile

end CalcFields
