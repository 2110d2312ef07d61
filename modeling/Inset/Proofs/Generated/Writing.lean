import Inset.Generated
import Inset.Proofs.FileTree.Store

/-!
# Writing generated files into a file tree

The files of a list are written one after the other, and the tree changes on the
way.  Several of them may lead to one location, by repetition, through `..` or
through links.  When all of them are written, every one leads to a file, and a
location holds the last of those that lead to it (`exists_last_of_written`).
-/

namespace Inset

open FileTree

variable {tree before after : FileTree} {root : Path}

/-! ## One file -/

namespace GeneratedFile

/-- Writing one file, in steps. -/
theorem run_write (file : GeneratedFile) (root : Path) (tree : FileTree) :
    (file.write root : StateM FileTree _).run tree =
      match tree.textAt (root.join file.path) with
      | .error error => (.error error, tree)
      | .ok existing =>
          if existing = some file.content then (.ok .unchanged, tree)
          else
            match (Files.writeCreating (root.join file.path) file.content :
              StateM FileTree _).run tree with
            | (.error error, after) => (.error error, after)
            | (.ok (), after) => (.ok .written, after) := by
  rw [write, run_bind (run_readIfExists tree (root.join file.path))]
  cases tree.textAt (root.join file.path) with
  | error error => rfl
  | ok existing =>
      simp only
      split
      · rfl
      · rcases ran : (Files.writeCreating (root.join file.path) file.content :
          StateM FileTree _).run tree with ⟨result, after⟩
        rw [run_bind ran]
        cases result <;> rfl

/-- The directories that may have to be made for a file. -/
def parents (root : Path) (file : GeneratedFile) : List Path :=
  (parentPath (root.join file.path)).ancestors

/-- A file that is written or up to date is found under its path, and nothing else
has changed. -/
theorem grows_of_write_ok {file : GeneratedFile} {change : Change}
    (ran : (file.write root : StateM FileTree _).run tree = (.ok change, after)) :
    ∃ location,
      after.resolve .look (root.join file.path) =
        .ok (.found location (.file file.content.toUTF8) false) ∧
      Grows tree after (· = location) (after.IsReached (file.parents root)) := by
  rw [run_write] at ran
  split at ran
  · cases ran
  · next existing read =>
    split at ran
    · next upToDate =>
      cases ran
      rw [upToDate, textAt_eq_some_iff_resolve] at read
      rcases read with ⟨location, found⟩
      exact ⟨location, found, .refl tree⟩
    · split at ran
      · cases ran
      · next writing =>
        cases ran
        exact grows_of_writeCreating_ok writing

/-- A file is written if what is there can be read, the directories above it can be
made, and it can be put there then. -/
theorem exists_run_write {file : GeneratedFile} {existing : Option String}
    {middle : FileTree} (read : tree.textAt (root.join file.path) = .ok existing)
    (made : (if (parentPath (root.join file.path)).text = "" then (.ok (), tree)
      else (Files.makeDirectories (parentPath (root.join file.path)) :
        StateM FileTree _).run tree) = (.ok (), middle))
    (writing : middle.writeBytes (root.join file.path) file.content.toUTF8 = .ok after) :
    ∃ change last, (file.write root : StateM FileTree _).run tree = (.ok change, last) := by
  rw [run_write, read, run_writeCreating, made]
  simp only [writing]
  split
  · exact ⟨_, _, rfl⟩
  · exact ⟨_, _, rfl⟩

end GeneratedFile

/-! ## A list of files -/

/-- Writing a list of files, one step of the recursion. -/
theorem run_writeGenerated_cons (root : Path) (file : GeneratedFile)
    (rest : List GeneratedFile) (tree : FileTree) :
    (writeGenerated root (file :: rest) : StateM FileTree _).run tree =
      match (file.write root : StateM FileTree _).run tree with
      | (.error error, after) => (⟨[], some error⟩, after)
      | (.ok change, after) =>
          let (report, last) := (writeGenerated root rest : StateM FileTree _).run after
          (report.after (root.join file.path) change, last) := by
  rw [writeGenerated]
  rcases ran : (file.write root : StateM FileTree _).run tree with ⟨result, after⟩
  rw [run_bind ran]
  cases result <;> rfl

/-- The steps of writing a list of files without a failure. -/
theorem exists_of_writeGenerated_cons {file : GeneratedFile} {rest : List GeneratedFile}
    {report : WriteReport}
    (ran : (writeGenerated root (file :: rest) : StateM FileTree _).run tree =
      (report, after))
    (succeeded : report.failure = none) :
    ∃ change middle restReport,
      (file.write root : StateM FileTree _).run tree = (.ok change, middle) ∧
      (writeGenerated root rest : StateM FileTree _).run middle = (restReport, after) ∧
      restReport.failure = none ∧ report = restReport.after (root.join file.path) change := by
  rw [run_writeGenerated_cons] at ran
  split at ran
  · cases ran
    contradiction
  · next change middle first =>
    rcases later : (writeGenerated root rest : StateM FileTree _).run middle
      with ⟨restReport, last⟩
    rw [later] at ran
    cases ran
    exact ⟨change, middle, restReport, first, later, succeeded, rfl⟩

theorem failure_eq_none_of_outcome {report : WriteReport} {summary : WriteSummary}
    (succeeded : report.outcome = .ok summary) : report.failure = none := by
  rw [WriteReport.outcome] at succeeded
  split at succeeded
  · contradiction
  · assumption

theorem failure_eq_some_of_outcome {report : WriteReport} {error : IoError}
    (failed : report.outcome = .error error) : report.failure = some error := by
  rw [WriteReport.outcome] at failed
  split at failed
  · next failure => rw [failure, Except.error.inj failed]
  · contradiction

/-- The files of a list that lead to a location. -/
def filesAt (tree : FileTree) (root : Path) (files : List GeneratedFile)
    (location : Location) : List GeneratedFile :=
  files.filter fun file => tree.location? (root.join file.path) = some location

theorem mem_filesAt {files : List GeneratedFile} {location : Location} {file : GeneratedFile} :
    file ∈ filesAt tree root files location ↔
      file ∈ files ∧ tree.location? (root.join file.path) = some location := by
  simp [filesAt]

/-- The directories that may have to be made for the files of a list. -/
def parentsOf (root : Path) (files : List GeneratedFile) : List Path :=
  files.flatMap (GeneratedFile.parents root)

theorem parentsOf_cons (root : Path) (file : GeneratedFile) (rest : List GeneratedFile) :
    parentsOf root (file :: rest) = file.parents root ++ parentsOf root rest :=
  rfl

theorem filesAt_cons_of_eq {file : GeneratedFile} {rest : List GeneratedFile}
    {location : Location} (leads : tree.location? (root.join file.path) = some location) :
    filesAt tree root (file :: rest) location = file :: filesAt tree root rest location :=
  List.filter_cons_of_pos (by simpa using leads)

theorem getLast?_filesAt_cons {file : GeneratedFile} {rest : List GeneratedFile}
    {location : Location} (present : filesAt tree root rest location ≠ []) :
    (filesAt tree root (file :: rest) location).getLast? =
      (filesAt tree root rest location).getLast? := by
  by_cases leads : tree.location? (root.join file.path) = some location
  · rw [filesAt_cons_of_eq leads, List.getLast?_cons_of_ne_nil present]
  · rw [filesAt, List.filter_cons_of_neg (by simpa using leads), filesAt]

theorem filesAt_cons_ne_nil {file : GeneratedFile} {rest : List GeneratedFile}
    {location : Location} (present : filesAt tree root rest location ≠ []) :
    filesAt tree root (file :: rest) location ≠ [] := by
  rcases List.exists_mem_of_ne_nil _ present with ⟨other, member⟩
  rw [mem_filesAt] at member
  exact List.ne_nil_of_mem
    (mem_filesAt.mpr ⟨List.mem_cons_of_mem file member.1, member.2⟩)

/-- Writing files writes only where they lead. -/
theorem grows_of_writeGenerated {files : List GeneratedFile} {report : WriteReport}
    (ran : (writeGenerated root files : StateM FileTree _).run tree = (report, after))
    (succeeded : report.failure = none) :
    Grows tree after (fun location => filesAt after root files location ≠ [])
      (after.IsReached (parentsOf root files)) := by
  induction files generalizing tree report with
  | nil =>
      cases ran
      exact .refl _
  | cons file rest ih =>
      rcases exists_of_writeGenerated_cons ran succeeded with
        ⟨change, middle, restReport, first, later, restSucceeded, _⟩
      rcases GeneratedFile.grows_of_write_ok first with ⟨location, found, firstGrows⟩
      have restGrows := ih later restSucceeded
      have leads : after.location? (root.join file.path) = some location :=
        location?_of_grows restGrows (location?_eq_some found)
      refine (firstGrows.mono ?_ ?_).trans (restGrows.mono ?_ ?_)
      · rintro _ rfl
        rw [filesAt_cons_of_eq leads]
        exact List.cons_ne_nil _ _
      · intro other reached
        rcases reached.of_grows restGrows with ⟨path, member, leads⟩
        exact ⟨path, by simp [parentsOf_cons, member], leads⟩
      · exact fun other present => filesAt_cons_ne_nil present
      · rintro other ⟨path, member, leads⟩
        exact ⟨path, by simp [parentsOf_cons, member], leads⟩

/-- When files are written, every one leads to a file. -/
theorem exists_file_of_written {files : List GeneratedFile} {report : WriteReport}
    (ran : (writeGenerated root files : StateM FileTree _).run tree = (report, after))
    (succeeded : report.failure = none) {file : GeneratedFile} (member : file ∈ files) :
    ∃ location bytes, after.resolve .look (root.join file.path) =
      .ok (.found location (.file bytes) false) := by
  induction files generalizing tree report with
  | nil => contradiction
  | cons head rest ih =>
      rcases exists_of_writeGenerated_cons ran succeeded with
        ⟨change, middle, restReport, first, later, restSucceeded, _⟩
      rcases List.mem_cons.mp member with rfl | inRest
      · rcases GeneratedFile.grows_of_write_ok first with ⟨location, found, _⟩
        have restGrows := grows_of_writeGenerated later restSucceeded
        rcases restGrows.file (get?_of_resolve found) with ⟨bytes, entry⟩
        exact ⟨location, bytes, resolve_file_of_grows restGrows found rfl entry⟩
      · exact ih later restSucceeded inRest

/-- When files are written, a location holds the last of those that lead there. -/
theorem get?_of_written {files : List GeneratedFile} {report : WriteReport}
    (ran : (writeGenerated root files : StateM FileTree _).run tree = (report, after))
    (succeeded : report.failure = none) {location : Location} {last : GeneratedFile}
    (isLast : (filesAt after root files location).getLast? = some last) :
    after.get? location = some (.file last.content.toUTF8) := by
  induction files generalizing tree report with
  | nil => simp [filesAt] at isLast
  | cons head rest ih =>
      rcases exists_of_writeGenerated_cons ran succeeded with
        ⟨change, middle, restReport, first, later, restSucceeded, _⟩
      by_cases untouched : filesAt after root rest location = []
      · -- Only the head leads here, and the rest leaves it as it was written.
        rcases GeneratedFile.grows_of_write_ok first with ⟨there, found, _⟩
        have restGrows := grows_of_writeGenerated later restSucceeded
        have leads : after.location? (root.join head.path) = some there :=
          location?_of_grows restGrows (location?_eq_some found)
        have lastMember := mem_filesAt.mp (List.mem_of_getLast? isLast)
        obtain rfl : head = last := by
          rcases List.mem_cons.mp lastMember.1 with same | inRest
          · exact same.symm
          · have inRest := mem_filesAt.mpr ⟨inRest, lastMember.2⟩
            simp [untouched] at inRest
        obtain rfl : there = location := Option.some.inj (leads.symm.trans lastMember.2)
        have entry := get?_of_resolve found
        rw [(restGrows there).eq_of_ne_none (by simpa using untouched) (by simp [entry])]
        exact entry
      · rw [getLast?_filesAt_cons untouched] at isLast
        exact ih later restSucceeded isLast

/-- When files are written, every one leads to a file, and that file holds what the
last of those that lead there is to hold. -/
theorem exists_last_of_written {files : List GeneratedFile} {report : WriteReport}
    (ran : (writeGenerated root files : StateM FileTree _).run tree = (report, after))
    (succeeded : report.failure = none) {file : GeneratedFile} (member : file ∈ files) :
    ∃ location last, (filesAt after root files location).getLast? = some last ∧
      after.resolve .look (root.join file.path) =
        .ok (.found location (.file last.content.toUTF8) false) := by
  rcases exists_file_of_written ran succeeded member with ⟨location, bytes, resolved⟩
  have here : file ∈ filesAt after root files location :=
    mem_filesAt.mpr ⟨member, location?_eq_some resolved⟩
  obtain ⟨last, isLast⟩ : ∃ last, (filesAt after root files location).getLast? = some last :=
    Option.isSome_iff_exists.mp (List.getLast?_isSome.mpr (List.ne_nil_of_mem here))
  have written := get?_of_written ran succeeded isLast
  rw [get?_of_resolve resolved, Option.some.injEq] at written
  rw [written] at resolved
  exact ⟨location, last, isLast, resolved⟩

end Inset
