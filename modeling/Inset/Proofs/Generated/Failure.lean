import Inset.Proofs.FileTree.Plain
import Inset.Proofs.Generated.Checking

/-!
# What writing leaves behind when it fails

Files are written one by one, up to the first that cannot be written.  The files before
it are written as if they had been alone in the list, and the failing file leaves nothing
but directories on the way to it (`writeGenerated_up_to_failure`).  Whether writing fails
or not, what was there stays, and only files to which a processed file of the list leads
change their bytes.
-/

namespace Inset

open FileTree

variable {tree before after : FileTree} {root : Path}

/-! ## What may change -/

namespace FileTree

/-- Whether nothing happens between two trees but that directories are made, without
files in them, where some paths lead. -/
structure OnlyDirectories (before after : FileTree) (paths : List Path) : Prop where
  kept : ∀ location, before.get? location ≠ none →
    after.get? location = before.get? location
  made : ∀ location, before.get? location = none → after.get? location ≠ none →
    after.get? location = some .directory ∧ after.IsReached paths location
  noFile : ∀ location, before.get? location = none → ∀ inner bytes, location <:+ inner →
    after.get? inner ≠ some (.file bytes)

/-- Whether the directories and links of a tree are there still, and its files with their
bytes, except that files at some locations may have got other bytes. -/
structure Keeps (before after : FileTree) (written : Location → Prop) : Prop where
  directory : ∀ location, before.get? location = some .directory →
    after.get? location = some .directory
  link : ∀ location path, before.get? location = some (.link path) →
    after.get? location = some (.link path)
  file : ∀ location bytes, before.get? location = some (.file bytes) →
    ∃ bytes', after.get? location = some (.file bytes') ∧ (bytes' = bytes ∨ written location)

namespace Grows

variable {written made : Location → Prop}

theorem keeps (grows : Grows before after written made) : Keeps before after written where
  directory _ entry := grows.directory entry
  link _ _ entry := grows.link.mpr entry
  file location bytes entry := by
    have development := grows location
    rw [entry] at development
    generalize after.get? location = occupant? at development ⊢
    cases development with
    | kept => exact ⟨bytes, rfl, .inl rfl⟩
    | fileReplaced allowed _ bytes' => exact ⟨bytes', rfl, .inr allowed⟩

/-- Where nothing was, only a directory comes if no file may be written. -/
theorem directory_of_none (grows : Grows before after (fun _ => False) made)
    {location : Location} (vacant : before.get? location = none)
    (present : after.get? location ≠ none) :
    after.get? location = some .directory ∧ made location := by
  have development := grows location
  rw [vacant] at development
  generalize after.get? location = occupant? at development present ⊢
  cases development with
  | kept => contradiction
  | directoryMade allowed => exact ⟨rfl, allowed⟩
  | fileMade allowed => exact allowed.elim

theorem onlyDirectories {paths : List Path}
    (grows : Grows before after (fun _ => False) (after.IsReached paths)) :
    OnlyDirectories before after paths where
  kept location present := (grows location).eq_of_ne_none not_false present
  made _ vacant present := grows.directory_of_none vacant present
  noFile location vacant inner bytes below isFile := by
    -- Nothing was below a location where nothing was.
    have innerVacant : before.get? inner = none := by
      by_contra present
      by_cases same : location = inner
      · exact present (same ▸ vacant)
      · have isDirectory := get?_of_suffix below same (Option.isSome_iff_ne_none.mpr present)
        simp [vacant] at isDirectory
    have isDirectory := grows.directory_of_none innerVacant (by simp [isFile])
    simp [isFile] at isDirectory

end Grows

end FileTree

/-! ## The failing file -/

namespace GeneratedFile

/-- The directories that may have to be made for a file are those above its path. -/
theorem isReached_of_parents {file : GeneratedFile} {location : Location}
    (reached : tree.IsReached (file.parents root) location) :
    tree.IsReached (root.join file.path).ancestors.tail location := by
  rcases reached with ⟨directory, member, leads⟩
  refine ⟨directory, ?_, leads⟩
  rw [parents, parentPath] at member
  rw [Path.ancestors_eq]
  cases above : (root.join file.path).parent? with
  | some parent => simpa [above] using member
  | none =>
      -- The empty path leads nowhere.
      rw [above, Option.getD_none, Path.ancestors_eq] at member
      obtain rfl : directory = ⟨""⟩ := List.mem_singleton.mp member
      cases leads

/-- A file that cannot be written leaves at most directories above its path. -/
theorem grows_of_write_error {file : GeneratedFile} {error : IoError}
    {written : Location → Prop}
    (ran : (file.write root : StateM FileTree _).run tree = (.error error, after)) :
    Grows tree after written (after.IsReached (root.join file.path).ancestors.tail) := by
  rw [run_write] at ran
  split at ran
  · cases ran
    exact .refl tree
  · split at ran
    · cases ran
    · split at ran
      · next writing =>
        cases ran
        exact (grows_of_writeCreating_error writing).mono (fun _ allowed => allowed)
          fun _ reached => isReached_of_parents reached
      · cases ran

end GeneratedFile

/-! ## The files before it -/

/-- When files are written without a failure, all of them have been processed. -/
theorem length_changes_of_written {files : List GeneratedFile} {report : WriteReport}
    (ran : (writeGenerated root files : StateM FileTree _).run tree = (report, after))
    (succeeded : report.failure = none) : report.changes.length = files.length := by
  induction files generalizing tree report with
  | nil =>
      cases ran
      rfl
  | cons file rest ih =>
      rcases exists_of_writeGenerated_cons ran succeeded with
        ⟨change, middle, restReport, _, later, restSucceeded, rfl⟩
      simpa [WriteReport.after] using ih later restSucceeded

/-- Writing that fails has written the files before the one that cannot be written. -/
theorem exists_of_writeGenerated_error {files : List GeneratedFile} {report : WriteReport}
    {error : IoError}
    (ran : (writeGenerated root files : StateM FileTree _).run tree = (report, after))
    (failed : report.failure = some error) :
    ∃ front file back middle, files = front ++ file :: back ∧
      (writeGenerated root front : StateM FileTree _).run tree =
        (⟨report.changes, none⟩, middle) ∧
      (file.write root : StateM FileTree _).run middle = (.error error, after) := by
  induction files generalizing tree report with
  | nil =>
      cases ran
      contradiction
  | cons file rest ih =>
      rw [run_writeGenerated_cons] at ran
      split at ran
      · next here =>
        cases ran
        cases failed
        exact ⟨[], file, rest, tree, rfl, rfl, here⟩
      · next change next first =>
        rcases later : (writeGenerated root rest : StateM FileTree _).run next
          with ⟨restReport, last⟩
        rw [later] at ran
        cases ran
        rcases ih later failed with ⟨front, failing, back, middle, rfl, written, here⟩
        refine ⟨file :: front, failing, back, middle, rfl, ?_, here⟩
        rw [run_writeGenerated_cons, first]
        simp only [written]
        rfl

/-- Whatever comes of it, the processed files of a list have been written, and no file
has been written after them. -/
theorem exists_processed {files : List GeneratedFile} {report : WriteReport}
    (ran : (writeGenerated root files : StateM FileTree _).run tree = (report, after)) :
    ∃ middle,
      (writeGenerated root (files.take report.changes.length) : StateM FileTree _).run tree =
        (⟨report.changes, none⟩, middle) ∧
      Grows middle after (fun _ => False) fun _ => True := by
  cases failure : report.failure with
  | none =>
      rw [length_changes_of_written ran failure, List.take_length, ran]
      exact ⟨after, by rw [← failure], .refl after⟩
  | some error =>
      rcases exists_of_writeGenerated_error ran failure with
        ⟨front, file, back, middle, rfl, written, here⟩
      have length := length_changes_of_written written rfl
      dsimp only at length
      rw [length, List.take_left]
      exact ⟨middle, written, (GeneratedFile.grows_of_write_error here).mono
        (fun _ allowed => allowed) fun _ _ => trivial⟩

/-- Whatever comes of it, only files are written over to which a processed file leads. -/
theorem keeps_of_writeGenerated {files : List GeneratedFile} {report : WriteReport}
    (ran : (writeGenerated root files : StateM FileTree _).run tree = (report, after)) :
    Keeps tree after fun location =>
      ∃ file ∈ files.take report.changes.length,
        after.location? (root.join file.path) = some location := by
  rcases exists_processed ran with ⟨middle, written, later⟩
  have leads : ∀ location,
      filesAt middle root (files.take report.changes.length) location ≠ [] →
        ∃ file ∈ files.take report.changes.length,
          after.location? (root.join file.path) = some location := by
    intro location here
    rcases List.exists_mem_of_ne_nil _ here with ⟨file, member⟩
    rw [mem_filesAt] at member
    exact ⟨file, member.1, location?_of_grows later member.2⟩
  have earlier := (grows_of_writeGenerated written rfl).mono leads fun _ _ => trivial
  exact (earlier.trans (later.mono (fun _ never => never.elim) fun _ _ => trivial)).keeps

/-- If writing files ends in an error, then at one of them: the files before it are
written from the same tree as if they were alone, and after them nothing happens but that
directories without files are made at and above the parent of that file's path.  Whether
writing ends in an error or not, all directories and links are kept, and all files keep
their bytes unless a processed file of the list leads to them. -/
theorem writeGenerated_up_to_failure {files : List GeneratedFile} {report : WriteReport}
    (ran : (writeGenerated root files : StateM FileTree _).run tree = (report, after)) :
    (∀ error, report.outcome = .error error →
      ∃ file firstReport summary middle, files[report.changes.length]? = some file ∧
        (writeGenerated root (files.take report.changes.length) :
          StateM FileTree _).run tree = (firstReport, middle) ∧
        firstReport.outcome = .ok summary ∧
        (file.write root : StateM FileTree _).run middle = (.error error, after) ∧
        OnlyDirectories middle after (root.join file.path).ancestors.tail) ∧
    (∀ summary, report.outcome = .ok summary → report.changes.length = files.length) ∧
    Keeps tree after fun location =>
      ∃ file ∈ files.take report.changes.length,
        after.location? (root.join file.path) = some location := by
  refine ⟨?_, ?_, keeps_of_writeGenerated ran⟩
  · intro error failed
    rcases exists_of_writeGenerated_error ran (failure_eq_some_of_outcome failed) with
      ⟨front, file, back, middle, rfl, written, here⟩
    have length := length_changes_of_written written rfl
    dsimp only at length
    rw [length, List.take_left]
    refine ⟨file, _, _, middle, ?_, written, rfl, here,
      (GeneratedFile.grows_of_write_error here).onlyDirectories⟩
    rw [List.getElem?_append_right (Nat.le_refl _), Nat.sub_self, List.getElem?_cons_zero]
  · intro summary succeeded
    exact length_changes_of_written ran (failure_eq_none_of_outcome succeeded)

/-- Three files: one behind a link, one that leads to a directory through directories that
are missing, and one that is never written. -/
def detourFiles : List GeneratedFile :=
  [⟨⟨"l/x"⟩, "1"⟩, ⟨⟨"n/m/../../d"⟩, "2"⟩, ⟨⟨"y"⟩, "3"⟩]

/-- The file behind the link is written, the missing directories are made, and then
writing ends at the directory. -/
theorem writeGenerated_up_to_detour :
    ((writeGenerated ⟨"/"⟩ detourFiles : StateM FileTree _).run linkedTree).1 =
        ⟨[(⟨"/l/x"⟩, .written)], some ⟨⟨"/n/m/../../d"⟩, .isDirectory⟩⟩ ∧
      OnlyDirectories
        ((writeGenerated ⟨"/"⟩ [⟨⟨"l/x"⟩, "1"⟩] : StateM FileTree _).run linkedTree).2
        ((writeGenerated ⟨"/"⟩ detourFiles : StateM FileTree _).run linkedTree).2
        (⟨"/n/m/../../d"⟩ : Path).ancestors.tail := by
  have failed : ((writeGenerated ⟨"/"⟩ detourFiles : StateM FileTree _).run linkedTree).1 =
      ⟨[(⟨"/l/x"⟩, .written)], some ⟨⟨"/n/m/../../d"⟩, .isDirectory⟩⟩ := by decide +kernel
  refine ⟨failed, ?_⟩
  rcases ran : (writeGenerated ⟨"/"⟩ detourFiles : StateM FileTree _).run linkedTree
    with ⟨report, after⟩
  rw [ran] at failed
  obtain rfl : report = _ := failed
  rcases (writeGenerated_up_to_failure ran).1 _ rfl with
    ⟨file, firstReport, summary, middle, found, written, _, _, onlyDirectories⟩
  obtain rfl : ⟨⟨"n/m/../../d"⟩, "2"⟩ = file := Option.some.inj found
  have first : detourFiles.take 1 = [⟨⟨"l/x"⟩, "1"⟩] := rfl
  rw [List.length_singleton, first] at written
  rw [written]
  exact onlyDirectories

end Inset
