import Inset.Proofs.FileTree.Plain
import Inset.Proofs.Generated.Writing

/-!
# Writing generated files into a tree without links

The paths of generated files climb by `..` first and then go down by names.  So in a
tree without links, writing them makes new entries exactly at and above the
locations of the files (`isSome_get?_of_written`), and changes no other file
(`get?_of_written_elsewhere`).
-/

namespace Inset

open FileTree
open Location (move)

variable {tree after : FileTree} {root : Path}

/-- Whether a path is relative, climbs first and goes down by names then. -/
structure Path.IsNormal (path : Path) : Prop where
  relative : path.isRooted = false
  climbsFirst : ∃ climbs names, path.steps = List.replicate climbs ".." ++ names ∧
    ∀ name ∈ names, name ≠ "." ∧ name ≠ ".."

/-- The way to a file below a directory: what comes before its names leads from
directory to directory, and the names lead to the file. -/
theorem exists_way (entered : tree.IsEntered root) {path : Path} (normal : path.IsNormal) :
    ∃ start names, (root.join path).steps = start ++ names ∧
      (∀ name ∈ names, name ≠ "." ∧ name ≠ "..") ∧ tree.LeadsOn [] start ∧
      tree.get? (start.foldl move []) = some .directory := by
  rcases normal.climbsFirst with ⟨climbs, names, split, proper⟩
  rcases leadsOn_replicate entered.directory climbs with ⟨leadsOn, last⟩
  refine ⟨root.steps ++ List.replicate climbs "..", names, ?_, proper, ?_, ?_⟩
  · rw [Path.steps_join root normal.relative, split, List.append_assoc]
  · exact leadsOn_append.mpr ⟨entered.leadsOn, leadsOn⟩
  · rw [List.foldl_append]
    exact last

theorem steps_of_parents {file : GeneratedFile} {directory : Path}
    (member : directory ∈ file.parents root) :
    directory.steps <+: (root.join file.path).steps := by
  refine (Path.steps_of_ancestor member).trans ?_
  rw [parentPath]
  cases above : (root.join file.path).parent? with
  | none => exact List.nil_prefix
  | some parent =>
      rcases Path.steps_of_parent above with ⟨step, rest, split⟩
      exact ⟨step :: rest, split.symm⟩

/-- A directory on the way to a file is there already, or the file lies below it. -/
theorem parents_above (entered : tree.IsEntered root) {file : GeneratedFile}
    (normal : file.path.IsNormal) {directory : Path} (member : directory ∈ file.parents root)
    (vacant : tree.get? directory.location = none) :
    directory.location <:+ (root.join file.path).location := by
  rcases exists_way entered normal with ⟨start, names, split, proper, leadsOn, last⟩
  have begins := steps_of_parents member
  rw [split] at begins
  rcases List.prefix_or_prefix_of_prefix begins (List.prefix_append start names) with
    early | ⟨front, late⟩
  · have present : tree.get? directory.location = some .directory :=
      leadsOn.directory last early
    simp [vacant] at present
  · rw [← late, List.prefix_append_right_inj] at begins
    rcases begins with ⟨more, rfl⟩
    have properMore (name : String) (member : name ∈ more) : name ≠ "." ∧ name ≠ ".." :=
      proper name (List.mem_append_right front member)
    have here : directory.location = (start ++ front).foldl move [] := by rw [late]; rfl
    have there : (root.join file.path).location = more.reverse ++ directory.location := by
      rw [Path.location, split, ← List.append_assoc, List.foldl_append, ← here,
        foldl_move_names properMore]
    rw [there]
    exact List.suffix_append _ _

/-! ## After writing -/

section

variable {files : List GeneratedFile} {report : WriteReport} (noLinks : tree.NoLinks)
  (ran : (writeGenerated root files : StateM FileTree _).run tree = (report, after))
  (succeeded : report.failure = none)

include noLinks ran succeeded

/-- Writing leaves no links behind. -/
theorem noLinks_of_written : after.NoLinks :=
  (grows_of_writeGenerated ran succeeded).noLinks noLinks

/-- When files are written, every one leads to its location. -/
theorem location?_of_written {file : GeneratedFile} (member : file ∈ files) :
    after.location? (root.join file.path) = some (root.join file.path).location := by
  rcases exists_file_of_written ran succeeded member with ⟨location, bytes, resolved⟩
  have leads := location?_eq_some resolved
  rw [leads, eq_location_of_location? (noLinks_of_written noLinks ran succeeded) leads]

theorem exists_file_at_location {file : GeneratedFile} (member : file ∈ files) :
    ∃ bytes, after.get? (root.join file.path).location = some (.file bytes) := by
  rcases exists_file_of_written ran succeeded member with ⟨location, bytes, resolved⟩
  have same := location_of_resolve (noLinks_of_written noLinks ran succeeded) resolved
  exact ⟨bytes, same ▸ get?_of_resolve resolved⟩

/-- What is there stays as it is where no file is written. -/
theorem get?_of_written_elsewhere {location : Location}
    (present : tree.get? location ≠ none)
    (elsewhere : ∀ file ∈ files, (root.join file.path).location ≠ location) :
    after.get? location = tree.get? location := by
  refine (grows_of_writeGenerated ran succeeded location).eq_of_ne_none ?_ present
  intro written
  rcases List.exists_mem_of_ne_nil _ written with ⟨file, here⟩
  rw [mem_filesAt] at here
  apply elsewhere file here.1
  exact (eq_location_of_location? (noLinks_of_written noLinks ran succeeded) here.2).symm

/-- New entries are made at and above the locations of the files, and nowhere else. -/
theorem isSome_get?_of_written (entered : tree.IsEntered root)
    (normal : ∀ file ∈ files, file.path.IsNormal) {location : Location}
    (vacant : tree.get? location = none) :
    (after.get? location).isSome ↔
      ∃ file ∈ files, location <:+ (root.join file.path).location := by
  have stillNoLinks := noLinks_of_written noLinks ran succeeded
  constructor
  · intro present
    have development := grows_of_writeGenerated ran succeeded location
    rw [vacant] at development
    generalize after.get? location = occupant? at development present
    cases development with
    | kept => contradiction
    | directoryMade reached =>
        rcases reached with ⟨directory, member, leads⟩
        rcases List.mem_flatMap.mp member with ⟨file, inFiles, member⟩
        obtain rfl := eq_location_of_location? stillNoLinks leads
        exact ⟨file, inFiles, parents_above entered (normal file inFiles) member vacant⟩
    | fileMade written =>
        rcases List.exists_mem_of_ne_nil _ written with ⟨file, here⟩
        rw [mem_filesAt] at here
        obtain rfl := eq_location_of_location? stillNoLinks here.2
        exact ⟨file, here.1, List.suffix_rfl⟩
  · rintro ⟨file, member, above⟩
    rcases exists_file_at_location noLinks ran succeeded member with ⟨bytes, entry⟩
    have present : (after.get? (root.join file.path).location).isSome := by simp [entry]
    by_cases same : location = (root.join file.path).location
    · rw [same]
      exact present
    · rw [get?_of_suffix above same present]
      rfl

/-- Where a file is written, there is the content of a file. -/
theorem exists_content_of_written {location : Location}
    (here : ∃ file ∈ files, (root.join file.path).location = location) :
    ∃ file ∈ files, after.get? location = some (.file file.content.toUTF8) := by
  rcases here with ⟨file, member, rfl⟩
  rcases exists_last_of_written ran succeeded member with ⟨location, last, isLast, resolved⟩
  have lastMember := (mem_filesAt.mp (List.mem_of_getLast? isLast)).1
  have same := location_of_resolve (noLinks_of_written noLinks ran succeeded) resolved
  exact ⟨last, lastMember, same ▸ get?_of_resolve resolved⟩

/-- A file that was not there before is one of those written. -/
theorem exists_content_of_new (entered : tree.IsEntered root)
    (normal : ∀ file ∈ files, file.path.IsNormal) {location : Location} {bytes : ByteArray}
    (vacant : tree.get? location = none) (entry : after.get? location = some (.file bytes)) :
    ∃ file ∈ files, bytes = file.content.toUTF8 := by
  obtain ⟨file, member, above⟩ :=
    (isSome_get?_of_written noLinks ran succeeded entered normal vacant).mp (by simp [entry])
  have here : (root.join file.path).location = location := by
    by_contra strict
    rcases exists_file_at_location noLinks ran succeeded member with ⟨content, inner⟩
    have present : (after.get? (root.join file.path).location).isSome := by simp [inner]
    have isDirectory := get?_of_suffix above (Ne.symm strict) present
    simp [entry] at isDirectory
  rcases exists_content_of_written noLinks ran succeeded ⟨file, member, here⟩ with
    ⟨last, lastMember, written⟩
  rw [entry] at written
  exact ⟨last, lastMember, by simpa using written⟩

end

end Inset
