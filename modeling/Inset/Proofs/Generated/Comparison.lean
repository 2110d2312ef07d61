import Inset.Proofs.Generated.Outcome

/-!
# What a check below a directory finds

Below a directory of a tree without links, a file with a clean path is compared with what its
place holds.  That nothing is there is a difference, and so is any other text.  But three
things are errors: a path that is too long, a file above the place, and bytes in the place
that are no text (`GeneratedFile.Obstacle`).  A check lists the differences exactly if no file
meets one of them, and otherwise it ends with the first that does (`check_below_iff`).
-/

namespace Inset

open FileTree

variable {tree : FileTree} {root path : Path} {files front : List GeneratedFile}
  {file : GeneratedFile} {cause : StoreError}

/-! ## Paths -/

/-- A clean path with legal names holds no NUL. -/
theorem Path.IsClean.noNul (isClean : path.IsClean) (legal : path.HasLegalNames) :
    '\x00' ∉ path.text.toList := by
  by_cases current : path = ⟨"."⟩
  · rw [current]
    decide
  · exact (isClean.isNormalForm current).noNul legal

/-! ## One file -/

namespace GeneratedFile

/-- Whether a file can be compared with what its place holds: its path is not too long, no
file is above its place, and bytes in its place are a text. -/
structure IsComparable (tree : FileTree) (root : Path) (file : GeneratedFile) : Prop where
  short : (root.join file.path).byteCount ≤ longestPath
  clear : ∀ outer : Location, outer.Encloses (file.place root) →
    ∀ bytes, tree.get? outer ≠ some (.file bytes)
  isText : ∀ bytes, tree.get? (file.place root) = some (.file bytes) → bytes.IsValidUTF8

/-- What keeps a file from being compared with what its place holds, by the cause that the
store gives. -/
inductive Obstacle (tree : FileTree) (root : Path) (file : GeneratedFile) : StoreError → Prop
  | tooLong (long : longestPath < (root.join file.path).byteCount) :
      Obstacle tree root file .nameTooLong
  | fileAbove (short : (root.join file.path).byteCount ≤ longestPath) {outer : Location}
      (encloses : outer.Encloses (file.place root)) {bytes : ByteArray}
      (there : tree.get? outer = some (.file bytes)) : Obstacle tree root file .notDirectory
  | noText (short : (root.join file.path).byteCount ≤ longestPath) {bytes : ByteArray}
      (there : tree.get? (file.place root) = some (.file bytes)) (raw : ¬bytes.IsValidUTF8) :
      Obstacle tree root file .notText

/-- A file that cannot be compared meets an obstacle. -/
theorem exists_obstacle (incomparable : ¬file.IsComparable tree root) :
    ∃ cause, Obstacle tree root file cause := by
  by_cases short : (root.join file.path).byteCount ≤ longestPath
  · by_contra none
    refine incomparable ⟨short, fun outer encloses bytes there => ?_, fun bytes there => ?_⟩
    · exact none ⟨_, .fileAbove short encloses there⟩
    · by_contra raw
      exact none ⟨_, .noText short there raw⟩
  · exact ⟨_, .tooLong (Nat.lt_of_not_le short)⟩

/-- A file that could be written if it were the only one can be compared. -/
theorem FitsAlone.isComparable (fits : file.FitsAlone tree root) :
    file.IsComparable tree root where
  short := fits.short
  clear := fits.takesFile.clear
  isText bytes there := by
    rcases fits.takesFile.free with vacant | ⟨text, isText⟩
    · simp [vacant] at there
    · rw [isText, Option.some.injEq, Entry.file.injEq] at there
      exact isValidUTF8_iff.mpr ⟨text, there.symm⟩

/-- Whether nothing or a file is in the place of a file. -/
def IsFree (tree : FileTree) (root : Path) (file : GeneratedFile) : Prop :=
  tree.get? (file.place root) = none ∨
    ∃ bytes, tree.get? (file.place root) = some (.file bytes)

section

variable (noLinks : tree.NoLinks) (isDirectory : tree.isDirectory root)
  (isClean : file.path.IsClean) (legal : file.path.HasLegalNames)
  (free : file.IsFree tree root)

include noLinks isDirectory isClean legal free

/-- Where nothing or a file is, a path that is not too long descends. -/
theorem IsFree.descendsTo (short : (root.join file.path).byteCount ≤ longestPath) :
    tree.DescendsTo (root.join file.path) (file.place root) := by
  refine (directory_or_descendsTo noLinks isDirectory isClean legal short).resolve_left ?_
  rcases free with vacant | ⟨bytes, there⟩
  · simp [vacant]
  · simp [there]

/-- A file that can be compared is checked, and how it differs is told. -/
theorem IsComparable.run_check (comparable : file.IsComparable tree root) :
    (file.check root : StateM FileTree _).run tree =
      (.ok (if file.Differs tree root then some (file.kind tree root) else none), tree) := by
  have descendsTo := free.descendsTo noLinks isDirectory isClean legal comparable.short
  refine run_check_of_takesFile descendsTo ⟨comparable.clear, ?_⟩
  refine free.imp_right fun ⟨bytes, there⟩ => ?_
  rcases isValidUTF8_iff.mp (comparable.isText bytes there) with ⟨text, rfl⟩
  exact ⟨text, there⟩

/-- What is read under the path of a file that meets an obstacle. -/
theorem Obstacle.readText (obstacle : Obstacle tree root file cause) :
    tree.readText (root.join file.path) = .error cause := by
  cases obstacle with
  | tooLong long =>
      rcases exists_resolve_of_isDirectory isDirectory with ⟨_, _, resolved⟩
      have walkable := (resolve_eq_ok_iff.mp resolved).1
      rw [FileTree.readText, readBytes,
        resolve_join_of_long walkable isClean.relative (isClean.noNul legal) long]
  | fileAbove short encloses there =>
      rcases free.descendsTo noLinks isDirectory isClean legal short with
        ⟨start, steps, name, descends, here⟩
      rw [← here] at encloses
      have blocked := descends.isBlocked_iff.mpr ⟨_, encloses, _, there⟩
      rw [FileTree.readText, readBytes, descends.resolve_of_isBlocked blocked]
  | @noText short bytes there raw =>
      rcases free.descendsTo noLinks isDirectory isClean legal short with
        ⟨start, steps, name, descends, here⟩
      rw [← here] at there
      have parent : tree.get? (steps.reverse ++ start) = some .directory :=
        get?_tail (Option.isSome_of_eq_some there)
      have undecoded : String.fromUTF8? bytes = none := dif_neg raw
      rw [FileTree.readText, readBytes, descends.resolve_eq_ok parent, there]
      simp [Target.ofEntry?, undecoded]

/-- A check of a file that meets an obstacle ends with it. -/
theorem Obstacle.run_check (obstacle : Obstacle tree root file cause) :
    (file.check root : StateM FileTree _).run tree =
      (.error ⟨root.join file.path, cause⟩, tree) := by
  have read := obstacle.readText noLinks isDirectory isClean legal free
  rw [GeneratedFile.run_check, textAt, read]
  cases obstacle <;> rfl

end

end GeneratedFile

/-! ## Lists of files -/

/-- A check of a list ends with the first file that cannot be checked. -/
theorem run_checkGenerated_of_first {difference : GeneratedFile → Option Difference}
    {error : IoError}
    (compared : ∀ earlier ∈ front,
      (earlier.check root : StateM FileTree _).run tree = (.ok (difference earlier), tree))
    (failed : (file.check root : StateM FileTree _).run tree = (.error error, tree))
    (back : List GeneratedFile) :
    (checkGenerated root (front ++ file :: back) : StateM FileTree _).run tree =
      (.error error, tree) := by
  induction front with
  | nil =>
      rw [List.nil_append, checkGenerated, run_bind failed]
      rfl
  | cons earlier front ih =>
      rw [List.forall_mem_cons] at compared
      rw [List.cons_append, checkGenerated, run_bind compared.1]
      simp only
      rw [run_bind (ih compared.2)]
      rfl

/-- If not every file can be compared, there is a first one that cannot. -/
theorem forall_isComparable_or_first (tree : FileTree) (root : Path)
    (files : List GeneratedFile) :
    (∀ file ∈ files, file.IsComparable tree root) ∨
      ∃ front file back, files = front ++ file :: back ∧
        (∀ earlier ∈ front, earlier.IsComparable tree root) ∧ ¬file.IsComparable tree root := by
  classical
  cases found : files.find? fun file => ¬file.IsComparable tree root with
  | none =>
      left
      simpa using List.find?_eq_none.mp found
  | some file =>
      right
      rcases List.find?_eq_some_iff_append.mp found with ⟨incomparable, front, back, split, earlier⟩
      exact ⟨front, file, back, split, by simpa using earlier, by simpa using incomparable⟩

/-- Below a directory of a tree without links, files with clean paths and legal names are
checked, where nothing or a file is in the place of each.  A check succeeds exactly if no path
is too long, no file is above the place of one of them, and bytes in their places are texts.
It then lists, in order, the files whose places do not hold their contents: as missing where
nothing is there, and otherwise as stale.  If it fails, it does so at the first file that
meets an obstacle, and gives the path of that file and the cause. -/
theorem check_below_iff (noLinks : tree.NoLinks) (isDirectory : tree.isDirectory root)
    (isClean : ∀ file ∈ files, file.path.IsClean)
    (legal : ∀ file ∈ files, file.path.HasLegalNames)
    (free : ∀ file ∈ files, file.IsFree tree root) :
    ((∃ differences, (checkGenerated root files : StateM FileTree _).run tree =
        (.ok differences, tree)) ↔ ∀ file ∈ files, file.IsComparable tree root) ∧
    (∀ differences, (checkGenerated root files : StateM FileTree _).run tree =
        (.ok differences, tree) →
      differences = (files.filter (GeneratedFile.Differs tree root)).map
        fun file => (file.path, file.kind tree root)) ∧
    (∀ error, (checkGenerated root files : StateM FileTree _).run tree = (.error error, tree) →
      ∃ front file back cause, files = front ++ file :: back ∧
        (∀ earlier ∈ front, earlier.IsComparable tree root) ∧
        file.Obstacle tree root cause ∧ error = ⟨root.join file.path, cause⟩) := by
  have compared (file : GeneratedFile) (member : file ∈ files)
      (comparable : file.IsComparable tree root) :=
    comparable.run_check noLinks isDirectory (isClean file member) (legal file member)
      (free file member)
  rcases forall_isComparable_or_first tree root files with
    all | ⟨front, file, back, rfl, earlier, incomparable⟩
  · have listed := run_checkGenerated_of_forall fun file member =>
      compared file member (all file member)
    rw [flatMap_kind (GeneratedFile.Differs tree root)] at listed
    rw [listed]
    refine ⟨iff_of_true ⟨_, rfl⟩ all, ?_, ?_⟩
    · rintro differences same
      cases same
      rfl
    · rintro error same
      cases same
  · rcases GeneratedFile.exists_obstacle incomparable with ⟨cause, obstacle⟩
    have member : file ∈ front ++ file :: back := by simp
    have failed := run_checkGenerated_of_first
      (fun other inFront => compared other (by simp [inFront]) (earlier other inFront))
      (obstacle.run_check noLinks isDirectory (isClean file member) (legal file member)
        (free file member)) back
    rw [failed]
    refine ⟨iff_of_false ?_ fun all => incomparable (all file member), ?_, ?_⟩
    · rintro ⟨differences, same⟩
      cases same
    · rintro differences same
      cases same
    · rintro error same
      cases same
      exact ⟨front, file, back, cause, rfl, earlier, obstacle, rfl⟩

/-- A missing file and one that has changed are listed, but bytes that are no text are an
error. -/
theorem check_below_shelf :
    (checkGenerated ⟨"/s"⟩ shelfFiles : StateM FileTree _).run shelfTree =
        (.ok [(⟨"../t/x"⟩, .missing), (⟨"old"⟩, .stale)], shelfTree) ∧
      ¬∃ differences, (checkGenerated ⟨"/s"⟩ [⟨⟨"raw"⟩, "2"⟩] : StateM FileTree _).run shelfTree =
        (.ok differences, shelfTree) := by
  have isDirectory : shelfTree.isDirectory ⟨"/s"⟩ := by decide
  constructor
  · have succeeded := outcome_shelfFiles
    rcases ran : (writeGenerated ⟨"/s"⟩ shelfFiles : StateM FileTree _).run shelfTree
      with ⟨report, after⟩
    rw [ran] at succeeded
    have fits := fitsAlone_of_written noLinks_shelfTree isDirectory (by decide) ran
      (failure_eq_none_of_outcome succeeded)
    have free : ∀ file ∈ shelfFiles, file.IsFree shelfTree ⟨"/s"⟩ := fun file member =>
      (fits file member).takesFile.free.imp_right fun ⟨text, there⟩ => ⟨_, there⟩
    have comparable : ∀ file ∈ shelfFiles, file.IsComparable shelfTree ⟨"/s"⟩ :=
      fun file member => (fits file member).isComparable
    have differ : (shelfFiles.filter (GeneratedFile.Differs shelfTree ⟨"/s"⟩)).map
        (fun file => (file.path, file.kind shelfTree ⟨"/s"⟩)) =
        [(⟨"../t/x"⟩, .missing), (⟨"old"⟩, .stale)] := by decide
    rcases check_below_iff noLinks_shelfTree isDirectory (by decide) (by decide) free with
      ⟨succeeds, listed, _⟩
    rcases succeeds.mpr comparable with ⟨differences, checked⟩
    rw [checked, listed differences checked, differ]
  · have there : shelfTree.get? (GeneratedFile.place ⟨"/s"⟩ ⟨⟨"raw"⟩, "2"⟩) =
        some (.file ⟨#[255]⟩) := by decide
    have free : ∀ file ∈ [(⟨⟨"raw"⟩, "2"⟩ : GeneratedFile)], file.IsFree shelfTree ⟨"/s"⟩ := by
      simpa using .inr ⟨_, there⟩
    rw [(check_below_iff noLinks_shelfTree isDirectory (by decide) (by decide) free).1]
    intro comparable
    have noText : ¬(⟨#[255]⟩ : ByteArray).IsValidUTF8 :=
      ByteArray.validateUTF8_eq_false_iff.mp (by cbv)
    exact noText ((comparable _ List.mem_cons_self).isText _ there)

/-- A file below another file is missing, and yet the check fails. -/
theorem not_checked_below_file :
    shelfTree.NoLinks ∧ shelfTree.isDirectory ⟨"/s"⟩ ∧ (⟨"old/y"⟩ : Path).IsClean ∧
      (⟨"old/y"⟩ : Path).HasLegalNames ∧
      shelfTree.get? (GeneratedFile.place ⟨"/s"⟩ ⟨⟨"old/y"⟩, "1"⟩) = none ∧
      (checkGenerated ⟨"/s"⟩ [⟨⟨"old/y"⟩, "1"⟩] : StateM FileTree _).run shelfTree =
        (.error ⟨⟨"/s/old/y"⟩, .notDirectory⟩, shelfTree) := by
  exact ⟨noLinks_shelfTree, by decide, by decide, by decide, by decide, by rfl⟩

end Inset
