import Inset.Proofs.Generated.Below

/-!
# What writing below a directory comes to

Files with clean paths and different places are written as if each of them were the only
one: the places neither coincide nor enclose one another, so no file changes what is in the
place of another.  Hence the tree before decides which files are written and which are left
alone (`shelved_of_writeGenerated`), a check of that tree lists those that will be written
(`check_predicts_written`), and the order of the files makes no difference
(`written_in_any_order`).
-/

namespace Inset

open FileTree

variable {tree middle after after' : FileTree} {root : Path} {files files' : List GeneratedFile}
  {file : GeneratedFile} {report report' : WriteReport}

/-! ## One file -/

namespace GeneratedFile

/-- Whether the place of a file holds something else than its content. -/
def Differs (tree : FileTree) (root : Path) (file : GeneratedFile) : Prop :=
  tree.get? (file.place root) ≠ some (.file file.content.toUTF8)

instance : DecidablePred (Differs tree root) :=
  fun _ => inferInstanceAs (Decidable (¬_))

/-- How a file differs, given what its place holds. -/
def kind (tree : FileTree) (root : Path) (file : GeneratedFile) : Difference :=
  if tree.get? (file.place root) = none then .missing else .stale

/-- What becomes of a file, given what its place holds. -/
def fate (tree : FileTree) (root : Path) (file : GeneratedFile) : Change :=
  if file.Differs tree root then .written else .unchanged

theorem fate_eq_written_iff : file.fate tree root = .written ↔ file.Differs tree root := by
  rw [fate]
  split <;> simp [*]

theorem fate_eq_unchanged_iff : file.fate tree root = .unchanged ↔ ¬file.Differs tree root := by
  rw [fate]
  split <;> simp [*]

theorem fate_eq_of_get?_eq
    (same : middle.get? (file.place root) = tree.get? (file.place root)) :
    file.fate middle root = file.fate tree root := by
  have differs : file.Differs middle root ↔ file.Differs tree root := by
    rw [Differs, Differs, same]
  simp only [fate, differs]

/-- What is read under the path of a file that can be put in its place. -/
theorem textAt_of_takesFile
    (descendsTo : tree.DescendsTo (root.join file.path) (file.place root))
    (takesFile : tree.TakesFile (file.place root)) :
    tree.textAt (root.join file.path) = .ok none ∧ tree.get? (file.place root) = none ∨
      ∃ text, tree.textAt (root.join file.path) = .ok (some text) ∧
        tree.get? (file.place root) ≠ none ∧ (text = file.content ↔ ¬file.Differs tree root) := by
  rcases descendsTo.textAt_of_takesFile takesFile with nothing | ⟨text, found, there⟩
  · exact .inl nothing
  · refine .inr ⟨text, found, by simp [there], ?_⟩
    simp [Differs, there, String.toUTF8_eq_toByteArray, String.toByteArray_inj]

/-- What becomes of a file is decided by what its place holds. -/
theorem eq_fate_of_write {change : Change}
    (descendsTo : tree.DescendsTo (root.join file.path) (file.place root))
    (ran : (file.write root : StateM FileTree _).run tree = (.ok change, after)) :
    change = file.fate tree root := by
  have takesFile := (takesFile_of_write descendsTo ran).1
  rw [run_write] at ran
  rcases textAt_of_takesFile descendsTo takesFile with ⟨nothing, vacant⟩ | ⟨text, found, _, same⟩
  · have differs : file.Differs tree root := by simp [Differs, vacant]
    rw [fate, if_pos differs]
    simp only [nothing, reduceCtorEq, if_false] at ran
    split at ran <;> cases ran
    rfl
  · simp only [found, Option.some.injEq, same] at ran
    rw [fate]
    by_cases differs : file.Differs tree root
    · simp only [differs, not_true_eq_false, if_false] at ran
      split at ran <;> cases ran
      exact (if_pos differs).symm
    · simp only [differs, not_false_eq_true, if_true] at ran
      cases ran
      exact (if_neg differs).symm

/-- A check of a file that can be put in its place finds out whether it differs, and how. -/
theorem run_check_of_takesFile
    (descendsTo : tree.DescendsTo (root.join file.path) (file.place root))
    (takesFile : tree.TakesFile (file.place root)) :
    (file.check root : StateM FileTree _).run tree =
      (.ok (if file.Differs tree root then some (file.kind tree root) else none), tree) := by
  rw [run_check]
  rcases textAt_of_takesFile descendsTo takesFile with
    ⟨nothing, vacant⟩ | ⟨text, found, present, same⟩
  · have differs : file.Differs tree root := by simp [Differs, vacant]
    rw [nothing, if_pos differs, kind, if_pos vacant]
  · simp only [found, same, kind, if_neg present]
    by_cases differs : file.Differs tree root <;> simp [differs]

end GeneratedFile

/-! ## All files -/

/-- Whether a tree has come from another one by putting files in their places: there they are,
below directories, and elsewhere nothing has changed. -/
structure Shelved (before after : FileTree) (root : Path) (files : List GeneratedFile) : Prop where
  content : ∀ file ∈ files, after.get? (file.place root) = some (.file file.content.toUTF8)
  above : ∀ file ∈ files, ∀ outer : Location, outer.Encloses (file.place root) →
    after.get? outer = some .directory
  elsewhere : ∀ location : Location, (∀ file ∈ files, ¬location <:+ file.place root) →
    after.get? location = before.get? location

/-- What a tree holds is decided by the files that were put in their places. -/
theorem Shelved.get?_eq (shelved : Shelved tree after root files)
    (shelved' : Shelved tree after' root files') (same : ∀ file, file ∈ files ↔ file ∈ files')
    (location : Location) : after.get? location = after'.get? location := by
  by_cases apart : ∀ file ∈ files, ¬location <:+ file.place root
  · rw [shelved.elsewhere location apart,
      shelved'.elsewhere location fun file member => apart file ((same file).mpr member)]
  · push Not at apart
    rcases apart with ⟨file, member, above⟩
    have member' := (same file).mp member
    by_cases here : location = file.place root
    · rw [here, shelved.content file member, shelved'.content file member']
    · rw [shelved.above file member location ⟨above, here⟩,
        shelved'.above file member' location ⟨above, here⟩]

/-- One more file is put in its place before others that neither share its place nor enclose
it or are enclosed by it. -/
theorem Shelved.cons
    (planted : tree.Planted middle (file.place root) (.file file.content.toUTF8))
    (shelved : Shelved middle after root files)
    (apart : ∀ other ∈ files, ¬file.place root <:+ other.place root)
    (apart' : ∀ other ∈ files, ¬other.place root <:+ file.place root) :
    Shelved tree after root (file :: files) where
  content := by
    rw [List.forall_mem_cons]
    refine ⟨?_, shelved.content⟩
    rw [shelved.elsewhere _ apart, planted.get?_target]
  above := by
    rw [List.forall_mem_cons]
    refine ⟨fun outer encloses => ?_, shelved.above⟩
    by_cases free : ∀ other ∈ files, ¬outer <:+ other.place root
    · rw [shelved.elsewhere outer free, planted, if_neg encloses.2, if_pos encloses.1]
    · push Not at free
      rcases free with ⟨other, member, above⟩
      refine shelved.above other member outer ⟨above, ?_⟩
      rintro rfl
      exact apart' other member encloses.1
  elsewhere := by
    intro location free
    rw [List.forall_mem_cons] at free
    rw [shelved.elsewhere location free.2, planted.get?_of_not_suffix free.1]

/-- Files whose paths descend to different places are put there, and what becomes of each of
them is decided by what its place holds before. -/
theorem shelved_of_writeGenerated
    (descendsTo : ∀ file ∈ files, tree.DescendsTo (root.join file.path) (file.place root))
    (distinct : (files.map (GeneratedFile.place root)).Nodup)
    (ran : (writeGenerated root files : StateM FileTree _).run tree = (report, after))
    (succeeded : report.failure = none) :
    Shelved tree after root files ∧
      report.changes = files.map fun file => (root.join file.path, file.fate tree root) := by
  induction files generalizing tree report with
  | nil =>
      cases ran
      exact ⟨⟨by simp, by simp, fun _ _ => rfl⟩, rfl⟩
  | cons file rest ih =>
      have apart : ∀ first ∈ file :: rest, ∀ second ∈ file :: rest,
          ¬(first.place root).Encloses (second.place root) :=
        ((failure_writeGenerated_eq_none_iff descendsTo).mp (by rwa [ran])).2
      rcases exists_of_writeGenerated_cons ran succeeded with
        ⟨change, middle, restReport, first, later, restSucceeded, rfl⟩
      rw [List.forall_mem_cons] at descendsTo
      rw [List.map_cons, List.nodup_cons] at distinct
      rcases GeneratedFile.takesFile_of_write descendsTo.1 first with ⟨_, planted⟩
      rcases GeneratedFile.grows_of_write_ok first with ⟨_, _, grows⟩
      have different (other : GeneratedFile) (member : other ∈ rest) :
          file.place root ≠ other.place root := fun same =>
        distinct.1 (List.mem_map.mpr ⟨other, member, same.symm⟩)
      have notAbove (other : GeneratedFile) (member : other ∈ rest) :
          ¬file.place root <:+ other.place root := fun above =>
        apart file List.mem_cons_self other (List.mem_cons_of_mem file member)
          ⟨above, different other member⟩
      have notBelow (other : GeneratedFile) (member : other ∈ rest) :
          ¬other.place root <:+ file.place root := fun above =>
        apart other (List.mem_cons_of_mem file member) file List.mem_cons_self
          ⟨above, (different other member).symm⟩
      rcases ih (fun other member => (descendsTo.2 other member).of_grows grows) distinct.2 later
        restSucceeded with ⟨shelved, changes⟩
      refine ⟨shelved.cons planted notAbove notBelow, ?_⟩
      -- The places of the rest hold what they held before the first file was written.
      have kept (other : GeneratedFile) (member : other ∈ rest) :
          (root.join other.path, other.fate middle root) =
            (root.join other.path, other.fate tree root) := by
        rw [GeneratedFile.fate_eq_of_get?_eq (planted.get?_of_not_suffix (notBelow other member))]
      rw [List.map_congr_left kept] at changes
      rw [WriteReport.after, List.map_cons, ← GeneratedFile.eq_fate_of_write descendsTo.1 first,
        ← changes]

/-- The files that are written are those that differ before. -/
theorem count_written_eq
    (changes : report.changes =
      files.map fun file => (root.join file.path, file.fate tree root)) :
    report.count .written = files.countP (GeneratedFile.Differs tree root) ∧
      report.count .unchanged = files.countP fun file => ¬file.Differs tree root := by
  rw [WriteReport.count, WriteReport.count, changes, List.countP_map, List.countP_map]
  simp only [Function.comp_def, GeneratedFile.fate_eq_written_iff,
    GeneratedFile.fate_eq_unchanged_iff, and_self]

/-- A missing file, one that has changed and one that is up to date. -/
def shelfFiles : List GeneratedFile :=
  [⟨⟨"../t/x"⟩, "3"⟩, ⟨⟨"old"⟩, "3"⟩, ⟨⟨"kept"⟩, "2"⟩]

theorem outcome_shelfFiles :
    ((writeGenerated ⟨"/s"⟩ shelfFiles : StateM FileTree _).run shelfTree).1.outcome =
      .ok ⟨2, 1⟩ := by
  decide +kernel

section

variable (noLinks : tree.NoLinks) (isDirectory : tree.isDirectory root)
  (isClean : ∀ file ∈ files, file.path.IsClean)
  (distinct : (files.map (GeneratedFile.place root)).Nodup)
  (ran : (writeGenerated root files : StateM FileTree _).run tree = (report, after))

include noLinks isDirectory isClean ran

/-- Each of the files that have been written could be written if it were the only one. -/
theorem fitsAlone_of_written (succeeded : report.failure = none) :
    ∀ file ∈ files, file.FitsAlone tree root := by
  have written := failure_writeGenerated_eq_none_iff_fitsAlone noLinks isDirectory isClean
  rw [ran] at written
  exact (written.mp succeeded).1

include distinct

theorem shelved_of_written (succeeded : report.failure = none) :
    Shelved tree after root files ∧
      report.changes = files.map fun file => (root.join file.path, file.fate tree root) :=
  shelved_of_writeGenerated (fun file member =>
    (fitsAlone_of_written noLinks isDirectory isClean ran succeeded file member).descendsTo
      noLinks isDirectory (isClean file member)) distinct ran succeeded

/-- If files with clean paths and different places are written without a failure, then a check
of the tree before succeeds: it lists those that did not have their content in their place,
as many as are written, and all others are counted as unchanged. -/
theorem check_predicts_written {summary : WriteSummary}
    (succeeded : report.outcome = .ok summary) :
    ∃ differences,
      (checkGenerated root files : StateM FileTree _).run tree = (.ok differences, tree) ∧
      differences = (files.filter (GeneratedFile.Differs tree root)).map
        (fun file => (file.path, file.kind tree root)) ∧
      differences.length = summary.written ∧
      summary.unchanged = (files.filter fun file => ¬file.Differs tree root).length ∧
      report.changes = files.map fun file => (root.join file.path, file.fate tree root) := by
  rcases WriteReport.outcome_eq_ok_iff.mp succeeded with ⟨noFailure, rfl⟩
  have fits := fitsAlone_of_written noLinks isDirectory isClean ran noFailure
  rcases shelved_of_written noLinks isDirectory isClean distinct ran noFailure with ⟨_, changes⟩
  rcases count_written_eq changes with ⟨written, unchanged⟩
  refine ⟨_, ?_, rfl, ?_, ?_, changes⟩
  · rw [run_checkGenerated_of_forall fun file member =>
      GeneratedFile.run_check_of_takesFile
        ((fits file member).descendsTo noLinks isDirectory (isClean file member))
        (fits file member).takesFile, flatMap_kind]
  · rw [written, List.length_map, List.countP_eq_length_filter]
  · rw [unchanged, List.countP_eq_length_filter]

omit noLinks isDirectory isClean distinct ran in
/-- The check lists the missing file and the one that has changed, and these two are written. -/
theorem check_predicts_written_below_shelf :
    (checkGenerated ⟨"/s"⟩ shelfFiles : StateM FileTree _).run shelfTree =
      (.ok [(⟨"../t/x"⟩, .missing), (⟨"old"⟩, .stale)], shelfTree) := by
  have succeeded := outcome_shelfFiles
  rcases ran : (writeGenerated ⟨"/s"⟩ shelfFiles : StateM FileTree _).run shelfTree
    with ⟨report, after⟩
  rw [ran] at succeeded
  rcases check_predicts_written noLinks_shelfTree (by decide) (by decide) (by decide) ran
    succeeded with ⟨differences, checked, listed, _⟩
  have differ : (shelfFiles.filter (GeneratedFile.Differs shelfTree ⟨"/s"⟩)).map
      (fun file => (file.path, file.kind shelfTree ⟨"/s"⟩)) =
      [(⟨"../t/x"⟩, .missing), (⟨"old"⟩, .stale)] := by decide
  rw [checked, listed, differ]

/-- If files with clean paths and different places are written in another order, this succeeds
as well or fails as well, with the same counts, and it leaves the same tree. -/
theorem written_in_any_order (perm : files.Perm files')
    (ran' : (writeGenerated root files' : StateM FileTree _).run tree = (report', after')) :
    (∀ summary, report.outcome = .ok summary ↔ report'.outcome = .ok summary) ∧
      ((∃ summary, report.outcome = .ok summary) →
        ∀ location, after.get? location = after'.get? location) := by
  have isClean' : ∀ file ∈ files', file.path.IsClean := fun file member =>
    isClean file (perm.mem_iff.mpr member)
  have distinct' : (files'.map (GeneratedFile.place root)).Nodup :=
    (perm.map _).nodup_iff.mp distinct
  have both : report.failure = none ↔ report'.failure = none := by
    have first := failure_writeGenerated_eq_none_iff_fitsAlone noLinks isDirectory isClean
    have second := failure_writeGenerated_eq_none_iff_fitsAlone noLinks isDirectory isClean'
    rw [ran] at first
    rw [ran'] at second
    rw [first, second]
    simp only [perm.mem_iff]
  have shelved := shelved_of_written noLinks isDirectory isClean distinct ran
  have shelved' := shelved_of_written noLinks isDirectory isClean' distinct' ran'
  constructor
  · intro summary
    rw [WriteReport.outcome_eq_ok_iff, WriteReport.outcome_eq_ok_iff, ← both]
    refine and_congr_right fun succeeded => ?_
    have counts := count_written_eq (shelved succeeded).2
    have counts' := count_written_eq (shelved' (both.mp succeeded)).2
    rw [counts.1, counts.2, counts'.1, counts'.2, perm.countP_eq, perm.countP_eq]
  · rintro ⟨summary, outcome⟩
    have succeeded := failure_eq_none_of_outcome outcome
    exact (shelved succeeded).1.get?_eq (shelved' (both.mp succeeded)).1 fun _ => perm.mem_iff

omit noLinks isDirectory isClean distinct ran in
/-- The same files are written from the last to the first. -/
theorem written_below_shelf_in_reverse :
    ((writeGenerated ⟨"/s"⟩ shelfFiles.reverse : StateM FileTree _).run shelfTree).1.outcome =
        .ok ⟨2, 1⟩ ∧
      ∀ location,
        ((writeGenerated ⟨"/s"⟩ shelfFiles : StateM FileTree _).run shelfTree).2.get? location =
          ((writeGenerated ⟨"/s"⟩ shelfFiles.reverse : StateM FileTree _).run shelfTree).2.get?
            location := by
  have succeeded := outcome_shelfFiles
  rcases ran : (writeGenerated ⟨"/s"⟩ shelfFiles : StateM FileTree _).run shelfTree
    with ⟨report, after⟩
  rcases ran' : (writeGenerated ⟨"/s"⟩ shelfFiles.reverse : StateM FileTree _).run shelfTree
    with ⟨report', after'⟩
  rw [ran] at succeeded
  rcases written_in_any_order noLinks_shelfTree (by decide) (by decide) (by decide) ran
    shelfFiles.reverse_perm.symm ran' with ⟨outcome, same⟩
  exact ⟨(outcome _).mp succeeded, same ⟨_, succeeded⟩⟩

end

end Inset
