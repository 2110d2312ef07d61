import Inset.Proofs.Generated.Checking

/-!
# Files that are up to date

Files are up to date when each of them can be read and has its content already.  A check
lists no difference exactly then, and writing leaves the tree alone exactly then: a file
that is written at all was not up to date when its turn came, and up to there nothing had
changed.
-/

namespace Inset

open FileTree

variable {tree after : FileTree} {root : Path} {files : List GeneratedFile}

/-- Whether every file of a list is found under its path with its content. -/
def AreUpToDate (tree : FileTree) (root : Path) (files : List GeneratedFile) : Prop :=
  ∀ file ∈ files, tree.textAt (root.join file.path) = .ok (some file.content)

theorem areUpToDate_cons {file : GeneratedFile} {rest : List GeneratedFile} :
    AreUpToDate tree root (file :: rest) ↔
      tree.textAt (root.join file.path) = .ok (some file.content) ∧
        AreUpToDate tree root rest :=
  List.forall_mem_cons

/-! ## Checking -/

/-- A file does not differ exactly if it is found with its content. -/
theorem GeneratedFile.run_check_eq_none_iff {file : GeneratedFile} :
    ((file.check root : StateM FileTree _).run tree).1 = .ok none ↔
      tree.textAt (root.join file.path) = .ok (some file.content) := by
  rw [run_check]
  cases tree.textAt (root.join file.path) with
  | error error => simp
  | ok existing => cases existing <;> simp

/-- A check lists no difference exactly if the files are up to date. -/
theorem checkGenerated_eq_nil_iff_areUpToDate :
    ((checkGenerated root files : StateM FileTree _).run tree).1 = .ok [] ↔
      AreUpToDate tree root files := by
  induction files with
  | nil => exact iff_of_true rfl fun _ member => absurd member List.not_mem_nil
  | cons file rest ih =>
      rw [areUpToDate_cons, ← ih, ← GeneratedFile.run_check_eq_none_iff]
      rcases ran : (file.check root : StateM FileTree _).run tree with ⟨result, after⟩
      obtain rfl : tree = after := by
        rw [GeneratedFile.run_check] at ran
        exact (Prod.mk.inj ran).2
      rw [checkGenerated, run_bind ran]
      rcases result with error | difference
      · exact iff_of_false (by rintro ⟨⟩) (by rintro ⟨⟨⟩, _⟩)
      rcases later : (checkGenerated root rest : StateM FileTree _).run tree
        with ⟨others, last⟩
      simp only
      rw [run_bind later]
      rcases others with error | others
      · exact iff_of_false (by rintro ⟨⟩) (by rintro ⟨_, ⟨⟩⟩)
      · cases difference with
        | none => exact (and_iff_right rfl).symm
        | some kind => exact iff_of_false (by rintro ⟨⟩) (by rintro ⟨⟨⟩, _⟩)

/-! ## Writing -/

/-- Writing files that are up to date changes nothing. -/
theorem run_writeGenerated_of_areUpToDate (upToDate : AreUpToDate tree root files) :
    (writeGenerated root files : StateM FileTree _).run tree =
      (⟨files.map fun file => (root.join file.path, .unchanged), none⟩, tree) := by
  induction files with
  | nil => rfl
  | cons file rest ih =>
      rcases areUpToDate_cons.mp upToDate with ⟨first, later⟩
      have unchanged : (file.write root : StateM FileTree _).run tree =
          (.ok .unchanged, tree) := by
        rw [GeneratedFile.run_write, first]
        exact if_pos rfl
      rw [run_writeGenerated_cons, unchanged]
      simp only [ih later]
      rfl

/-- A file that is left as it is was found with its content. -/
theorem GeneratedFile.textAt_of_unchanged {file : GeneratedFile}
    (ran : (file.write root : StateM FileTree _).run tree = (.ok .unchanged, after)) :
    tree.textAt (root.join file.path) = .ok (some file.content) ∧ after = tree := by
  rw [run_write] at ran
  split at ran
  · cases ran
  · next existing read =>
    split at ran
    · next same =>
      cases ran
      exact ⟨same ▸ read, rfl⟩
    · split at ran <;> cases ran

/-- Files of which none is written were up to date. -/
theorem areUpToDate_of_unchanged {report : WriteReport}
    (ran : (writeGenerated root files : StateM FileTree _).run tree = (report, after))
    (succeeded : report.failure = none)
    (unchanged : ∀ change ∈ report.changes, change.2 = .unchanged) :
    AreUpToDate tree root files := by
  induction files generalizing report with
  | nil => exact fun _ member => absurd member List.not_mem_nil
  | cons file rest ih =>
      rcases exists_of_writeGenerated_cons ran succeeded with
        ⟨change, middle, restReport, first, later, restSucceeded, rfl⟩
      rcases List.forall_mem_cons.mp unchanged with ⟨rfl, restUnchanged⟩
      rcases GeneratedFile.textAt_of_unchanged first with ⟨found, rfl⟩
      exact areUpToDate_cons.mpr ⟨found, ih later restSucceeded restUnchanged⟩

/-! ## Counts -/

/-- A report without a failure counts every change as written or unchanged. -/
theorem WriteReport.outcome_eq_ok_iff {report : WriteReport} {summary : WriteSummary} :
    report.outcome = .ok summary ↔
      report.failure = none ∧
        summary = ⟨report.count .written, report.count .unchanged⟩ := by
  rw [outcome]
  cases report.failure with
  | none => simp [eq_comm]
  | some error => simp

theorem WriteReport.exists_outcome_eq_ok_iff {report : WriteReport} :
    (∃ summary, report.outcome = .ok summary) ↔ report.failure = none := by
  simp only [outcome_eq_ok_iff, exists_and_left, exists_eq, and_true]

theorem WriteReport.count_add_count (report : WriteReport) :
    report.count .written + report.count .unchanged = report.changes.length := by
  rw [count, count, List.length_eq_countP_add_countP (p := fun change => change.2 = Change.written)]
  congr 1
  apply List.countP_congr
  rintro ⟨path, change⟩ _
  cases change <;> simp

theorem WriteReport.count_written_eq_zero_iff {report : WriteReport} :
    report.count .written = 0 ↔ ∀ change ∈ report.changes, change.2 = .unchanged := by
  rw [count, List.countP_eq_zero]
  apply forall₂_congr
  rintro ⟨path, change⟩ _
  cases change <;> simp

/-- Files that are all unchanged are counted so. -/
theorem WriteReport.outcome_of_unchanged {report : WriteReport}
    (succeeded : report.failure = none)
    (unchanged : ∀ change ∈ report.changes, change.2 = .unchanged) :
    report.outcome = .ok ⟨0, report.changes.length⟩ := by
  have none := WriteReport.count_written_eq_zero_iff.mpr unchanged
  have all := report.count_add_count
  rw [none, Nat.zero_add] at all
  exact WriteReport.outcome_eq_ok_iff.mpr ⟨succeeded, by rw [none, all]⟩

/-- Of files that are written without a failure, none is counted as written exactly if
they were up to date. -/
theorem count_written_eq_zero_iff_areUpToDate {report : WriteReport}
    (ran : (writeGenerated root files : StateM FileTree _).run tree = (report, after))
    (succeeded : report.failure = none) :
    report.count .written = 0 ↔ AreUpToDate tree root files := by
  rw [WriteReport.count_written_eq_zero_iff]
  constructor
  · exact areUpToDate_of_unchanged ran succeeded
  · intro upToDate
    rw [run_writeGenerated_of_areUpToDate upToDate] at ran
    rw [← (Prod.mk.inj ran).1]
    simp

/-- Files are written without a failure and without a change exactly if they are up to
date. -/
theorem exists_outcome_iff_areUpToDate :
    (∃ unchanged, ((writeGenerated root files : StateM FileTree _).run tree).1.outcome =
        .ok ⟨0, unchanged⟩) ↔
      AreUpToDate tree root files := by
  constructor
  · rintro ⟨unchanged, outcome⟩
    rcases WriteReport.outcome_eq_ok_iff.mp outcome with ⟨succeeded, counts⟩
    have none : _ = 0 := (congrArg WriteSummary.written counts).symm
    exact (count_written_eq_zero_iff_areUpToDate rfl succeeded).mp none
  · intro upToDate
    rw [run_writeGenerated_of_areUpToDate upToDate]
    exact ⟨_, WriteReport.outcome_of_unchanged rfl (by simp)⟩

/-- Files that have been written are up to date exactly if those that lead to the same
location have the same content. -/
theorem areUpToDate_of_written_iff {report : WriteReport}
    (ran : (writeGenerated root files : StateM FileTree _).run tree = (report, after))
    (succeeded : report.failure = none) :
    AreUpToDate after root files ↔
      ∀ first ∈ files, ∀ second ∈ files,
        after.location? (root.join first.path) = after.location? (root.join second.path) →
        first.content = second.content := by
  rw [← filter_isWrittenOver_eq_nil_iff ran succeeded, ← checkGenerated_eq_nil_iff_areUpToDate,
    run_checkGenerated_of_written ran succeeded, Except.ok.injEq, List.map_eq_nil_iff]

end Inset
