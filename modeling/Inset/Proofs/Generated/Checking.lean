import Mathlib
import Inset.Proofs.Generated.Writing

/-!
# Checking generated files after writing them

A check reads the tree and leaves it alone.  After a list of files has been
written, the check finds nothing missing, and it finds a file stale exactly when
a later file of another content was written over it.
-/

namespace Inset

open FileTree

variable {tree after : FileTree} {root : Path}

/-! ## Checking -/

/-- Checking one file, in steps. -/
theorem GeneratedFile.run_check (file : GeneratedFile) (root : Path) (tree : FileTree) :
    (file.check root : StateM FileTree _).run tree =
      (match tree.textAt (root.join file.path) with
        | .error error => .error error
        | .ok none => .ok (some .missing)
        | .ok (some existing) =>
            .ok (if existing = file.content then none else some .stale), tree) := by
  rw [check, run_bind (run_readIfExists tree (root.join file.path))]
  cases tree.textAt (root.join file.path) with
  | error error => rfl
  | ok existing => cases existing <;> rfl

/-- When every file can be compared, the check lists the differences in order. -/
theorem run_checkGenerated_of_forall {files : List GeneratedFile}
    {difference : GeneratedFile → Option Difference}
    (compared : ∀ file ∈ files,
      (file.check root : StateM FileTree _).run tree = (.ok (difference file), tree)) :
    (checkGenerated root files : StateM FileTree _).run tree =
      (.ok (files.flatMap fun file =>
        ((difference file).map fun kind => (file.path, kind)).toList), tree) := by
  induction files with
  | nil => rfl
  | cons file rest ih =>
      rw [List.forall_mem_cons] at compared
      rw [checkGenerated, run_bind compared.1]
      simp only
      rw [run_bind (ih compared.2)]
      rfl

/-! ## Files that are written over -/

/-- The last file of a list that leads to the location that a file leads to. -/
def lastTogether (tree : FileTree) (root : Path) (files : List GeneratedFile)
    (file : GeneratedFile) : Option GeneratedFile :=
  (tree.location? (root.join file.path)).bind fun location =>
    (filesAt tree root files location).getLast?

/-- Whether the last file that leads where a file leads has another content. -/
def isWrittenOver (tree : FileTree) (root : Path) (files : List GeneratedFile)
    (file : GeneratedFile) : Bool :=
  (lastTogether tree root files file).any fun last => last.content ≠ file.content

/-- A written file reads as the content of the last file that leads there. -/
theorem exists_lastTogether_of_written {files : List GeneratedFile} {report : WriteReport}
    (ran : (writeGenerated root files : StateM FileTree _).run tree = (report, after))
    (succeeded : report.failure = none) {file : GeneratedFile} (member : file ∈ files) :
    ∃ last, lastTogether after root files file = some last ∧
      after.readText (root.join file.path) = .ok last.content := by
  rcases exists_last_of_written ran succeeded member with ⟨location, last, isLast, resolved⟩
  refine ⟨last, ?_, readText_of_resolve resolved⟩
  rw [lastTogether, location?_eq_some resolved]
  exact isLast

/-- The check finds a written file stale exactly when it is written over. -/
theorem run_check_of_written {files : List GeneratedFile} {report : WriteReport}
    (ran : (writeGenerated root files : StateM FileTree _).run tree = (report, after))
    (succeeded : report.failure = none) {file : GeneratedFile} (member : file ∈ files) :
    (file.check root : StateM FileTree _).run after =
      (.ok (if isWrittenOver after root files file then some .stale else none), after) := by
  rcases exists_lastTogether_of_written ran succeeded member with ⟨last, isLast, read⟩
  rw [GeneratedFile.run_check, textAt_eq_some_iff.mpr read, isWrittenOver, isLast]
  by_cases same : last.content = file.content <;> simp [same]

/-- Listing a kind of difference where files differ is listing the files that do. -/
theorem flatMap_kind (differs : GeneratedFile → Prop) [DecidablePred differs]
    (kind : GeneratedFile → Difference) (files : List GeneratedFile) :
    (files.flatMap fun file =>
        ((if differs file then some (kind file) else none).map
          fun kind => (file.path, kind)).toList) =
      (files.filter differs).map fun file => (file.path, kind file) := by
  induction files with
  | nil => rfl
  | cons file rest ih =>
      rw [List.flatMap_cons, ih]
      by_cases stale : differs file <;> simp [stale]

/-- After files have been written, the check lists those that are written over. -/
theorem run_checkGenerated_of_written {files : List GeneratedFile} {report : WriteReport}
    (ran : (writeGenerated root files : StateM FileTree _).run tree = (report, after))
    (succeeded : report.failure = none) :
    (checkGenerated root files : StateM FileTree _).run after =
      (.ok ((files.filter (isWrittenOver after root files)).map
        fun file => (file.path, .stale)), after) := by
  rw [run_checkGenerated_of_forall fun file member => run_check_of_written ran succeeded member,
    flatMap_kind (fun file => isWrittenOver after root files file)]
  simp only [Bool.decide_eq_true]

/-- Files that lead to the same location with the same content are not written over. -/
theorem filter_isWrittenOver_eq_nil {files : List GeneratedFile}
    (consistent : ∀ first ∈ files, ∀ second ∈ files,
      tree.location? (root.join first.path) = tree.location? (root.join second.path) →
      first.content = second.content) :
    files.filter (isWrittenOver tree root files) = [] := by
  rw [List.filter_eq_nil_iff]
  intro file member writtenOver
  rcases (Option.any_eq_true _ _).mp writtenOver with ⟨last, isLast, differs⟩
  rcases Option.bind_eq_some_iff.mp isLast with ⟨location, leads, isLast⟩
  rcases mem_filesAt.mp (List.mem_of_getLast? isLast) with ⟨lastMember, lastLeads⟩
  have same := consistent last lastMember file member (lastLeads.trans leads.symm)
  simp [same] at differs

/-- Of files that have been written, none is written over exactly if those that lead to
the same location have the same content. -/
theorem filter_isWrittenOver_eq_nil_iff {files : List GeneratedFile} {report : WriteReport}
    (ran : (writeGenerated root files : StateM FileTree _).run tree = (report, after))
    (succeeded : report.failure = none) :
    files.filter (isWrittenOver after root files) = [] ↔
      ∀ first ∈ files, ∀ second ∈ files,
        after.location? (root.join first.path) = after.location? (root.join second.path) →
        first.content = second.content := by
  constructor
  case mpr => exact filter_isWrittenOver_eq_nil
  intro none first firstMember second secondMember same
  rw [List.filter_eq_nil_iff] at none
  rcases exists_lastTogether_of_written ran succeeded firstMember with ⟨last, isLast, _⟩
  have isLast' : lastTogether after root files second = some last := by
    rw [← isLast, lastTogether, lastTogether, same]
  have firstKept := none first firstMember
  have secondKept := none second secondMember
  simp only [isWrittenOver, isLast, isLast', Option.any_some, decide_eq_true_eq,
    Decidable.not_not] at firstKept secondKept
  rw [← firstKept, ← secondKept]

/-- After files have been written without a failure, every one of them leads somewhere,
and a check of the same files succeeds and lists as stale, in order, exactly those over
which a file of another content was written.  It lists none if files that lead to the
same location have the same content. -/
theorem checkGenerated_of_written {files : List GeneratedFile} {report : WriteReport}
    {summary : WriteSummary}
    (ran : (writeGenerated root files : StateM FileTree _).run tree = (report, after))
    (succeeded : report.outcome = .ok summary) :
    (∀ file ∈ files, ∃ last, lastTogether after root files file = some last) ∧
    (checkGenerated root files : StateM FileTree _).run after =
      (.ok ((files.filter (isWrittenOver after root files)).map
        fun file => (file.path, .stale)), after) ∧
    ((∀ first ∈ files, ∀ second ∈ files,
        after.location? (root.join first.path) = after.location? (root.join second.path) →
        first.content = second.content) →
      (checkGenerated root files : StateM FileTree _).run after = (.ok [], after)) := by
  have noFailure := failure_eq_none_of_outcome succeeded
  have checked := run_checkGenerated_of_written ran noFailure
  refine ⟨?_, checked, ?_⟩
  · intro file member
    rcases exists_lastTogether_of_written ran noFailure member with ⟨last, isLast, _⟩
    exact ⟨last, isLast⟩
  · intro consistent
    rw [checked, filter_isWrittenOver_eq_nil consistent, List.map_nil]

/-- A directory and a link to it. -/
def linkedTree : FileTree :=
  (FileTree.empty.put [] "d" .directory).put [] "l" (.link ⟨"d"⟩)

/-- Two files, of which the second leads to the first through the link. -/
def linkedFiles : List GeneratedFile :=
  [⟨⟨"d/x"⟩, "1"⟩, ⟨⟨"l/x"⟩, "2"⟩]

/-- The file that is written over through a link is stale. -/
theorem checkGenerated_of_written_through_link :
    ((writeGenerated ⟨"/"⟩ linkedFiles : StateM FileTree _).run linkedTree).1.outcome =
        .ok ⟨2, 0⟩ ∧
      ((checkGenerated ⟨"/"⟩ linkedFiles : StateM FileTree _).run
          ((writeGenerated ⟨"/"⟩ linkedFiles : StateM FileTree _).run linkedTree).2).1 =
        .ok [(⟨"d/x"⟩, .stale)] := by
  have succeeded :
      ((writeGenerated ⟨"/"⟩ linkedFiles : StateM FileTree _).run linkedTree).1.outcome =
        .ok ⟨2, 0⟩ := by cbv
  have writtenOver :
      linkedFiles.filter (isWrittenOver
        ((writeGenerated ⟨"/"⟩ linkedFiles : StateM FileTree _).run linkedTree).2
        ⟨"/"⟩ linkedFiles) = [⟨⟨"d/x"⟩, "1"⟩] := by cbv
  have ran : (writeGenerated ⟨"/"⟩ linkedFiles : StateM FileTree _).run linkedTree =
      (((writeGenerated ⟨"/"⟩ linkedFiles : StateM FileTree _).run linkedTree).1,
        ((writeGenerated ⟨"/"⟩ linkedFiles : StateM FileTree _).run linkedTree).2) := rfl
  rcases checkGenerated_of_written ran succeeded with ⟨_, checked, _⟩
  refine ⟨succeeded, ?_⟩
  rw [checked, writtenOver]
  rfl

end Inset
