import Inset.Proofs.FileTree.Rewriting
import Inset.Proofs.Generated.Failure
import Inset.Proofs.Generated.UpToDate

/-!
# Writing generated files twice

Once files have been written, every one of them leads to a text.  Writing them again then
cannot fail: no directory has to be made, and every text is written over in its place
(`exists_run_writeGenerated_again`).  Files may still write over each other, but each
location ends with the last of those that lead there, as it did before
(`writeGenerated_idempotent`).
-/

namespace Inset

open FileTree

variable {tree after : FileTree} {root : Path} {files : List GeneratedFile}

/-! ## Files that are there -/

/-- Whether every file of a list leads to a text. -/
def AreThere (tree : FileTree) (root : Path) (files : List GeneratedFile) : Prop :=
  ∀ file ∈ files, ∃ location text,
    tree.resolve .look (root.join file.path) =
      .ok (.found location (.file (String.toUTF8 text)) false)

/-- A file that is there is written in its place, or it is up to date. -/
theorem GeneratedFile.exists_run_write_again {file : GeneratedFile} {location : Location}
    {text : String}
    (resolved : tree.resolve .look (root.join file.path) =
      .ok (.found location (.file text.toUTF8) false)) :
    ∃ change after, (file.write root : StateM FileTree _).run tree = (.ok change, after) ∧
      after.get? location = some (.file file.content.toUTF8) ∧
      Grows tree after (· = location) fun _ => False := by
  have read : tree.textAt (root.join file.path) = .ok (some text) :=
    textAt_eq_some_iff_resolve.mpr ⟨location, resolved⟩
  rw [run_write, read]
  by_cases same : text = file.content
  · subst same
    exact ⟨.unchanged, tree, if_pos rfl, get?_of_resolve resolved, .refl tree⟩
  · rcases exists_writeCreating_of_resolve file.content resolved with
      ⟨after, writing, entry, grows⟩
    refine ⟨.written, after, ?_, entry, grows⟩
    simp only [writing]
    exact if_neg (by simpa using same)

/-- When one text is written over, a path that led to a text still leads to one. -/
theorem exists_text_of_rewritten {location location' : Location} {path : Path}
    {text content : String} (grows : Grows tree after (· = location) fun _ => False)
    (entry : after.get? location = some (.file content.toUTF8))
    (resolved : tree.resolve .look path = .ok (.found location' (.file text.toUTF8) false)) :
    ∃ text' : String,
      after.resolve .look path = .ok (.found location' (.file text'.toUTF8) false) := by
  by_cases here : location' = location
  · subst here
    exact ⟨content, resolve_file_of_grows grows resolved rfl entry⟩
  · have kept : after.get? location' = some (.file text.toUTF8) :=
      ((grows location').eq_of_neither here not_false).trans (get?_of_resolve resolved)
    exact ⟨text, resolve_file_of_grows grows resolved rfl kept⟩

/-- Files that are there can be written, and nothing is written but these files. -/
theorem exists_run_writeGenerated_again (there : AreThere tree root files) :
    ∃ report after, (writeGenerated root files : StateM FileTree _).run tree =
        (report, after) ∧ report.failure = none ∧
      Grows tree after (fun location => filesAt after root files location ≠ [])
        fun _ => False := by
  induction files generalizing tree with
  | nil => exact ⟨_, tree, rfl, rfl, .refl tree⟩
  | cons file rest ih =>
      rcases there file List.mem_cons_self with ⟨location, text, resolved⟩
      rcases GeneratedFile.exists_run_write_again resolved with
        ⟨change, middle, first, entry, firstGrows⟩
      have restThere : AreThere middle root rest := by
        intro other member
        rcases there other (List.mem_cons_of_mem file member) with ⟨location', _, resolved'⟩
        rcases exists_text_of_rewritten firstGrows entry resolved' with ⟨text', resolved''⟩
        exact ⟨location', text', resolved''⟩
      rcases ih restThere with ⟨report, after, later, succeeded, restGrows⟩
      have leads : after.location? (root.join file.path) = some location :=
        location?_of_grows restGrows (location?_of_grows firstGrows (location?_eq_some resolved))
      refine ⟨report.after (root.join file.path) change, after, ?_, succeeded, ?_⟩
      · rw [run_writeGenerated_cons, first]
        simp only [later]
      · refine (firstGrows.mono ?_ fun _ never => never).trans
          (restGrows.mono (fun _ present => filesAt_cons_ne_nil present) fun _ never => never)
        rintro _ rfl
        rw [filesAt_cons_of_eq leads]
        exact List.cons_ne_nil _ _

/-! ## A second time -/

theorem areThere_of_written {report : WriteReport}
    (ran : (writeGenerated root files : StateM FileTree _).run tree = (report, after))
    (succeeded : report.failure = none) : AreThere after root files := by
  intro file member
  rcases exists_last_of_written ran succeeded member with ⟨location, last, _, resolved⟩
  exact ⟨location, last.content, resolved⟩

/-- Where files lead does not change when they are written again. -/
theorem filesAt_of_grows {again : FileTree} {written made : Location → Prop}
    (there : AreThere after root files) (grows : Grows after again written made) :
    filesAt again root files = filesAt after root files := by
  funext location
  rw [filesAt, filesAt]
  apply List.filter_congr
  intro file member
  rcases there file member with ⟨location', _, resolved⟩
  have leads := location?_eq_some resolved
  rw [leads, location?_of_grows grows leads]

/-- Writing files again gives the tree that writing them once has given. -/
theorem get?_of_written_again {again : FileTree} {report report' : WriteReport}
    (ran : (writeGenerated root files : StateM FileTree _).run tree = (report, after))
    (succeeded : report.failure = none)
    (ran' : (writeGenerated root files : StateM FileTree _).run after = (report', again))
    (succeeded' : report'.failure = none)
    (grows : Grows after again (fun location => filesAt again root files location ≠ [])
      fun _ => False) (location : Location) :
    again.get? location = after.get? location := by
  by_cases untouched : filesAt again root files location = []
  · exact (grows location).eq_of_neither (not_not_intro untouched) not_false
  · obtain ⟨last, isLast⟩ : ∃ last, (filesAt again root files location).getLast? = some last :=
      ⟨_, List.getLast?_eq_some_getLast untouched⟩
    rw [get?_of_written ran' succeeded' isLast]
    rw [filesAt_of_grows (areThere_of_written ran succeeded) grows] at isLast
    exact (get?_of_written ran succeeded isLast).symm

/-- If files are written without a failure, each of them is counted, and writing them
again succeeds and gives the same tree.  Nothing is written the second time exactly if
files that lead to the same location have the same content. -/
theorem writeGenerated_idempotent {report : WriteReport} {summary : WriteSummary}
    (ran : (writeGenerated root files : StateM FileTree _).run tree = (report, after))
    (succeeded : report.outcome = .ok summary) :
    summary.written + summary.unchanged = files.length ∧
    ∃ report' summary' again,
      (writeGenerated root files : StateM FileTree _).run after = (report', again) ∧
      report'.outcome = .ok summary' ∧
      (∀ location, again.get? location = after.get? location) ∧
      (summary'.written = 0 ↔
        ∀ first ∈ files, ∀ second ∈ files,
          after.location? (root.join first.path) = after.location? (root.join second.path) →
          first.content = second.content) := by
  rcases WriteReport.outcome_eq_ok_iff.mp succeeded with ⟨noFailure, rfl⟩
  rcases exists_run_writeGenerated_again (areThere_of_written ran noFailure) with
    ⟨report', again, ran', noFailure', grows⟩
  refine ⟨?_, report', _, again, ran', WriteReport.outcome_eq_ok_iff.mpr ⟨noFailure', rfl⟩,
    get?_of_written_again ran noFailure ran' noFailure' grows, ?_⟩
  · rw [report.count_add_count, length_changes_of_written ran noFailure]
  · rw [count_written_eq_zero_iff_areUpToDate ran' noFailure',
      areUpToDate_of_written_iff ran noFailure]

/-- Two files with different contents that lead to one location, the second through the
link, are both written each time, and the second time changes nothing in the end. -/
theorem writeGenerated_idempotent_through_link :
    ∃ report after report' again,
      (writeGenerated ⟨"/"⟩ linkedFiles : StateM FileTree _).run linkedTree =
        (report, after) ∧
      report.outcome = .ok ⟨2, 0⟩ ∧
      (writeGenerated ⟨"/"⟩ linkedFiles : StateM FileTree _).run after = (report', again) ∧
      report'.outcome = .ok ⟨2, 0⟩ ∧
      ∀ location, again.get? location = after.get? location := by
  rcases ran : (writeGenerated ⟨"/"⟩ linkedFiles : StateM FileTree _).run linkedTree
    with ⟨report, after⟩
  have succeeded : report.outcome = .ok ⟨2, 0⟩ := by
    have evaluated : ((writeGenerated ⟨"/"⟩ linkedFiles : StateM FileTree _).run
        linkedTree).1.outcome = .ok ⟨2, 0⟩ := by cbv
    rwa [ran] at evaluated
  rcases writeGenerated_idempotent ran succeeded with
    ⟨_, report', summary', again, ran', succeeded', same, _⟩
  refine ⟨report, after, report', again, rfl, succeeded, ran', ?_, same⟩
  have evaluated : ((writeGenerated ⟨"/"⟩ linkedFiles : StateM FileTree _).run
      ((writeGenerated ⟨"/"⟩ linkedFiles : StateM FileTree _).run
        linkedTree).2).1.outcome = .ok ⟨2, 0⟩ := by cbv
  rwa [ran, ran'] at evaluated

end Inset
