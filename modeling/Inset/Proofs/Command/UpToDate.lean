import Inset.Proofs.Command.Running
import Inset.Proofs.Generated.UpToDate

/-!
# When a build has nothing to do

A build and a check of the same tree find the same manifest, and the check succeeds
exactly if the build would succeed without writing a file.  A build tells of every file
that it writes, so that this can be seen from its events.
-/

namespace Inset.Command

open FileTree

variable {tree after : FileTree} {directory root : Path} {manifest : Manifest}

/-! ## What a build tells -/

/-- Whether no event of a report tells of a file that was written. -/
def Report.WroteNothing (report : Report) : Prop :=
  ∀ path, changeEvent (path, .written) ∉ report.events

theorem level_of_generationEvents {entry : HostEntry} {event : Event}
    (member : event ∈ generationEvents manifest entry) : event.level ≠ .info := by
  rw [generationEvents] at member
  split at member
  · rcases List.mem_cons.mp member with rfl | last
    · exact Level.noConfusion
    · rw [List.mem_singleton.mp last]
      exact Level.noConfusion
  · rw [List.mem_singleton.mp member]
    exact Level.noConfusion

/-- The events of a build that succeeds: those of the changes, and the counts. -/
theorem exists_events_buildReport (files : List GeneratedFile) {written : WriteReport}
    (succeeded : written.failure = none) :
    ∃ counts, (buildReport files written).events =
      written.changes.map changeEvent ++ [⟨.info, .build, counts⟩] := by
  rw [buildReport, WriteReport.outcome, succeeded]
  exact ⟨_, rfl⟩

/-- A build that succeeds tells of no written file exactly if every file is unchanged. -/
theorem wroteNothing_build_iff {files : List GeneratedFile} {written : WriteReport}
    (succeeded : written.failure = none) (manifest : Manifest) (shown : String) :
    (((buildReport files written).after
        (manifest.hosts.flatMap (generationEvents manifest))).after
          [⟨.debug, .manifest, shown⟩]).WroteNothing ↔
      ∀ change ∈ written.changes, change.2 = .unchanged := by
  rcases exists_events_buildReport files succeeded with ⟨counts, events⟩
  simp only [Report.WroteNothing, Report.after, events, List.mem_append, List.mem_singleton]
  constructor
  · rintro nothing ⟨path, change⟩ member
    cases change with
    | unchanged => rfl
    | written =>
        have told : changeEvent (path, .written) ∈ written.changes.map changeEvent :=
          List.mem_map_of_mem member
        exact absurd (.inr (.inr (.inl told))) (nothing path)
  · intro unchanged path told
    rcases told with searching | generating | change | counting
    · cases searching
    · rcases List.mem_flatMap.mp generating with ⟨entry, _, here⟩
      exact level_of_generationEvents here rfl
    · rcases List.mem_map.mp change with ⟨change, member, same⟩
      have level := congrArg Event.level same
      rw [changeEvent, unchanged change member] at level
      cases level
    · cases counting

/-! ## Both commands in one tree -/

variable {named : Option Path} {checkVerbose buildVerbose : Bool}

/-- A check that succeeds has found files that are up to date, and a build in the same
tree then succeeds, writes nothing and leaves the tree alone. -/
theorem run_build_of_check
    (checked : ((Invocation.run ⟨named, checkVerbose, .check⟩ directory :
      StateM FileTree _).run tree).1.exit = 0) :
    ∃ report, (Invocation.run ⟨named, buildVerbose, .build⟩ directory :
      StateM FileTree _).run tree = (report, tree) ∧ report.exit = 0 ∧ report.WroteNothing := by
  rcases exists_of_run rfl checked with ⟨found, manifest, _, searched, read, acted, exit⟩
  rcases compared : (checkGenerated found.directory manifest.assemble :
    StateM FileTree _).run tree with ⟨differences, last⟩
  rw [run_check compared] at acted
  rw [← (Prod.mk.inj acted).1] at exit
  have none : differences = .ok [] := exit_checkReport_eq_zero_iff.mp exit
  have upToDate : AreUpToDate tree found.directory manifest.assemble :=
    checkGenerated_eq_nil_iff_areUpToDate.mp (by rw [compared]; exact none)
  refine ⟨_, run_of_accepted searched read
    (run_build (run_writeGenerated_of_areUpToDate upToDate)), ?_, ?_⟩
  · exact exit_buildReport_eq_zero_iff.mpr rfl
  · rw [wroteNothing_build_iff rfl]
    intro change member
    rcases List.mem_map.mp member with ⟨file, _, rfl⟩
    rfl

/-- A build that succeeds and writes nothing has found files that are up to date, and a
check in the same tree succeeds. -/
theorem exit_check_of_build {report : Report}
    (ran : (Invocation.run ⟨named, buildVerbose, .build⟩ directory :
      StateM FileTree _).run tree = (report, after))
    (succeeded : report.exit = 0) (nothing : report.WroteNothing) :
    ((Invocation.run ⟨named, checkVerbose, .check⟩ directory :
      StateM FileTree _).run tree).1.exit = 0 := by
  rcases exists_of_run ran succeeded with ⟨found, manifest, _, searched, read, acted, exit⟩
  rcases wrote : (writeGenerated found.directory manifest.assemble :
    StateM FileTree _).run tree with ⟨written, last⟩
  rw [run_build wrote] at acted
  have noFailure : written.failure = none := by
    rw [← (Prod.mk.inj acted).1] at exit
    exact exit_buildReport_eq_zero_iff.mp exit
  rw [run_of_accepted searched read (run_build wrote)] at ran
  rw [← (Prod.mk.inj ran).1, wroteNothing_build_iff noFailure] at nothing
  have upToDate := areUpToDate_of_unchanged wrote noFailure nothing
  rcases compared : (checkGenerated found.directory manifest.assemble :
    StateM FileTree _).run tree with ⟨differences, unchanged⟩
  have ended : ((Invocation.run ⟨named, checkVerbose, .check⟩ directory :
      StateM FileTree _).run tree).1.exit = _ := exit_run searched read (run_check compared)
  have none := checkGenerated_eq_nil_iff_areUpToDate.mpr upToDate
  rw [compared] at none
  exact ended.trans (exit_checkReport_eq_zero_iff.mpr none)

/-- In one and the same tree, a check finds no difference exactly if writing the files
would succeed with none of them written, and then it would leave the tree alone and count
every file as unchanged.  So the check of a manifest succeeds exactly if a build of the
same manifest would succeed without writing a file. -/
theorem check_succeeds_tfae_build_writes_nothing :
    (∀ (tree : FileTree) (root : Path) (files : List GeneratedFile), List.TFAE [
      ((checkGenerated root files : StateM FileTree _).run tree).1 = .ok [],
      ∃ unchanged, ((writeGenerated root files : StateM FileTree _).run tree).1.outcome =
        .ok ⟨0, unchanged⟩,
      ∃ report, (writeGenerated root files : StateM FileTree _).run tree = (report, tree) ∧
        report.outcome = .ok ⟨0, files.length⟩]) ∧
    ∀ (tree : FileTree) (directory : Path) (named : Option Path)
      (checkVerbose buildVerbose : Bool), List.TFAE [
      ((Invocation.run ⟨named, checkVerbose, .check⟩ directory :
        StateM FileTree _).run tree).1.exit = 0,
      ((Invocation.run ⟨named, buildVerbose, .build⟩ directory :
          StateM FileTree _).run tree).1.exit = 0 ∧
        ((Invocation.run ⟨named, buildVerbose, .build⟩ directory :
          StateM FileTree _).run tree).1.WroteNothing,
      ∃ report, (Invocation.run ⟨named, buildVerbose, .build⟩ directory :
          StateM FileTree _).run tree = (report, tree) ∧
        report.exit = 0 ∧ report.WroteNothing] := by
  constructor
  · intro tree root files
    tfae_have 1 ↔ 2 :=
      checkGenerated_eq_nil_iff_areUpToDate.trans exists_outcome_iff_areUpToDate.symm
    tfae_have 1 → 3 := by
      intro checked
      have upToDate := checkGenerated_eq_nil_iff_areUpToDate.mp checked
      refine ⟨_, run_writeGenerated_of_areUpToDate upToDate, ?_⟩
      rw [WriteReport.outcome_of_unchanged rfl (by simp), List.length_map]
    tfae_have 3 → 2 := by
      rintro ⟨report, ran, outcome⟩
      exact ⟨files.length, by rw [ran]; exact outcome⟩
    tfae_finish
  · intro tree directory named checkVerbose buildVerbose
    tfae_have 1 → 3 := run_build_of_check
    tfae_have 3 → 2 := by
      rintro ⟨report, ran, succeeded, nothing⟩
      rw [ran]
      exact ⟨succeeded, nothing⟩
    tfae_have 2 → 1 := by
      rintro ⟨succeeded, nothing⟩
      exact exit_check_of_build rfl succeeded nothing
    tfae_finish

end Inset.Command
