import Inset.Command.Run
import Inset.Proofs.Command.Discovery

/-!
# When commands succeed

A command succeeds if a manifest is found and accepted and its action succeeds.  A
build succeeds if every file is written, and a check if no file differs.
-/

namespace Inset.Command

open FileTree

variable {tree after : FileTree} {directory root : Path} {manifest : Manifest}

/-! ## Actions -/

theorem exit_buildReport_eq_zero_iff {files : List GeneratedFile} {written : WriteReport} :
    (buildReport files written).exit = 0 ↔ written.failure = none := by
  rw [buildReport, WriteReport.outcome]
  cases written.failure with
  | none => exact iff_of_true rfl rfl
  | some error => simp [Report.failure, Report.after, failureCode]

theorem exit_checkReport_eq_zero_iff {files : List GeneratedFile}
    {differences : Except IoError (List (Path × Difference))} :
    (checkReport files differences).exit = 0 ↔ differences = .ok [] := by
  cases differences with
  | error error => simp [checkReport, Report.failure, failureCode]
  | ok differences =>
      cases differences <;> simp [checkReport, Report.failure, Report.after, failureCode]

/-- Building writes the files of a manifest. -/
theorem run_build {written : WriteReport}
    (ran : (writeGenerated root manifest.assemble : StateM FileTree _).run tree =
      (written, after)) :
    (Action.build.perform root manifest : StateM FileTree _).run tree =
      ((buildReport manifest.assemble written).after
        (manifest.hosts.flatMap (generationEvents manifest)), after) := by
  rw [Action.perform]
  exact run_bind ran

/-- Checking compares the files of a manifest with what is there. -/
theorem run_check {differences : Except IoError (List (Path × Difference))}
    (ran : (checkGenerated root manifest.assemble : StateM FileTree _).run tree =
      (differences, after)) :
    (Action.check.perform root manifest : StateM FileTree _).run tree =
      ((checkReport manifest.assemble differences).after
        (manifest.hosts.flatMap (generationEvents manifest)), after) := by
  rw [Action.perform]
  exact run_bind ran

/-! ## Commands -/

/-- A command that succeeds has found and accepted a manifest, and its action has
succeeded. -/
theorem exists_of_run {invocation : Invocation} {report : Report}
    (ran : (invocation.run directory : StateM FileTree _).run tree = (report, after))
    (succeeded : report.exit = 0) :
    ∃ found manifest performed,
      (findManifest directory invocation.manifest : StateM FileTree _).run tree =
        (.ok found, tree) ∧
      Manifest.ofToml found.text = .ok manifest ∧
      (invocation.action.perform found.directory manifest : StateM FileTree _).run tree =
        (performed, after) ∧
      performed.exit = 0 := by
  have searched := run_findManifest directory invocation.manifest tree
  rw [Invocation.run, run_bind searched] at ran
  generalize conclude directory invocation.manifest _ = result at searched ran
  cases result with
  | error error =>
      cases ran
      contradiction
  | ok found =>
      simp only at ran
      cases read : Manifest.ofToml found.text with
      | error error =>
          rw [read] at ran
          cases ran
          contradiction
      | ok manifest =>
          rw [read] at ran
          rcases acted : (invocation.action.perform found.directory manifest :
            StateM FileTree _).run tree with ⟨performed, last⟩
          simp only at ran
          rw [run_bind acted] at ran
          cases ran
          exact ⟨found, manifest, performed, searched, read, acted, succeeded⟩

/-- A command with an accepted manifest does what its action does. -/
theorem run_of_accepted {invocation : Invocation} {found : FoundManifest} {performed : Report}
    (searched : (findManifest directory invocation.manifest : StateM FileTree _).run tree =
      (.ok found, tree))
    (read : Manifest.ofToml found.text = .ok manifest)
    (ran : (invocation.action.perform found.directory manifest : StateM FileTree _).run tree =
      (performed, after)) :
    (invocation.run directory : StateM FileTree _).run tree =
      (performed.after [⟨.debug, .manifest, "Using manifest " ++ found.path.text⟩], after) := by
  rw [Invocation.run, run_bind searched]
  simp only [read]
  rw [run_bind ran]
  rfl

/-- A command with an accepted manifest ends as its action does. -/
theorem exit_run {invocation : Invocation} {found : FoundManifest} {performed : Report}
    (searched : (findManifest directory invocation.manifest : StateM FileTree _).run tree =
      (.ok found, tree))
    (read : Manifest.ofToml found.text = .ok manifest)
    (ran : (invocation.action.perform found.directory manifest : StateM FileTree _).run tree =
      (performed, after)) :
    ((invocation.run directory : StateM FileTree _).run tree).1.exit = performed.exit := by
  rw [run_of_accepted searched read ran]
  rfl

end Inset.Command
